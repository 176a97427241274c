import Mathlib
import RmwZzdds.Wait.Call

/-!
# What one call of `rmw_wait` leaves

A call succeeds just if all its checks, attachments and the zzdds wait do
(`Prepared`).  Then the entries that stay in the arrays are those whose conditions
are active (`Woken`).  On every return nothing that the call attached is left
attached, and a call that fails has written nothing (`rmwWait_partitions`).

The loops that attach stop at an entity of another context or at an attachment that
fails.  `attachEach_spec` is the lemma for all five of them.
-/

namespace RmwZzdds.Wait

open Event (EventType)
open Lifecycle (identifier)
open Std.Do

set_option mvcgen.warning false

section

variable {Context Read Guard : Type} [DecidableEq Read] [DecidableEq Guard]
  (o : ZzddsOutcomes Read Guard)

/-! ## Attaching -/

/-- The call has attached the conditions and done nothing else. -/
structure Attaching (s₀ : Memory Context Read Guard) (conditions : List (DdsCondition Read Guard))
    (s : Memory Context Read Guard) : Prop where
  arguments : s.arguments = s₀.arguments
  written : s.written = s₀.written
  made : s.made = conditions.toFinset
  attached : s.attached = s₀.attached ∪ conditions.toFinset
  attempts : s.attempts = s₀.attempts + conditions.length
  attaches : ∀ i < conditions.length, o.attaches (s₀.attempts + i) = true

/-- The call has detached what it attached and done nothing else. -/
structure Released (s₀ s : Memory Context Read Guard) : Prop where
  arguments : s.arguments = s₀.arguments
  written : s.written = s₀.written
  attached : s.attached = s₀.attached \ s.made

/-- The call returns an error and has detached what it attached. -/
def Refused (s₀ : Memory Context Read Guard) (ret : Ret) (s : Memory Context Read Guard) : Prop :=
  (ret ≠ .ok ∧ ret ≠ .timeout) ∧ Released s₀ s

/-- The call has attached the first of the conditions and not all of them.  If the loops
get through, an attachment has failed. -/
structure Stopped (s₀ : Memory Context Read Guard) (conditions : List (DdsCondition Read Guard))
    (through : Prop) (s : Memory Context Read Guard) : Prop where
  made : ∃ first, first <+: conditions ∧ s.made = first.toFinset
  cause : through → ∃ i < conditions.length, o.attaches (s₀.attempts + i) = false

/-- A loop has stopped within its entries. -/
def StoppedIn {α : Type} (s₀ : Memory Context Read Guard)
    (attached : List (DdsCondition Read Guard))
    (condition : α → Option (DdsCondition Read Guard)) (entries : List (Option α))
    (s : Memory Context Read Guard) : Prop :=
  ∃ front, front <+: entries ∧ (∀ x, some x ∈ front → (condition x).isSome = true) ∧
    s.made = (attached ++ front.reduceOption.filterMap condition).toFinset ∧
    ((∀ x, some x ∈ entries → (condition x).isSome = true) →
      ∃ i < (attached ++ entries.reduceOption.filterMap condition).length,
        o.attaches (s₀.attempts + i) = false)

/-- A loop has attached the conditions of all its entries. -/
structure Through {α : Type} (attached : List (DdsCondition Read Guard))
    (condition : α → Option (DdsCondition Read Guard)) (entries : List (Option α))
    (conditions : List (DdsCondition Read Guard)) : Prop where
  conditions : conditions = attached ++ entries.reduceOption.filterMap condition
  found : ∀ x, some x ∈ entries → (condition x).isSome = true

variable {o}

namespace Attaching

variable {s₀ s : Memory Context Read Guard} {conditions : List (DdsCondition Read Guard)}

theorem attach (h : Attaching o s₀ conditions s) (condition : DdsCondition Read Guard)
    (hattaches : o.attaches s.attempts = true) : Attaching o s₀ (conditions ++ [condition])
      { s with
        attached := insert condition s.attached
        made := insert condition s.made
        attempts := s.attempts + 1 } where
  arguments := h.arguments
  written := h.written
  made := by
    rw [h.made, List.toFinset_append, Finset.union_comm]
    rfl
  attached := by
    show insert condition s.attached = _
    rw [h.attached, List.toFinset_append, ← Finset.union_assoc,
      Finset.union_comm _ [condition].toFinset]
    rfl
  attempts := by
    rw [h.attempts, List.length_append]
    rfl
  attaches i hi := by
    rw [List.length_append, List.length_singleton] at hi
    obtain hlt | rfl := Nat.lt_succ_iff_lt_or_eq.mp hi
    · exact h.attaches i hlt
    · rw [← h.attempts]
      exact hattaches

theorem released (h : Attaching o s₀ conditions s) (attempts : ℕ) :
    Released s₀ { s with
      attached := s.attached \ conditions.toFinset
      attempts := attempts } where
  arguments := h.arguments
  written := h.written
  attached := by
    rw [h.made, h.attached, Finset.union_sdiff_right]

/-- Nothing of the next array is attached yet. -/
theorem stoppedIn {α : Type} {condition : α → Option (DdsCondition Read Guard)}
    {entries : List (Option α)} (h : Attaching o s₀ conditions s) {s' : Memory Context Read Guard}
    (hmade : s'.made = s.made)
    (hcause : (∀ x, some x ∈ entries → (condition x).isSome = true) →
      entries.reduceOption.filterMap condition ≠ [] ∧ o.attaches s.attempts = false) :
    StoppedIn o s₀ conditions condition entries s' := by
  refine ⟨[], List.nil_prefix, fun _ hx => absurd hx List.not_mem_nil, ?_, fun hthrough => ?_⟩
  · rw [hmade, h.made]
    exact congrArg List.toFinset (List.append_nil _).symm
  · obtain ⟨hne, hfailed⟩ := hcause hthrough
    refine ⟨conditions.length, ?_, ?_⟩
    · rw [List.length_append]
      exact Nat.lt_add_of_pos_right (List.length_pos_of_ne_nil hne)
    · rw [← h.attempts]
      exact hfailed

end Attaching

omit [DecidableEq Read] [DecidableEq Guard] in
/-- An event of a context has data, and so a condition. -/
theorem RmwEvent.isSome_condition [DecidableEq Context] {context : Context}
    (event : RmwEvent Context Read Guard) :
    (if event.implementationIdentifier = some identifier ∧
        event.data.map EventData.context = some context then event.condition else none).isSome =
      true ↔ event.implementationIdentifier = some identifier ∧
        event.data.map EventData.context = some context := by
  split
  next h =>
    obtain ⟨impl, hdata, -⟩ := Option.map_eq_some_iff.mp h.2
    refine iff_of_true ?_ h
    rw [RmwEvent.condition, hdata]
    rfl
  next h => exact iff_of_false Bool.false_ne_true h

section Loops

variable {α : Type} {condition own : α → Option (DdsCondition Read Guard)}
  {entries : List (Option α)} {attached : List (DdsCondition Read Guard)}
  {s₀ s : Memory Context Read Guard}

omit [DecidableEq Read] [DecidableEq Guard] in
/-- The conditions that the loop finds are those of the entities. -/
theorem filterMap_own (hown : ∀ x c, condition x = some c → own x = some c)
    (hthrough : ∀ x, some x ∈ entries → (condition x).isSome = true) :
    entries.reduceOption.filterMap condition = entries.reduceOption.filterMap own := by
  refine List.filterMap_congr fun x hx => ?_
  obtain ⟨c, hc⟩ := Option.isSome_iff_exists.mp (hthrough x (List.reduceOption_mem_iff.mp hx))
  rw [hc, hown x c hc]

theorem StoppedIn.cons_none (h : StoppedIn o s₀ attached condition entries s) :
    StoppedIn o s₀ attached condition (none :: entries) s := by
  obtain ⟨front, hfront, hfound, hmade, hcause⟩ := h
  refine ⟨none :: front, List.cons_prefix_cons.mpr ⟨rfl, hfront⟩, ?_, hmade, ?_⟩
  · intro x hx
    exact hfound x (by simpa using hx)
  · intro hthrough
    exact hcause fun x hx => hthrough x (List.mem_cons_of_mem _ hx)

theorem StoppedIn.cons_some {entity : α} {c : DdsCondition Read Guard}
    (hc : condition entity = some c)
    (h : StoppedIn o s₀ (attached ++ [c]) condition entries s) :
    StoppedIn o s₀ attached condition (some entity :: entries) s := by
  have hstep : ∀ rest : List (Option α),
      attached ++ (some entity :: rest).reduceOption.filterMap condition =
        attached ++ [c] ++ rest.reduceOption.filterMap condition := by
    intro rest
    rw [List.reduceOption_cons_of_some, List.filterMap_cons_some hc, List.append_assoc]
    rfl
  obtain ⟨front, hfront, hfound, hmade, hcause⟩ := h
  refine ⟨some entity :: front, List.cons_prefix_cons.mpr ⟨rfl, hfront⟩, ?_, ?_, ?_⟩
  · intro x hx
    obtain heq | hx := List.mem_cons.mp hx
    · cases heq
      rw [hc]
      rfl
    · exact hfound x hx
  · rw [hmade, hstep]
  · intro hthrough
    rw [hstep]
    exact hcause fun x hx => hthrough x (List.mem_cons_of_mem _ hx)

theorem StoppedIn.stopped {belongs : α → Prop}
    (hown : ∀ x c, condition x = some c → own x = some c)
    (hbelongs : ∀ x, (condition x).isSome = true ↔ belongs x)
    (h : StoppedIn o s₀ attached condition entries s) :
    Stopped o s₀ (attached ++ entries.reduceOption.filterMap own)
      (∀ x, some x ∈ entries → belongs x) s := by
  obtain ⟨front, hfront, hfound, hmade, hcause⟩ := h
  constructor
  · refine ⟨_, ?_, hmade⟩
    rw [filterMap_own hown hfound, List.prefix_append_right_inj]
    obtain ⟨rest, rfl⟩ := hfront
    rw [List.reduceOption_append, List.filterMap_append]
    exact List.prefix_append _ _
  · intro hthrough
    have hall : ∀ x, some x ∈ entries → (condition x).isSome = true := fun x hx =>
      (hbelongs x).mpr (hthrough x hx)
    rw [← filterMap_own hown hall]
    exact hcause hall

theorem Stopped.imp {conditions : List (DdsCondition Read Guard)} {through through' : Prop}
    (h : Stopped o s₀ conditions through s) (hthrough : through' → through) :
    Stopped o s₀ conditions through' s :=
  ⟨h.made, fun h' => h.cause (hthrough h')⟩

/-- The loops after it have not begun. -/
theorem Stopped.append {conditions : List (DdsCondition Read Guard)} {through : Prop}
    (h : Stopped o s₀ conditions through s) (rest : List (DdsCondition Read Guard)) :
    Stopped o s₀ (conditions ++ rest) through s := by
  obtain ⟨⟨first, hfirst, hmade⟩, hcause⟩ := h
  refine ⟨⟨first, hfirst.trans (List.prefix_append _ _), hmade⟩, fun h => ?_⟩
  obtain ⟨i, hi, hfailed⟩ := hcause h
  rw [List.length_append]
  exact ⟨i, Nat.lt_add_right _ hi, hfailed⟩

omit [DecidableEq Read] [DecidableEq Guard] in
theorem Through.nil : Through attached condition [] attached :=
  ⟨(List.append_nil _).symm, fun _ hx => absurd hx List.not_mem_nil⟩

omit [DecidableEq Read] [DecidableEq Guard] in
theorem Through.cons_none {conditions : List (DdsCondition Read Guard)}
    (h : Through attached condition entries conditions) :
    Through attached condition (none :: entries) conditions :=
  ⟨h.conditions, fun x hx => h.found x (by simpa using hx)⟩

omit [DecidableEq Read] [DecidableEq Guard] in
theorem Through.cons_some {entity : α} {c : DdsCondition Read Guard}
    {conditions : List (DdsCondition Read Guard)} (hc : condition entity = some c)
    (h : Through (attached ++ [c]) condition entries conditions) :
    Through attached condition (some entity :: entries) conditions := by
  constructor
  · rw [h.conditions, List.reduceOption_cons_of_some, List.filterMap_cons_some hc,
      List.append_assoc]
    rfl
  · intro x hx
    obtain heq | hx := List.mem_cons.mp hx
    · cases heq
      rw [hc]
      rfl
    · exact h.found x hx

end Loops

variable (o)

@[spec] theorem detachConditions_spec (attached : List (DdsCondition Read Guard))
    (s₁ : Memory Context Read Guard) :
    ⦃fun s => ⌜s = s₁⌝⦄ detachConditions attached
    ⦃⇓ _ => fun s => ⌜s = { s₁ with attached := s₁.attached \ attached.toFinset }⌝⦄ := by
  induction attached generalizing s₁ with
  | nil =>
      mvcgen [detachConditions]
      next h => simp [h]
  | cons condition attached ih =>
      mvcgen [detachConditions, ih]
      next s hs _ _ s' =>
        subst hs
        rintro rfl
        simp +zetaDelta [Finset.erase_sdiff_comm, Finset.sdiff_insert]

@[spec] theorem attachCondition_spec (condition : DdsCondition Read Guard)
    (s₁ : Memory Context Read Guard) :
    ⦃fun s => ⌜s = s₁⌝⦄ attachCondition o condition
    ⦃⇓ r => fun s => ⌜r = o.attaches s₁.attempts ∧ s = if r then { s₁ with
        attached := insert condition s₁.attached
        made := insert condition s₁.made
        attempts := s₁.attempts + 1 } else { s₁ with attempts := s₁.attempts + 1 }⌝⦄ := by
  mvcgen [attachCondition]
  next hs _ => simp_all
  next hs _ => simp_all

theorem attachEach_spec {α : Type} (condition : α → Option (DdsCondition Read Guard))
    {failed : Ret} (hfailed : failed ≠ .ok ∧ failed ≠ .timeout) (entries : List (Option α))
    (attached : List (DdsCondition Read Guard)) (s₀ : Memory Context Read Guard) :
    ⦃fun s => ⌜Attaching o s₀ attached s⌝⦄ attachEach o condition failed entries attached
    ⦃post⟨fun r s => ⌜Through attached condition entries r ∧ Attaching o s₀ r s⌝,
      fun ret s => ⌜Refused s₀ ret s ∧ StoppedIn o s₀ attached condition entries s⌝⟩⦄ := by
  induction entries generalizing attached with
  | nil =>
      mvcgen [attachEach]
      next h => exact ⟨.nil, h⟩
  | cons entry entries ih =>
      cases entry with
      | none =>
          mvcgen [attachEach, ih]
          next => exact fun h hs => ⟨h.cons_none, hs⟩
          next => exact fun h hs => ⟨h, hs.cons_none⟩
      | some entity =>
          mvcgen [attachEach, ih]
          next hnone s h _ _ hs =>
            subst hs
            refine ⟨⟨by decide, h.released _⟩, h.stoppedIn rfl fun hthrough => ?_⟩
            have hfound := hthrough entity (List.mem_cons_self ..)
            rw [hnone] at hfound
            cases hfound
          next condition' hc s h r hr s' hs =>
            obtain ⟨hattaches, rfl⟩ := hs
            subst hr
            exact h.attach condition' hattaches.symm
          next hc s h r hr s' hs r' s'' =>
            exact fun hthrough hs => ⟨hthrough.cons_some hc, hs⟩
          next hc s h r hr s' hs ret s'' =>
            exact fun hrefused hstopped => ⟨hrefused, hstopped.cons_some hc⟩
          next condition' hc s h r hr s' hs _ _ hs' =>
            rw [if_neg hr] at hs
            obtain ⟨hattaches, rfl⟩ := hs
            subst hs'
            refine ⟨⟨hfailed, h.released _⟩, h.stoppedIn rfl fun _ => ⟨?_, ?_⟩⟩
            · rw [List.reduceOption_cons_of_some, List.filterMap_cons_some hc]
              exact List.cons_ne_nil _ _
            · rw [← hattaches]
              exact Bool.eq_false_iff.mpr hr

/-- The same for the conditions of the entities and what the loop asks of them. -/
theorem attachEach_own_spec {α : Type} (condition own : α → Option (DdsCondition Read Guard))
    (belongs : α → Prop) (hown : ∀ x c, condition x = some c → own x = some c)
    (hbelongs : ∀ x, (condition x).isSome = true ↔ belongs x) {failed : Ret}
    (hfailed : failed ≠ .ok ∧ failed ≠ .timeout) (array : EntityArray α)
    (s₀ : Memory Context Read Guard) (attached : List (DdsCondition Read Guard)) :
    ⦃fun s => ⌜Attaching o s₀ attached s⌝⦄ attachEach o condition failed array.list attached
    ⦃post⟨fun r s => ⌜(r = attached ++ array.conditions own ∧
        ∀ x, some x ∈ array.list → belongs x) ∧ Attaching o s₀ r s⌝,
      fun ret s => ⌜Refused s₀ ret s ∧ Stopped o s₀ (attached ++ array.conditions own)
        (∀ x, some x ∈ array.list → belongs x) s⌝⟩⦄ := by
  have hloop := attachEach_spec o condition hfailed array.list attached s₀
  mvcgen [hloop]
  next =>
    intro hthrough hs
    refine ⟨⟨?_, fun x hx => (hbelongs x).mp (hthrough.found x hx)⟩, hs⟩
    rw [hthrough.conditions, filterMap_own hown hthrough.found]
    rfl
  next => exact fun hrefused hstopped => ⟨hrefused, hstopped.stopped hown hbelongs⟩

@[spec] theorem attachAll_spec [DecidableEq Context] (context : Context)
    (arguments : Arguments Context Read Guard) (s₀ : Memory Context Read Guard) :
    ⦃fun s => ⌜Attaching o s₀ [] s⌝⦄ attachAll o context arguments
    ⦃post⟨fun r s => ⌜(r = arguments.conditions ∧ arguments.OneContext context) ∧
        Attaching o s₀ r s⌝,
      fun ret s => ⌜Refused s₀ ret s ∧
        Stopped o s₀ arguments.conditions (arguments.OneContext context) s⌝⟩⦄ := by
  have herror : Ret.error ≠ .ok ∧ Ret.error ≠ .timeout := by decide
  have hinvalid : Ret.invalidArgument ≠ .ok ∧ Ret.invalidArgument ≠ .timeout := by decide
  have hsubscriptions := attachEach_own_spec o
    (fun subscription : SubscriptionImpl Context Read Guard =>
      if subscription.context = context then some subscription.condition else none)
    (fun x => some x.condition) (fun x => x.context = context)
    (by simp +contextual) (by simp) herror arguments.subscriptions s₀
  have hguards := attachEach_own_spec o
    (fun guard : GuardConditionImpl Context Guard =>
      if guard.context.bind (·.impl) = some context then some guard.condition else none)
    (fun x => some x.condition) (fun x => x.context.bind (·.impl) = some context)
    (by simp +contextual) (by simp) herror arguments.guardConditions s₀
  have hservices := attachEach_own_spec o
    (fun service : ServiceImpl Context Read Guard =>
      if service.context = context then some service.condition else none)
    (fun x => some x.condition) (fun x => x.context = context)
    (by simp +contextual) (by simp) herror arguments.services s₀
  have hclients := attachEach_own_spec o
    (fun client : ClientImpl Context Read Guard =>
      if client.context = context then some client.condition else none)
    (fun x => some x.condition) (fun x => x.context = context)
    (by simp +contextual) (by simp) herror arguments.clients s₀
  have hevents := attachEach_own_spec o
    (fun event : RmwEvent Context Read Guard =>
      if event.implementationIdentifier = some identifier ∧
        event.data.map EventData.context = some context then event.condition else none)
    RmwEvent.condition
    (fun x => x.implementationIdentifier = some identifier ∧
      x.data.map EventData.context = some context)
    (by simp +contextual) RmwEvent.isSome_condition hinvalid arguments.events s₀
  mvcgen [attachAll, hsubscriptions, hguards, hservices, hclients, hevents]
  next h => exact h.2
  next h => exact h.2
  next h => exact h.2
  next h => exact h.2
  next h₁ _ _ h₂ _ _ h₃ _ _ h₄ _ _ =>
    obtain ⟨⟨rfl, hsubscription⟩, -⟩ := h₁
    obtain ⟨⟨rfl, hguard⟩, -⟩ := h₂
    obtain ⟨⟨rfl, hservice⟩, -⟩ := h₃
    obtain ⟨⟨rfl, hclient⟩, -⟩ := h₄
    rintro rfl hevent hs
    exact ⟨⟨rfl, hsubscription, hguard, hservice, hclient, hevent⟩, hs⟩
  -- In each of the loops.
  next h₁ _ _ h₂ _ _ h₃ _ _ h₄ _ _ =>
    obtain ⟨⟨rfl, -⟩, -⟩ := h₁
    obtain ⟨⟨rfl, -⟩, -⟩ := h₂
    obtain ⟨⟨rfl, -⟩, -⟩ := h₃
    obtain ⟨⟨rfl, -⟩, -⟩ := h₄
    exact fun hrefused hstopped => ⟨hrefused, hstopped.imp fun h => h.events⟩
  next h₁ _ _ h₂ _ _ h₃ _ _ =>
    obtain ⟨⟨rfl, -⟩, -⟩ := h₁
    obtain ⟨⟨rfl, -⟩, -⟩ := h₂
    obtain ⟨⟨rfl, -⟩, -⟩ := h₃
    exact fun hrefused hstopped => ⟨hrefused, (hstopped.imp fun h => h.clients).append _⟩
  next h₁ _ _ h₂ _ _ =>
    obtain ⟨⟨rfl, -⟩, -⟩ := h₁
    obtain ⟨⟨rfl, -⟩, -⟩ := h₂
    exact fun hrefused hstopped =>
      ⟨hrefused, ((hstopped.imp fun h => h.services).append _).append _⟩
  next h₁ _ _ =>
    obtain ⟨⟨rfl, -⟩, -⟩ := h₁
    exact fun hrefused hstopped =>
      ⟨hrefused, (((hstopped.imp fun h => h.guardConditions).append _).append _).append _⟩
  next =>
    exact fun hrefused hstopped =>
      ⟨hrefused, ((((hstopped.imp fun h => h.subscriptions).append _).append _).append _).append _⟩

/-! ## Looking at the active conditions -/

@[spec] theorem retainGuards_spec (active : List (DdsCondition Read Guard))
    (entries : List (Option (GuardConditionImpl Context Guard)))
    (s₁ : Memory Context Read Guard) :
    ⦃fun s => ⌜s = s₁⌝⦄ retainGuards active entries
    ⦃⇓ r => fun s => ⌜r = retain active (fun x => some x.condition) entries ∧
      s = { s₁ with written := s₁.written ++
        r.reduceOption.map fun guard => (guard.native, false) }⌝⦄ := by
  induction entries generalizing s₁ with
  | nil =>
      mvcgen [retainGuards]
      next hs => simp [hs, retain, List.reduceOption]
  | cons entry entries ih =>
      cases entry with
      | none =>
          mvcgen [retainGuards, ih]
          next hs _ _ h =>
            obtain ⟨rfl, rfl⟩ := h
            simp [hs, retain, List.reduceOption]
      | some guard =>
          mvcgen [retainGuards, ih, setTriggerValue]
          next hactive _ hs _ _ _ h =>
            obtain ⟨rfl, rfl⟩ := h
            subst hs
            simp +zetaDelta [retain, List.reduceOption, Option.filter_some, hactive]
          next hactive _ hs _ _ h =>
            obtain ⟨rfl, rfl⟩ := h
            simp [hs, retain, List.reduceOption, Option.filter_some, hactive]

/-- The arrays with the entries null whose conditions are not active. -/
def Arguments.retained (arguments : Arguments Context Read Guard)
    (active : List (DdsCondition Read Guard)) : Arguments Context Read Guard where
  subscriptions := arguments.subscriptions.map (retain active fun x => some x.condition)
  guardConditions := arguments.guardConditions.map (retain active fun x => some x.condition)
  services := arguments.services.map (retain active fun x => some x.condition)
  clients := arguments.clients.map (retain active fun x => some x.condition)
  events := arguments.events.map (retain active RmwEvent.condition)

/-- What is written for the guard conditions that are left. -/
def Arguments.resets (arguments : Arguments Context Read Guard) : List (Guard × Bool) :=
  arguments.guardConditions.list.reduceOption.map fun guard => (guard.native, false)

theorem EntityArray.list_map_retain {α : Type} (active : List (DdsCondition Read Guard))
    (condition : α → Option (DdsCondition Read Guard)) (array : EntityArray α) :
    (array.map (retain active condition)).list = retain active condition array.list := by
  cases array with
  | null | nullEntries | entries => rfl

theorem EntityArray.map_list {α : Type} (f : List (Option α) → List (Option α))
    (array : EntityArray α) : array.map (fun _ => f array.list) = array.map f := by
  cases array with
  | null | nullEntries | entries => rfl

@[spec] theorem retainAll_spec (active : List (DdsCondition Read Guard))
    (s₁ : Memory Context Read Guard) :
    ⦃fun s => ⌜s = s₁⌝⦄ retainAll active
    ⦃⇓ _ => fun s => ⌜s = { s₁ with
      arguments := s₁.arguments.retained active
      written := s₁.written ++ (s₁.arguments.retained active).resets }⌝⦄ := by
  mvcgen [retainAll]
  next s hs _ _ _ h _ _ _ _ =>
    obtain ⟨rfl, rfl⟩ := h
    subst hs
    simp +zetaDelta only [Arguments.retained, Arguments.resets, EntityArray.list_map_retain,
      EntityArray.map_list]

/-- The call returns what was active and has detached what it attached. -/
structure Answered (active : List (DdsCondition Read Guard)) (s₀ : Memory Context Read Guard)
    (ret : Ret) (s : Memory Context Read Guard) : Prop where
  ret : ret = .ok ∨ ret = .timeout
  arguments : s.arguments = s₀.arguments.retained active
  written : s.written = s₀.written ++ s.arguments.resets
  attached : s.attached = s₀.attached \ s.made

theorem Released.answered {s₀ s : Memory Context Read Guard} (h : Released s₀ s) {ret : Ret}
    (hret : ret = .ok ∨ ret = .timeout) (active : List (DdsCondition Read Guard)) :
    Answered active s₀ ret { s with
      arguments := s.arguments.retained active
      written := s.written ++ (s.arguments.retained active).resets } where
  ret := hret
  arguments := congrArg (·.retained active) h.arguments
  written := congrArg (· ++ (s.arguments.retained active).resets) h.written
  attached := h.attached

omit [DecidableEq Read] [DecidableEq Guard] in
theorem waitSetOf_error {reserved : Bool} {waitSet : Option (RmwWaitSet Context)}
    {timeout : Option RmwTime} {arguments : Arguments Context Read Guard} {ret : Ret}
    (h : waitSetOf reserved waitSet timeout arguments = .error ret) :
    ret ≠ .ok ∧ ret ≠ .timeout := by
  unfold waitSetOf at h
  repeat' split at h
  all_goals
    cases h
    try decide

omit [DecidableEq Read] [DecidableEq Guard] in
theorem waitSetOf_ok {reserved : Bool} {waitSet : Option (RmwWaitSet Context)}
    {timeout : Option RmwTime} {arguments : Arguments Context Read Guard}
    {impl : WaitSetImpl Context} :
    waitSetOf reserved waitSet timeout arguments = .ok impl ↔
      waitSet = some ⟨some identifier, some impl⟩ ∧ arguments.valid = true ∧
        arguments.fits impl.maxConditions = true ∧ (toDdsDuration timeout).isSome = true ∧
        reserved = true := by
  constructor
  · intro h
    unfold waitSetOf at h
    repeat' split at h
    all_goals cases h
    simp_all [Option.isSome_iff_ne_none]
  · rintro ⟨rfl, hvalid, hfits, htimeout, hreserved⟩
    simp_all [waitSetOf, Option.isSome_iff_ne_none]

omit [DecidableEq Read] [DecidableEq Guard] in
/-- The checks and the attachments make up what the zzdds wait needs. -/
theorem prepared_iff {waitSet : Option (RmwWaitSet Context)} {timeout : Option RmwTime}
    {arguments : Arguments Context Read Guard} {impl : WaitSetImpl Context}
    (h : waitSetOf o.reserved waitSet timeout arguments = .ok impl) :
    Prepared o waitSet timeout arguments ↔ arguments.OneContext impl.context ∧
      ∀ i < arguments.conditions.length, o.attaches i = true := by
  obtain ⟨hwaitSet, hvalid, hfits, htimeout, hreserved⟩ := waitSetOf_ok.mp h
  constructor
  · rintro ⟨⟨impl', hwaitSet', -, -, hcontext⟩, -, -, hattaches⟩
    rw [hwaitSet] at hwaitSet'
    cases hwaitSet'
    exact ⟨hcontext, hattaches⟩
  · rintro ⟨hcontext, hattaches⟩
    exact ⟨⟨impl, hwaitSet, hvalid, hfits, hcontext⟩, htimeout, hreserved, hattaches⟩

/-- All is attached for a zzdds wait. -/
theorem Attaching.prepared {waitSet : Option (RmwWaitSet Context)} {timeout : Option RmwTime}
    {arguments : Arguments Context Read Guard} {attached : Finset (DdsCondition Read Guard)}
    {impl : WaitSetImpl Context} {s : Memory Context Read Guard}
    (h : Attaching o (Memory.before arguments attached) arguments.conditions s)
    (hchecks : waitSetOf o.reserved waitSet timeout arguments = .ok impl)
    (hcontext : arguments.OneContext impl.context) : Prepared o waitSet timeout arguments := by
  refine (prepared_iff o hchecks).mpr ⟨hcontext, fun i hi => ?_⟩
  have hattaches := h.attaches i hi
  rwa [Memory.before, Nat.zero_add] at hattaches

omit [DecidableEq Read] [DecidableEq Guard] in
theorem not_prepared {waitSet : Option (RmwWaitSet Context)} {timeout : Option RmwTime}
    {arguments : Arguments Context Read Guard} {ret : Ret}
    (h : waitSetOf o.reserved waitSet timeout arguments = .error ret) :
    ¬ Prepared o waitSet timeout arguments := by
  rintro ⟨⟨impl, hwaitSet, hvalid, hfits, -⟩, htimeout, hreserved, -⟩
  rw [waitSetOf_ok.mpr ⟨hwaitSet, hvalid, hfits, htimeout, hreserved⟩] at h
  cases h

/-- What the call returns for the result of the zzdds wait. -/
def WaitResult.ret : WaitResult → Ret
  | .ok => .ok
  | .timeout => .timeout
  | .error => .error

theorem waitBody_spec [DecidableEq Context] (waitSet : Option (RmwWaitSet Context))
    (timeout : Option RmwTime) (arguments : Arguments Context Read Guard)
    (attached : Finset (DdsCondition Read Guard)) :
    ⦃fun s => ⌜s = Memory.before arguments attached⌝⦄ waitBody o waitSet timeout
    ⦃post⟨fun ret s => ⌜Answered o.active (Memory.before arguments attached) ret s ∧
        (Prepared o waitSet timeout arguments ∧ ret = o.result.ret) ∧
        s.made = arguments.conditions.toFinset⌝,
      fun ret s => ⌜Refused (Memory.before arguments attached) ret s ∧
        (Prepared o waitSet timeout arguments → o.result = .error) ∧
        ∃ first, first <+: arguments.conditions ∧ s.made = first.toFinset⌝⟩⦄ := by
  have hstart : Attaching o (Memory.before arguments attached) []
      (Memory.before arguments attached) :=
    ⟨rfl, rfl, rfl, (Finset.union_empty _).symm, rfl, fun _ hi => absurd hi (Nat.not_lt_zero _)⟩
  mvcgen [waitBody]
  next hs _ herror =>
    subst hs
    refine ⟨⟨waitSetOf_error herror, rfl, rfl, by simp [Memory.before]⟩, ?_, [],
      List.nil_prefix, rfl⟩
    exact fun hprepared => absurd hprepared (not_prepared o herror)
  next hs _ _ =>
    subst hs
    exact hstart
  next hs impl hchecks _ _ h _ hresult _ hs' =>
    obtain ⟨⟨rfl, -⟩, h⟩ := h
    subst hs hs'
    exact ⟨⟨by decide, h.released _⟩, fun _ => hresult, _, List.prefix_rfl, h.made⟩
  next hs impl hchecks _ _ h _ hresult _ hs' _ _ hs'' =>
    obtain ⟨⟨rfl, hcontext⟩, h⟩ := h
    subst hs hs' hs''
    refine ⟨(h.released _).answered (.inl rfl) _, ⟨h.prepared o hchecks hcontext, ?_⟩, h.made⟩
    rw [hresult]
    rfl
  next hs impl hchecks _ _ h _ hresult _ hs' _ _ hs'' =>
    obtain ⟨⟨rfl, hcontext⟩, h⟩ := h
    subst hs hs' hs''
    refine ⟨(h.released _).answered (.inr rfl) _, ⟨h.prepared o hchecks hcontext, ?_⟩, h.made⟩
    rw [hresult]
    rfl
  next hs impl hchecks ret s =>
    subst hs
    refine fun hrefused hstopped => ⟨hrefused, fun hprepared => ?_, hstopped.made⟩
    -- All entities belong to the context, so an attachment has failed.
    obtain ⟨hcontext, hattaches⟩ := (prepared_iff o hchecks).mp hprepared
    obtain ⟨i, hi, hfailed⟩ := hstopped.cause hcontext
    rw [Memory.before, Nat.zero_add, hattaches i hi] at hfailed
    cases hfailed

/-! ## The partition -/

/-- The entries that stay are as they were, and the others are null. -/
structure EntityArray.Partitioned {α : Type} (stays : α → Prop) (before after : EntityArray α) :
    Prop where
  length : after.list.length = before.list.length
  retained : ∀ (i : ℕ) entity, before.list[i]? = some (some entity) → stays entity →
    after.list[i]? = some (some entity)
  nulled : ∀ (i : ℕ) entity, before.list[i]? = some (some entity) → ¬ stays entity →
    after.list[i]? = some none

/-- What the call does to its arguments and the trigger values if these conditions were
active. -/
structure Woken (active : List (DdsCondition Read Guard)) (s₀ s : Memory Context Read Guard) :
    Prop where
  subscriptions : s₀.arguments.subscriptions.Partitioned (fun x => x.condition ∈ active)
    s.arguments.subscriptions
  guardConditions : s₀.arguments.guardConditions.Partitioned (fun x => x.condition ∈ active)
    s.arguments.guardConditions
  services : s₀.arguments.services.Partitioned (fun x => x.condition ∈ active)
    s.arguments.services
  clients : s₀.arguments.clients.Partitioned (fun x => x.condition ∈ active) s.arguments.clients
  events : s₀.arguments.events.Partitioned (fun x => ∃ c ∈ x.condition, c ∈ active)
    s.arguments.events
  /-- The guard conditions that are left are reset, and no other trigger value is written. -/
  reset : ∀ native value, (native, value) ∈ s.written ↔ value = false ∧
    ∃ guard : GuardConditionImpl Context Guard,
      some guard ∈ s.arguments.guardConditions.list ∧ guard.native = native

/-- What holds of every return. -/
structure Partitions (waitSet : Option (RmwWaitSet Context)) (timeout : Option RmwTime)
    (s₀ : Memory Context Read Guard) (ret : Ret) (s : Memory Context Read Guard) : Prop where
  /-- The call succeeds just if it gets as far as the zzdds wait, and that succeeds. -/
  ok : ret = .ok ↔ Prepared o waitSet timeout s₀.arguments ∧ o.result = .ok
  timeout : ret = .timeout ↔ Prepared o waitSet timeout s₀.arguments ∧ o.result = .timeout
  /-- It has attached the first of the conditions, and all of them if it succeeds. -/
  tried : ∃ first, first <+: s₀.arguments.conditions ∧ s.made = first.toFinset
  made : ret = .ok ∨ ret = .timeout → s.made = s₀.arguments.conditions.toFinset
  /-- Nothing is attached that the call has attached. -/
  detached : s.attached = s₀.attached \ s.made
  refused : ret ≠ .ok → ret ≠ .timeout → s.arguments = s₀.arguments ∧ s.written = []
  woken : ret = .ok ∨ ret = .timeout → Woken o.active s₀ s

theorem partitioned_retain {α : Type} {active : List (DdsCondition Read Guard)}
    {condition : α → Option (DdsCondition Read Guard)} {stays : α → Prop}
    (hstays : ∀ entity, stays entity ↔ ∃ c ∈ condition entity, c ∈ active)
    (array : EntityArray α) : array.Partitioned stays (array.map (retain active condition)) := by
  have hkept : ∀ entity, (condition entity).any (contains active) = true ↔ stays entity := by
    intro entity
    rw [hstays]
    cases condition entity <;> simp [contains_iff]
  constructor
  · rw [EntityArray.list_map_retain, retain, List.length_map]
  · intro i entity hentry hstay
    rw [EntityArray.list_map_retain, retain, List.getElem?_map, hentry, Option.map_some,
      Option.filter_some, if_pos ((hkept entity).mpr hstay)]
  · intro i entity hentry hleave
    rw [EntityArray.list_map_retain, retain, List.getElem?_map, hentry, Option.map_some,
      Option.filter_some, if_neg fun hkeep => hleave ((hkept entity).mp hkeep)]

theorem Answered.woken {active : List (DdsCondition Read Guard)}
    {s₀ s : Memory Context Read Guard} {ret : Ret} (h : Answered active s₀ ret s)
    (hwritten : s₀.written = []) : Woken active s₀ s := by
  obtain ⟨-, harguments, hlog, -⟩ := h
  rw [hwritten, List.nil_append] at hlog
  constructor
  · rw [harguments]
    exact partitioned_retain (fun _ => by simp) _
  · rw [harguments]
    exact partitioned_retain (fun _ => by simp) _
  · rw [harguments]
    exact partitioned_retain (fun _ => by simp) _
  · rw [harguments]
    exact partitioned_retain (fun _ => by simp) _
  · rw [harguments]
    exact partitioned_retain (fun _ => Iff.rfl) _
  · intro native value
    rw [hlog, Arguments.resets]
    simp only [List.mem_map, List.reduceOption_mem_iff, Prod.mk.injEq]
    constructor
    · rintro ⟨guard, hguard, rfl, rfl⟩
      exact ⟨rfl, guard, hguard, rfl⟩
    · rintro ⟨rfl, guard, hguard, rfl⟩
      exact ⟨guard, hguard, rfl, rfl⟩

theorem WaitResult.ret_eq_ok (result : WaitResult) : result.ret = .ok ↔ result = .ok := by
  cases result <;> decide

theorem WaitResult.ret_eq_timeout (result : WaitResult) :
    result.ret = .timeout ↔ result = .timeout := by
  cases result <;> decide

/-- A call partitions its arrays by the active conditions and leaves nothing attached. -/
theorem rmwWait_partitions [DecidableEq Context] (waitSet : Option (RmwWaitSet Context))
    (timeout : Option RmwTime) (arguments : Arguments Context Read Guard)
    (attached : Finset (DdsCondition Read Guard)) :
    let call := rmwWait o waitSet timeout (.before arguments attached)
    Partitions o waitSet timeout (.before arguments attached) call.1 call.2 := by
  intro call
  have hspec := waitBody_spec o waitSet timeout arguments attached (.before arguments attached) rfl
  simp only [wp, PredTrans.apply_pushExcept, PredTrans.apply_pushArg,
    PredTrans.apply_Pure_pure] at hspec
  have hcall : call = rmwWait o waitSet timeout (.before arguments attached) := rfl
  rw [rmwWait] at hcall
  match hrun : ((waitBody o waitSet timeout).run.run (.before arguments attached)).run with
  | (.ok ret, s) =>
      rw [hrun] at hspec hcall
      rw [hcall]
      obtain ⟨hanswered, ⟨hprepared, hret⟩, hmade⟩ := hspec
      subst hret
      constructor
      · rw [WaitResult.ret_eq_ok]
        exact (and_iff_right hprepared).symm
      · rw [WaitResult.ret_eq_timeout]
        exact (and_iff_right hprepared).symm
      · exact ⟨_, List.prefix_rfl, hmade⟩
      · exact fun _ => hmade
      · exact hanswered.attached
      · exact fun hok htimeout => (hanswered.ret.elim hok htimeout).elim
      · exact fun _ => hanswered.woken rfl
  | (.error ret, s) =>
      rw [hrun] at hspec hcall
      rw [hcall]
      obtain ⟨⟨⟨hok, htimeout⟩, hreleased⟩, hfailed, htried⟩ := hspec
      constructor
      · refine iff_of_false hok fun ⟨hprepared, hresult⟩ => ?_
        rw [hfailed hprepared] at hresult
        cases hresult
      · refine iff_of_false htimeout fun ⟨hprepared, hresult⟩ => ?_
        rw [hfailed hprepared] at hresult
        cases hresult
      · exact htried
      · exact fun hret => (hret.elim hok htimeout).elim
      · exact hreleased.attached
      · exact fun _ _ => ⟨hreleased.arguments, hreleased.written⟩
      · exact fun hret => (hret.elim hok htimeout).elim

/-- A subscription by its read condition. -/
def watched (readCondition : ℕ) : SubscriptionImpl ℕ ℕ ℕ := ⟨0, readCondition, fun _ => 20⟩

/-- Two subscriptions, one of them twice, two guard conditions, a service and an event. -/
def waitArguments : Arguments ℕ ℕ ℕ where
  subscriptions := .entries [some (watched 1), some (watched 2), some (watched 1)]
  guardConditions := .entries [some ⟨some ⟨some 0⟩, 10⟩, some ⟨some ⟨some 0⟩, 11⟩]
  services := .entries [some ⟨0, watched 3⟩]
  clients := .null
  events := .entries [some ⟨some identifier, some (.publisher ⟨0, fun _ => 20⟩), .livelinessLost, by
    rintro impl ⟨⟩
    rfl⟩]

def waitOutcomes (attaches : ℕ → Bool) : ZzddsOutcomes ℕ ℕ where
  reserved := true
  attaches := attaches
  result := .ok
  active := [.read 1, .guard 11]

def openWaitSet : RmwWaitSet ℕ := ⟨some identifier, some ⟨0, 0⟩⟩

/-- One call that succeeds, and one that cannot attach its fifth condition, on a wait
set with a condition of its own. -/
theorem rmwWait_partitions_entries :
    (∃ s, rmwWait (waitOutcomes fun _ => true) (some openWaitSet) none
        (.before waitArguments {.read 9}) = (.ok, s) ∧
      s.made = waitArguments.conditions.toFinset ∧ s.attached = {.read 9} ∧
      s.arguments.subscriptions.list[0]? = some (some (watched 1)) ∧
      s.arguments.subscriptions.list[1]? = some none ∧
      s.arguments.guardConditions.list[0]? = some none ∧
      (∀ native value, (native, value) ∈ s.written → value = false) ∧ (11, false) ∈ s.written) ∧
    ∃ ret s, rmwWait (waitOutcomes fun i => i != 4) (some openWaitSet) none
        (.before waitArguments {.read 9}) = (ret, s) ∧
      (ret ≠ .ok ∧ ret ≠ .timeout) ∧ s.attached = {.read 9} ∧ s.arguments = waitArguments ∧
      s.written = [] := by
  have hcontext : waitArguments.OneContext 0 := by
    constructor <;> simp [waitArguments, watched, EntityArray.list, EventData.context]
  constructor
  · have h := rmwWait_partitions (waitOutcomes fun _ => true) (some openWaitSet) none waitArguments
      {.read 9}
    rcases hcall : rmwWait (waitOutcomes fun _ => true) (some openWaitSet) none
      (.before waitArguments {.read 9}) with ⟨ret, s⟩
    simp only [hcall] at h
    have hprepared : Prepared (waitOutcomes fun _ => true) (some openWaitSet) none
        waitArguments :=
      ⟨⟨⟨0, 0⟩, rfl, by decide, by decide, hcontext⟩, by decide, by decide, fun _ _ => rfl⟩
    obtain rfl := h.ok.mpr ⟨hprepared, by decide⟩
    have hmade := h.made (.inl rfl)
    have hwoken := h.woken (.inl rfl)
    have hguard := hwoken.guardConditions.retained 1 ⟨some ⟨some 0⟩, 11⟩ rfl (by decide)
    refine ⟨s, hcall, hmade, ?_, hwoken.subscriptions.retained 0 _ rfl (by decide),
      hwoken.subscriptions.nulled 1 (watched 2) rfl (by decide),
      hwoken.guardConditions.nulled 0 ⟨some ⟨some 0⟩, 10⟩ rfl (by decide),
      fun native value hwritten => ((hwoken.reset native value).mp hwritten).1,
      (hwoken.reset 11 false).mpr ⟨rfl, _, List.mem_of_getElem? hguard, rfl⟩⟩
    rw [h.detached, hmade]
    decide
  · have h := rmwWait_partitions (waitOutcomes fun i => i != 4) (some openWaitSet) none
      waitArguments {.read 9}
    rcases hcall : rmwWait (waitOutcomes fun i => i != 4) (some openWaitSet) none
      (.before waitArguments {.read 9}) with ⟨ret, s⟩
    simp only [hcall] at h
    have hprepared : ¬ Prepared (waitOutcomes fun i => i != 4) (some openWaitSet) none
        waitArguments := by
      intro hprepared
      have hattached := hprepared.attaches 4 (by decide)
      cases hattached
    have hok := fun hret => hprepared (h.ok.mp hret).1
    have htimeout := fun hret => hprepared (h.timeout.mp hret).1
    obtain ⟨first, hfirst, hmade⟩ := h.tried
    refine ⟨ret, s, hcall, ⟨hok, htimeout⟩, ?_, h.refused hok htimeout⟩
    have hdisjoint : Disjoint {DdsCondition.read 9} first.toFinset := by
      refine Finset.disjoint_singleton_left.mpr fun hmem => ?_
      have hcondition := hfirst.subset (List.mem_toFinset.mp hmem)
      exact absurd hcondition (by decide)
    rw [h.detached, hmade]
    exact sdiff_eq_left.mpr hdisjoint

/-! ## The arrays of conditions -/

/-- The conditions of the entries, as the steps of a wait set have them. -/
def Arguments.toArrays (arguments : Arguments Context Read Guard) :
    Arrays Guard (DdsCondition Read Guard) where
  subscriptions := arguments.subscriptions.list.map fun entry => entry.bind (some ·.condition)
  guardConditions := arguments.guardConditions.list.map fun entry => entry.bind (some ·.native)
  services := arguments.services.list.map fun entry => entry.bind (some ·.condition)
  clients := arguments.clients.list.map fun entry => entry.bind (some ·.condition)
  events := arguments.events.list.map fun entry => entry.bind (·.condition)

/-- A guard condition may be one of the array or that of an event. -/
def DdsCondition.seen :
    DdsCondition Read Guard → List (Condition Guard (DdsCondition Read Guard))
  | .read readCondition => [.other (.read readCondition)]
  | .guard native => [.guard native, .other (.guard native)]

theorem contains_other (active : List (DdsCondition Read Guard))
    (condition : DdsCondition Read Guard) :
    contains (active.flatMap DdsCondition.seen) (.other condition) =
      contains active condition := by
  rw [Bool.eq_iff_iff, contains_iff, contains_iff, List.mem_flatMap]
  constructor
  · rintro ⟨condition', hmem, hseen⟩
    cases condition' <;> simp_all [DdsCondition.seen]
  · intro hmem
    refine ⟨condition, hmem, ?_⟩
    cases condition <;> simp [DdsCondition.seen]

theorem contains_guard (active : List (DdsCondition Read Guard)) (guard : Guard) :
    contains (active.flatMap DdsCondition.seen) (.guard guard) =
      contains active (.guard guard) := by
  rw [Bool.eq_iff_iff, contains_iff, contains_iff, List.mem_flatMap]
  constructor
  · rintro ⟨condition, hmem, hseen⟩
    cases condition <;> simp_all [DdsCondition.seen]
  · exact fun hmem => ⟨_, hmem, by simp [DdsCondition.seen]⟩

/-- The conditions of the entries that stay are the ones that are kept. -/
theorem map_retain {α β : Type} [DecidableEq β] {active : List (DdsCondition Read Guard)}
    {condition : α → Option (DdsCondition Read Guard)} {f : α → Option β}
    {g : β → Condition Guard (DdsCondition Read Guard)}
    (hseen : ∀ x, (condition x).any (contains active) =
      (f x).any fun y => contains (active.flatMap DdsCondition.seen) (g y))
    (entries : List (Option α)) :
    (retain active condition entries).map (·.bind f) =
      keepActive (active.flatMap DdsCondition.seen) g (entries.map (·.bind f)) := by
  rw [retain, keepActive, List.map_map, List.map_map]
  refine List.map_congr_left fun entry _ => ?_
  cases entry with
  | none => rfl
  | some x =>
      simp only [Function.comp_apply, Option.filter_some, hseen, Option.bind_some]
      cases hy : f x with
      | none => rfl
      | some y =>
          rw [Option.any_some, Option.filter_some]
          split
          · exact hy
          · rfl

/-- The call leaves the arrays that the steps of a wait set leave. -/
theorem toArrays_retained (arguments : Arguments Context Read Guard)
    (active : List (DdsCondition Read Guard)) :
    (arguments.retained active).toArrays =
      arguments.toArrays.keep (active.flatMap DdsCondition.seen) := by
  have hother : ∀ condition : Option (DdsCondition Read Guard), condition.any (contains active) =
      condition.any fun y => contains (active.flatMap DdsCondition.seen) (.other y) := by
    intro condition
    simp only [contains_other]
  have hguard : ∀ guard : GuardConditionImpl Context Guard,
      (some guard.condition).any (contains active) = (some guard.native).any fun native =>
        contains (active.flatMap DdsCondition.seen) (.guard native) := by
    intro guard
    simp only [contains_guard, Option.any_some]
    rfl
  simp only [Arguments.toArrays, Arguments.retained, Arrays.keep, EntityArray.list_map_retain]
  congr 1
  · exact map_retain (fun _ => hother _) _
  · exact map_retain hguard _
  · exact map_retain (fun _ => hother _) _
  · exact map_retain (fun _ => hother _) _
  · exact map_retain (fun _ => hother _) _

/-- The call returns what the last step of a call on a wait set returns. -/
theorem Answered.waitReturn {active : List (DdsCondition Read Guard)}
    {s₀ s : Memory Context Read Guard} {ret : Ret} (h : Answered active s₀ ret s) :
    Wait.waitReturn s₀.arguments.toArrays (active.flatMap DdsCondition.seen)
      (if ret = .timeout then .timeout else .ok) = ⟨ret, s.arguments.toArrays⟩ := by
  rw [h.arguments, toArrays_retained]
  obtain rfl | rfl := h.ret <;> rfl

end

end RmwZzdds.Wait
