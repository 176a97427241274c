import RmwZzdds.Event.Conservation
import RmwZzdds.Event.Initialization

/-!
# zzdds under an endpoint

The writer or reader under an endpoint has counts of its own for every status.
They change on their own time, and each change of a status in the mask of the
installed listener makes zzdds owe a listener call.  A `World` puts the
endpoint's critical sections and these changes into one system.

*Listener calls.*  A call owed stands in `pending` with the counts of the
status it passes.  It is made at any later time and in any order, and calls for
one event type may be coalesced into one of them.

*Getters.*  A successful status getter returns zzdds's counts at that moment.
So the stored status is always between the counts at the last take and the
counts zzdds has now (`Tracked`), which is what `GettersNewer` assumes.

*Histories.*  `changes` is the number of changes since the state read by the
last take, and `base` the counts that take read.  `getterFailed` says whether
any getter has failed.
-/

namespace RmwZzdds.Event

/-! ## Changes of the counts -/

/-- One change of a status: a match raises total and current, an unmatch
lowers current, liveliness takes any counts, and the others raise the total. -/
def StatusChange (k : StatusKind) (old now : ℤ × ℤ) : Prop :=
  match k with
  | .matched =>
      (now = (old.1 + 1, old.2 + 1) ∧ now.1 < 2 ^ 31) ∨ (now = (old.1, old.2 - 1) ∧ 0 < old.2)
  | .livelinessChanged => InRange now
  | _ => now = (old.1 + 1, 0) ∧ now.1 < 2 ^ 31

instance : (k : StatusKind) → (old now : ℤ × ℤ) → Decidable (StatusChange k old now)
  | .matched, _, _ => inferInstanceAs (Decidable (_ ∨ _))
  | .livelinessChanged, _, now => inferInstanceAs (Decidable (InRange now))
  | .count, _, _ => inferInstanceAs (Decidable (_ ∧ _))
  | .deadline, _, _ => inferInstanceAs (Decidable (_ ∧ _))
  | .incompatibleQos, _, _ => inferInstanceAs (Decidable (_ ∧ _))

/-- The changes behind a pair of counts: matches and unmatches, or
occurrences. -/
def occurrences (k : StatusKind) (p : ℤ × ℤ) : ℤ :=
  match k with
  | .matched => p.1 + (p.1 - p.2)
  | _ => p.1

/-- The counts `q` come from the counts `p` by changes, as far as a total and
the number of unmatches tell. -/
def Ahead (k : StatusKind) (p q : ℤ × ℤ) : Prop :=
  k ≠ .livelinessChanged → p.1 ≤ q.1 ∧ (k = .matched → p.1 - p.2 ≤ q.1 - q.2)

theorem Ahead.refl (k : StatusKind) (p : ℤ × ℤ) : Ahead k p p := fun _ => ⟨le_rfl, fun _ => le_rfl⟩

theorem Ahead.trans {k : StatusKind} {p q r : ℤ × ℤ} (h1 : Ahead k p q) (h2 : Ahead k q r) :
    Ahead k p r := fun hk =>
  ⟨le_trans (h1 hk).1 (h2 hk).1, fun hm => le_trans ((h1 hk).2 hm) ((h2 hk).2 hm)⟩

theorem Ahead.occurrences_le {k : StatusKind} {p q : ℤ × ℤ} (h : Ahead k p q)
    (hk : k ≠ .livelinessChanged) : occurrences k p ≤ occurrences k q := by
  obtain ⟨h1, h2⟩ := h hk
  cases k with
  | matched =>
      have h3 := h2 rfl
      simp only [occurrences]
      omega
  | livelinessChanged => exact absurd rfl hk
  | count => exact h1
  | deadline => exact h1
  | incompatibleQos => exact h1

theorem occurrences_of_ne {k : StatusKind} (hk : k ≠ .matched) (p : ℤ × ℤ) :
    occurrences k p = p.1 := by
  cases k with
  | matched => exact absurd rfl hk
  | livelinessChanged => rfl
  | count => rfl
  | deadline => rfl
  | incompatibleQos => rfl

namespace StatusChange

variable {k : StatusKind} {old now : ℤ × ℤ}

/-- The three ways a status changes. -/
theorem cases_kind (h : StatusChange k old now) :
    (k = .matched ∧
      ((now = (old.1 + 1, old.2 + 1) ∧ now.1 < 2 ^ 31) ∨
        (now = (old.1, old.2 - 1) ∧ 0 < old.2))) ∨
      (k = .livelinessChanged ∧ InRange now) ∨
      (k ≠ .matched ∧ now = (old.1 + 1, 0) ∧ now.1 < 2 ^ 31) := by
  cases k with
  | matched => exact .inl ⟨rfl, h⟩
  | livelinessChanged => exact .inr (.inl ⟨rfl, h⟩)
  | count => exact .inr (.inr ⟨nofun, h⟩)
  | deadline => exact .inr (.inr ⟨nofun, h⟩)
  | incompatibleQos => exact .inr (.inr ⟨nofun, h⟩)

theorem inRange (h : StatusChange k old now) (hold : InRange old) (hstart : Ahead k 0 old) :
    InRange now := by
  obtain ⟨⟨h1, h1'⟩, h2, h2'⟩ := hold
  rcases h.cases_kind with ⟨rfl, ⟨rfl, h⟩ | ⟨rfl, h⟩⟩ | ⟨rfl, h⟩ | ⟨-, rfl, h⟩
  · have h3 : (0 : ℤ) - 0 ≤ old.1 - old.2 := (hstart nofun).2 rfl
    dsimp only at h
    exact ⟨⟨by dsimp only; omega, h⟩, by dsimp only; omega, by dsimp only; omega⟩
  · exact ⟨⟨h1, h1'⟩, by dsimp only; omega, by dsimp only; omega⟩
  · exact h
  · exact ⟨⟨by dsimp only; omega, h⟩, le_rfl, by dsimp only; omega⟩

theorem ahead (h : StatusChange k old now) : Ahead k old now := by
  intro hk
  rcases h.cases_kind with ⟨rfl, ⟨rfl, -⟩ | ⟨rfl, -⟩⟩ | ⟨rfl, -⟩ | ⟨hm, rfl, -⟩
  · exact ⟨by dsimp only; omega, fun _ => by dsimp only; omega⟩
  · exact ⟨le_rfl, fun _ => by dsimp only; omega⟩
  · exact absurd rfl hk
  · exact ⟨by dsimp only; omega, fun h => absurd h hm⟩

/-- One change is one occurrence. -/
theorem occurrences_eq (h : StatusChange k old now) (hk : k ≠ .livelinessChanged) :
    occurrences k now = occurrences k old + 1 := by
  rcases h.cases_kind with ⟨rfl, ⟨rfl, -⟩ | ⟨rfl, -⟩⟩ | ⟨rfl, -⟩ | ⟨hm, rfl, -⟩
  · simp only [occurrences]
    omega
  · simp only [occurrences]
    omega
  · exact absurd rfl hk
  · rw [occurrences_of_ne hm, occurrences_of_ne hm]

end StatusChange

/-! ## Untaken events -/

theorem toSizeT_lt (x : Int32) : toSizeT x < 2 ^ 64 := by
  have h := Int.emod_lt_of_pos x.toInt (show (0 : ℤ) < 2 ^ 64 by omega)
  have h' := Int.emod_nonneg x.toInt (show (2 : ℤ) ^ 64 ≠ 0 by omega)
  rw [toSizeT]
  omega

theorem untakenEvents_lt {k : StatusKind} (s : Status k) : untakenEvents s < 2 ^ 64 := by
  cases k with
  | matched => exact Nat.mod_lt _ (by omega)
  | livelinessChanged => exact toSizeT_lt _
  | count => exact toSizeT_lt _
  | deadline => exact toSizeT_lt _
  | incompatibleQos => exact toSizeT_lt _

/-- The untaken events of a stored status are the occurrences since its
base. -/
theorem untakenEvents_eq {k : StatusKind} {stored : Status k} {base : ℤ × ℤ}
    (h : Conserved stored base) (hstart : Ahead k 0 base) (hbase : Ahead k base stored.counts)
    (hk : k ≠ .livelinessChanged) :
    (untakenEvents stored : ℤ) = occurrences k stored.counts - occurrences k base := by
  have htotal := h.total
  obtain ⟨⟨hc1, hc1'⟩, hc2, hc2'⟩ := h.inRange
  obtain ⟨⟨hb1, hb1'⟩, hb2, hb2'⟩ := h.baseInRange
  have h1 : base.1 + stored.changes.1 = stored.counts.1 := congrArg Prod.fst htotal
  have h2 : base.2 + stored.changes.2 = stored.counts.2 := congrArg Prod.snd htotal
  obtain ⟨hle, hm⟩ := hbase hk
  cases k with
  | matched =>
      have hunmatch := hm rfl
      have hstart' : (0 : ℤ) - 0 ≤ base.1 - base.2 := (hstart hk).2 rfl
      obtain ⟨total, totalChange, current, currentChange, handle⟩ := stored
      simp only [Status.counts, Status.changes] at h1 h2 hc1 hc1' hc2 hc2' hle hunmatch ⊢
      have hsub : (totalChange - currentChange).toInt = totalChange.toInt - currentChange.toInt :=
        toInt_sub_of_range (by omega) (by omega)
      have ht : (toSizeT totalChange : ℤ) = totalChange.toInt := toSizeT_of_nonneg (by omega)
      have hu : (toSizeT (totalChange - currentChange) : ℤ) =
          totalChange.toInt - currentChange.toInt := by
        rw [toSizeT_of_nonneg (by omega), hsub]
      simp only [untakenEvents, MatchedStatus.untakenMatchedEvents, occurrences]
      rw [addSizeT_of_lt (by omega)]
      push_cast
      omega
  | livelinessChanged => exact absurd rfl hk
  | count =>
      simp only [Status.counts, Status.changes] at h1 hle ⊢
      simp only [untakenEvents, occurrences]
      rw [toSizeT_of_nonneg (by omega)]
      omega
  | deadline =>
      simp only [Status.counts, Status.changes] at h1 hle ⊢
      simp only [untakenEvents, occurrences]
      rw [toSizeT_of_nonneg (by omega)]
      omega
  | incompatibleQos =>
      simp only [Status.counts, Status.changes] at h1 hle ⊢
      simp only [untakenEvents, occurrences]
      rw [toSizeT_of_nonneg (by omega)]
      omega

/-! ## Worlds -/

/-- An endpoint and the zzdds entity under it. -/
structure World where
  endpoint : Endpoint
  counts : EventType → ℤ × ℤ
  pending : List (EventType × (ℤ × ℤ))
  changes : EventType → Nat
  base : EventType → ℤ × ℤ
  getterFailed : Bool

/-- The steps of a world.  A listener call answers the pending call at
`index`, and `coalesce` drops a call for which another one stands in. -/
inductive WorldAction where
  | change (type : EventType) (now : ℤ × ℤ)
  | coalesce (index : Nat)
  | listener (index : Nat) (type : EventType) (status : Status type.kind)
      (got : Option (Status type.kind))
  | act (a : Action)

/-- The listener calls, which only zzdds makes. -/
def Action.isListener : Action → Bool
  | .listener .. => true
  | _ => false

namespace World

def create (kind : EndpointKind) : World where
  endpoint := Endpoint.create kind
  counts _ := 0
  pending := []
  changes _ := 0
  base _ := 0
  getterFailed := false

/-- The world after a change of a status: a listener call is owed if the
installed mask has the status. -/
def changed (w : World) (type : EventType) (now : ℤ × ℤ) : World :=
  { w with
    counts := Function.update w.counts type now
    changes := Function.update w.changes type (w.changes type + 1)
    pending :=
      if eventMask type ⊆ w.endpoint.installed then w.pending ++ [(type, now)] else w.pending }

/-- The world after a critical section of the endpoint. -/
def record (w : World) (a : Action) (endpoint : Endpoint) : World :=
  { w with
    endpoint := endpoint
    changes := fun type => if a.takes type then 0 else w.changes type
    base := fun type => if a.takes type then w.counts type else w.base type
    getterFailed := w.getterFailed || !decide (a.Reads fun _ got => got.isSome) }

/-- The successful getters of a step return the counts zzdds has. -/
def GettersCurrent (w : World) (a : Action) : Prop :=
  a.Reads fun type got => ∀ now ∈ got, now.counts = w.counts type

instance (w : World) (a : Action) : Decidable (w.GettersCurrent a) :=
  inferInstanceAs (Decidable (a.Reads _))

/-- The world after a step of the endpoint. -/
def act (w : World) (a : Action) : Option World :=
  if w.GettersCurrent a then (w.endpoint.next a).map (w.record a) else none

/-- The state after a step, if the step is possible. -/
def next (w : World) : WorldAction → Option World
  | .change type now =>
      if w.endpoint.kind.supports type ∧ StatusChange type.kind (w.counts type) now then
        some (w.changed type now)
      else none
  | .coalesce index =>
      match w.pending[index]? with
      | some (type, _) =>
          if (w.pending.eraseIdx index).any (fun call => call.1 = type) then
            some { w with pending := w.pending.eraseIdx index }
          else none
      | none => none
  | .listener index type status got =>
      if w.pending[index]? = some (type, status.counts) then
        { w with pending := w.pending.eraseIdx index }.act (.listener type status got)
      else none
  | .act a => if a.isListener then none else w.act a

/-- The runs of an endpoint and its zzdds entity from their creation. -/
def system (kind : EndpointKind) : Transition.System World WorldAction :=
  Transition.System.ofNext (create kind) next

/-- What one step of a world does. -/
inductive WorldStep (w : World) : WorldAction → World → Prop where
  | change {type : EventType} {now : ℤ × ℤ} :
      w.endpoint.kind.supports type = true → StatusChange type.kind (w.counts type) now →
      WorldStep w (.change type now) (w.changed type now)
  | coalesce {index : Nat} {type : EventType} {p q : ℤ × ℤ} :
      w.pending[index]? = some (type, p) → (type, q) ∈ w.pending.eraseIdx index →
      WorldStep w (.coalesce index) { w with pending := w.pending.eraseIdx index }
  | listener {index : Nat} {type : EventType} {status : Status type.kind}
      {got : Option (Status type.kind)} {e : Endpoint} :
      w.pending[index]? = some (type, status.counts) →
      w.GettersCurrent (.listener type status got) →
      w.endpoint.next (.listener type status got) = some e →
      WorldStep w (.listener index type status got)
        ({ w with pending := w.pending.eraseIdx index }.record (.listener type status got) e)
  | act {a : Action} {e : Endpoint} :
      a.isListener = false → w.GettersCurrent a → w.endpoint.next a = some e →
      WorldStep w (.act a) (w.record a e)

theorem act_eq_some {w w' : World} {a : Action} (h : w.act a = some w') :
    w.GettersCurrent a ∧ ∃ e, w.endpoint.next a = some e ∧ w' = w.record a e := by
  simp only [act, Option.ite_none_right_eq_some, Option.map_eq_some_iff] at h
  obtain ⟨hgot, e, he, rfl⟩ := h
  exact ⟨hgot, e, he, rfl⟩

theorem worldStep_of_next {w w' : World} {a : WorldAction} (h : w.next a = some w') :
    WorldStep w a w' := by
  cases a with
  | change type now =>
      simp only [next, Option.ite_none_right_eq_some, Option.some.injEq] at h
      obtain ⟨⟨hkind, hchange⟩, rfl⟩ := h
      exact .change hkind hchange
  | coalesce index =>
      simp only [next] at h
      split at h
      next type p hindex =>
        simp only [Option.ite_none_right_eq_some, Option.some.injEq, List.any_eq_true,
          decide_eq_true_eq] at h
        obtain ⟨⟨⟨type', q⟩, hmem, rfl⟩, rfl⟩ := h
        exact .coalesce hindex hmem
      next => cases h
  | listener index type status got =>
      simp only [next, Option.ite_none_right_eq_some] at h
      obtain ⟨hindex, h⟩ := h
      obtain ⟨hgot, e, he, rfl⟩ := act_eq_some h
      exact .listener hindex hgot he
  | act a =>
      simp only [next] at h
      split at h
      next => cases h
      next hlistener =>
        obtain ⟨hgot, e, he, rfl⟩ := act_eq_some h
        exact .act (by simpa using hlistener) hgot he

/-- The endpoint of a world runs on its own. -/
theorem endpoint_reachable {kind : EndpointKind} {w : World} (h : (system kind).Reachable w) :
    (Endpoint.system kind).Reachable w.endpoint := by
  refine h.invariant (I := fun w => (Endpoint.system kind).Reachable w.endpoint) ?_ ?_
  · rintro w rfl
    exact .init rfl
  · intro w a w' ih hs
    cases worldStep_of_next hs with
    | change => exact ih
    | coalesce => exact ih
    | listener _ _ he => exact .step ih he
    | act _ _ he => exact .step ih he

/-! ## Tracking the counts -/

/-- The counts at the last take, the stored counts and zzdds's counts are in
order, and the changes since the last take are the occurrences between the
first and the last of them. -/
structure Tracked (w : World) (type : EventType) : Prop where
  conserved : Conserved (w.endpoint.slots type).stored (w.base type)
  inRange : InRange (w.counts type)
  start : Ahead type.kind 0 (w.base type)
  base : Ahead type.kind (w.base type) (w.endpoint.slots type).stored.counts
  stored : Ahead type.kind (w.endpoint.slots type).stored.counts (w.counts type)
  changes : type.kind ≠ .livelinessChanged →
    occurrences type.kind (w.counts type) =
      occurrences type.kind (w.base type) + w.changes type

namespace Tracked

variable {w : World} {type : EventType}

theorem create (kind : EndpointKind) (type : EventType) : Tracked (World.create kind) type where
  conserved := Conserved.create type.kind
  inRange := inRange_zero
  start := Ahead.refl _ _
  base := by
    show Ahead type.kind 0 (Status.zero type.kind).counts
    rw [Status.counts_zero]
    exact Ahead.refl _ _
  stored := by
    show Ahead type.kind (Status.zero type.kind).counts 0
    rw [Status.counts_zero]
    exact Ahead.refl _ _
  changes _ := (add_zero _).symm

theorem startStored (h : Tracked w type) :
    Ahead type.kind 0 (w.endpoint.slots type).stored.counts := h.start.trans h.base

/-- A getter that returns zzdds's counts is not older than the stored status. -/
theorem notOlder (h : Tracked w type) {now : Status type.kind}
    (hnow : now.counts = w.counts type) : NotOlder (w.endpoint.slots type).stored now := by
  refine ⟨?_, ?_⟩
  · rw [hnow]
    exact h.inRange
  · intro hk
    rw [hnow]
    exact (h.stored hk).1

/-- What is tracked only depends on the stored status of the endpoint. -/
theorem of_stored {w' : World} (h : Tracked w type)
    (hstored : (w'.endpoint.slots type).stored = (w.endpoint.slots type).stored)
    (hcounts : w'.counts type = w.counts type) (hbase : w'.base type = w.base type)
    (hchanges : w'.changes type = w.changes type) : Tracked w' type := by
  refine ⟨?_, ?_, ?_, ?_, ?_, ?_⟩
  · rw [hstored, hbase]
    exact h.conserved
  · rw [hcounts]
    exact h.inRange
  · rw [hbase]
    exact h.start
  · rw [hstored, hbase]
    exact h.base
  · rw [hstored, hcounts]
    exact h.stored
  · rw [hcounts, hbase, hchanges]
    exact h.changes

/-- A status read moves the stored counts to zzdds's. -/
theorem read {w' : World} (h : Tracked w type) {got : Option (Status type.kind)}
    (hgot : ∀ now ∈ got, now.counts = w.counts type)
    (hstored : (w'.endpoint.slots type).stored =
      ((w.endpoint.slots type).readStatus got).1.stored)
    (hcounts : w'.counts type = w.counts type) (hbase : w'.base type = w.base type)
    (hchanges : w'.changes type = w.changes type) : Tracked w' type := by
  cases got with
  | none => exact h.of_stored hstored hcounts hbase hchanges
  | some now =>
      have hnow := hgot now rfl
      have hstored' : (w'.endpoint.slots type).stored.counts = w.counts type := by
        rw [hstored]
        exact (counts_addChanges ..).trans hnow
      refine ⟨?_, ?_, ?_, ?_, ?_, ?_⟩
      · rw [hstored, hbase]
        exact h.conserved.read (h.notOlder hnow)
      · rw [hcounts]
        exact h.inRange
      · rw [hbase]
        exact h.start
      · rw [hbase, hstored']
        exact h.base.trans h.stored
      · rw [hcounts, hstored']
        exact Ahead.refl _ _
      · rw [hcounts, hbase, hchanges]
        exact h.changes

/-- A take makes zzdds's counts the base. -/
theorem take {w' : World} (h : Tracked w type) {now : Status type.kind}
    (hnow : now.counts = w.counts type)
    (hstored : (w'.endpoint.slots type).stored =
      (takeStatus type (addChanges (w.endpoint.slots type).stored now)).2)
    (hcounts : w'.counts type = w.counts type) (hbase : w'.base type = w.counts type)
    (hchanges : w'.changes type = 0) : Tracked w' type := by
  have hread := h.conserved.read (h.notOlder hnow)
  have hstored' : (w'.endpoint.slots type).stored.counts = w.counts type := by
    rw [hstored, ← Status.ledger_count, takeStatus_ledger, Ledger.count_take,
      Status.ledger_count, counts_addChanges, hnow]
  refine ⟨?_, ?_, ?_, ?_, ?_, ?_⟩
  · have hsum : w.base type +
        (takeStatus type (addChanges (w.endpoint.slots type).stored now)).1.changes =
        w.counts type := by
      rw [takeStatus_changes type hread.changes_nonneg, hread.total, counts_addChanges, hnow]
    rw [hstored, hbase, ← hsum]
    exact hread.take
  · rw [hcounts]
    exact h.inRange
  · rw [hbase]
    exact h.startStored.trans h.stored
  · rw [hbase, hstored']
    exact Ahead.refl _ _
  · rw [hcounts, hstored']
    exact Ahead.refl _ _
  · intro _
    rw [hcounts, hbase, hchanges]
    exact (add_zero _).symm

/-- A change of the status moves zzdds's counts ahead by one occurrence. -/
theorem change (h : Tracked w type) {now : ℤ × ℤ}
    (hchange : StatusChange type.kind (w.counts type) now) : Tracked (w.changed type now) type := by
  refine ⟨h.conserved, ?_, h.start, h.base, ?_, ?_⟩
  · simp only [changed, Function.update_self]
    exact hchange.inRange h.inRange (h.startStored.trans h.stored)
  · simp only [changed, Function.update_self]
    exact h.stored.trans hchange.ahead
  · intro hk
    simp only [changed, Function.update_self]
    rw [hchange.occurrences_eq hk, h.changes hk]
    push_cast
    omega

/-- The untaken events of the stored status are occurrences since the base. -/
theorem untaken (h : Tracked w type) (hk : type.kind ≠ .livelinessChanged) :
    (untakenEvents (w.endpoint.slots type).stored : ℤ) =
      occurrences type.kind (w.endpoint.slots type).stored.counts -
        occurrences type.kind (w.base type) :=
  untakenEvents_eq h.conserved h.start h.base hk

/-- There are no more untaken events than changes since the last take. -/
theorem untaken_le (h : Tracked w type) (hk : type.kind ≠ .livelinessChanged) :
    untakenEvents (w.endpoint.slots type).stored ≤ w.changes type := by
  have h1 := h.untaken hk
  have h2 := h.changes hk
  have h3 := h.stored.occurrences_le hk
  omega

end Tracked

theorem Tracked.dropPending {w : World} {type : EventType} (h : Tracked w type)
    (pending : List (EventType × (ℤ × ℤ))) : Tracked { w with pending := pending } type :=
  h.of_stored rfl rfl rfl rfl

/-- A critical section keeps the counts of every type tracked. -/
theorem tracked_record {w : World} {type : EventType} (h : Tracked w type) {a : Action}
    {e : Endpoint} (hgot : w.GettersCurrent a) (hs : w.endpoint.next a = some e) :
    Tracked (w.record a e) type := by
  cases Endpoint.slotStep_of_next type hs with
  | idle hreader hslot =>
      have htakes := Action.takes_of_reader hreader
      exact h.of_stored (congrArg _ hslot) rfl (by simp [record, htakes])
        (by simp [record, htakes])
  | listener _ hslot =>
      refine h.read hgot ?_ rfl rfl rfl
      exact (congrArg _ hslot).trans (EventSlot.stored_listener ..)
  | countMatched _ hslot =>
      refine h.read hgot ?_ rfl rfl rfl
      exact (congrArg _ hslot).trans (EventSlot.stored_readMatchedCount ..)
  | @takeFailed got _ _ hnone hslot =>
      cases got with
      | none => exact h.of_stored (congrArg _ hslot) rfl rfl rfl
      | some now => cases hnone
  | @take got info _ _ hsome hslot =>
      cases got with
      | none => cases hsome
      | some now =>
          exact h.take (hgot now rfl) (congrArg _ hslot) rfl (by simp [record, Action.takes])
            (by simp [record, Action.takes])
  | createGuard hguard hslot =>
      refine h.of_stored ?_ rfl rfl rfl
      exact (congrArg _ hslot).trans (EventSlot.stored_createGuard _ hguard)
  | finishInit _ hslot =>
      refine h.read hgot ?_ rfl rfl rfl
      exact (congrArg _ hslot).trans (EventSlot.stored_finishInitialize ..)
  | setCallback hslot =>
      refine h.of_stored ?_ rfl rfl rfl
      exact (congrArg _ hslot).trans (EventSlot.stored_setCallback ..)
  | afterSetCallback _ hslot =>
      refine h.of_stored ?_ rfl rfl rfl
      exact (congrArg _ hslot).trans (EventSlot.stored_afterSetCallback _)

theorem tracked_step {w w' : World} {type : EventType} {a : WorldAction} (h : Tracked w type)
    (hs : w.next a = some w') : Tracked w' type := by
  cases worldStep_of_next hs with
  | @change type' now _ hchange =>
      by_cases hne : type = type'
      · subst hne
        exact h.change hchange
      · exact h.of_stored rfl (Function.update_of_ne hne ..) rfl (Function.update_of_ne hne ..)
  | coalesce => exact h.dropPending _
  | listener _ hgot he =>
      exact tracked_record (h.dropPending _) hgot he
  | act _ hgot he => exact tracked_record h hgot he

theorem tracked_reachable {kind : EndpointKind} {w : World} (h : (system kind).Reachable w)
    (type : EventType) : Tracked w type := by
  refine h.invariant (I := fun w => Tracked w type) ?_ ?_
  · rintro w rfl
    exact Tracked.create kind type
  · intro w a w' ih hs
    exact tracked_step ih hs

end World

end RmwZzdds.Event
