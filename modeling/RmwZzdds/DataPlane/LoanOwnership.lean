import RmwZzdds.DataPlane.Loan
import RmwZzdds.Library.Table

/-!
# Ownership of loaned messages

Every message that exists is owned by one call in progress or by the set of its
endpoint.  A message that a call has recorded but not handed out yet is in both.
A give-back that hits such a message takes it from under the call, and this is
the only way in which the ownership can be lost (`loans_owned`).

Every step is about one message, so what holds of the others is framed
(`Untouched`).
-/

set_option linter.unusedSectionVars false

namespace RmwZzdds.DataPlane.Loan

open Transition

variable {Endpoint Caller Pointer : Type*}

/-! ## Histories -/

/-- The message that an event is about. -/
def Event.message : Event Endpoint Pointer → Message Endpoint Pointer
  | created message | used message | destroyed message | handed message | givenBack message =>
      message

/-- What may happen to a message after what has happened before. -/
def Allowed (before : List (Event Endpoint Pointer)) : Event Endpoint Pointer → Prop
  | .created message => .created message ∉ before
  | .used message | .destroyed message =>
      .created message ∈ before ∧ .destroyed message ∉ before
  | .handed message =>
      .created message ∈ before ∧ .destroyed message ∉ before ∧ .handed message ∉ before
  | .givenBack message => .handed message ∈ before ∧ .givenBack message ∉ before

/-! ## The invariant -/

/-- A call in progress has the message. -/
def State.Holds (s : State Endpoint Caller Pointer) (caller : Caller)
    (message : Message Endpoint Pointer) : Prop :=
  ∃ call, s.calls caller = some call ∧ call.message = message

/-- What holds of a message that a call has. -/
structure State.Held (s : State Endpoint Caller Pointer) (caller : Caller)
    (call : Call Endpoint Pointer) (message : Message Endpoint Pointer) : Prop where
  live : message ∈ s.live
  registered : message ∈ s.loanedMessages message.endpoint ↔ call.registered = true
  unhanded : call.fresh = true → .handed message ∉ s.log
  present : s.gone message.endpoint = false
  unique : ∀ other, s.Holds other message → other = caller

/-- Where a message is. -/
structure State.Account (s : State Endpoint Caller Pointer)
    (message : Message Endpoint Pointer) : Prop where
  numbered : .created message ∈ s.log → message.number < s.created
  live_iff : message ∈ s.live ↔ .created message ∈ s.log ∧ .destroyed message ∉ s.log
  loaned : message ∈ s.loanedMessages message.endpoint → message ∈ s.live ∧
    .givenBack message ∉ s.log ∧ (.handed message ∈ s.log ∨ ∃ caller, s.Holds caller message)
  handed : .handed message ∈ s.log → .givenBack message ∈ s.log ∨
    message ∈ s.loanedMessages message.endpoint ∨ s.gone message.endpoint = true
  owned : message ∈ s.live →
    message ∈ s.loanedMessages message.endpoint ∨ ∃ caller, s.Holds caller message
  held : ∀ caller call, s.calls caller = some call → call.message = message →
    s.Held caller call message

/-- What holds of the sets as a whole. -/
structure State.Tidy (s : State Endpoint Caller Pointer) : Prop where
  pointer_inj : ∀ m ∈ s.live, ∀ m' ∈ s.live, m.pointer = m'.pointer → m = m'
  nodup : ∀ endpoint, (s.loanedMessages endpoint).Nodup
  endpoint : ∀ endpoint, ∀ m ∈ s.loanedMessages endpoint, m.endpoint = endpoint
  gone : ∀ endpoint, s.gone endpoint = true → s.loanedMessages endpoint = []

/-- Every message is owned. -/
structure State.Sound (s : State Endpoint Caller Pointer) : Prop where
  obeys : Obeys Allowed s.log
  tidy : s.Tidy
  account : ∀ message, s.Account message

/-! ## Frames -/

/-- Nothing has happened to the message. -/
structure Untouched (s s' : State Endpoint Caller Pointer)
    (message : Message Endpoint Pointer) : Prop where
  live : message ∈ s'.live ↔ message ∈ s.live
  loaned : message ∈ s'.loanedMessages message.endpoint ↔
    message ∈ s.loanedMessages message.endpoint
  calls : ∀ caller call, call.message = message →
    (s'.calls caller = some call ↔ s.calls caller = some call)
  log : ∀ event : Event Endpoint Pointer, event.message = message → event ≠ .used message →
    (event ∈ s'.log ↔ event ∈ s.log)
  gone : s'.gone = s.gone
  created : s.created ≤ s'.created

section Frames

variable {s s' s'' : State Endpoint Caller Pointer} {message : Message Endpoint Pointer}

theorem Untouched.refl (s : State Endpoint Caller Pointer) (message : Message Endpoint Pointer) :
    Untouched s s message :=
  ⟨Iff.rfl, Iff.rfl, fun _ _ _ => Iff.rfl, fun _ _ _ => Iff.rfl, rfl, Nat.le_refl _⟩

theorem Untouched.trans (h : Untouched s s' message) (h' : Untouched s' s'' message) :
    Untouched s s'' message where
  live := h'.live.trans h.live
  loaned := h'.loaned.trans h.loaned
  calls caller call hcall := (h'.calls caller call hcall).trans (h.calls caller call hcall)
  log event hevent hused := (h'.log event hevent hused).trans (h.log event hevent hused)
  gone := h'.gone.trans h.gone
  created := h.created.trans h'.created

theorem Untouched.holds (h : Untouched s s' message) (caller : Caller) :
    s'.Holds caller message ↔ s.Holds caller message := by
  constructor
  · rintro ⟨call, hcall, hmessage⟩
    exact ⟨call, (h.calls caller call hmessage).mp hcall, hmessage⟩
  · rintro ⟨call, hcall, hmessage⟩
    exact ⟨call, (h.calls caller call hmessage).mpr hcall, hmessage⟩

/-- The account of an untouched message stays. -/
theorem State.Account.frame (h : s.Account message) (huntouched : Untouched s s' message) :
    s'.Account message := by
  have hcreated := huntouched.log (.created message) rfl nofun
  have hdestroyed := huntouched.log (.destroyed message) rfl nofun
  have hhanded := huntouched.log (.handed message) rfl nofun
  have hgivenBack := huntouched.log (.givenBack message) rfl nofun
  constructor
  · rw [hcreated]
    exact fun hmem => (h.numbered hmem).trans_le huntouched.created
  · rw [huntouched.live, hcreated, hdestroyed]
    exact h.live_iff
  · rw [huntouched.live, huntouched.loaned, hgivenBack, hhanded]
    simp only [huntouched.holds]
    exact h.loaned
  · rw [huntouched.loaned, hhanded, hgivenBack, huntouched.gone]
    exact h.handed
  · rw [huntouched.live, huntouched.loaned]
    simp only [huntouched.holds]
    exact h.owned
  · intro caller call hcall hmessage
    have hheld := h.held caller call ((huntouched.calls caller call hmessage).mp hcall) hmessage
    constructor
    · exact huntouched.live.mpr hheld.live
    · exact huntouched.loaned.trans hheld.registered
    · rw [hhanded]
      exact hheld.unhanded
    · rw [huntouched.gone]
      exact hheld.present
    · intro other hother
      exact hheld.unique other ((huntouched.holds other).mp hother)

end Frames

section

variable [DecidableEq Endpoint] [DecidableEq Caller] [DecidableEq Pointer]
  {s : State Endpoint Caller Pointer} {caller : Caller} {message : Message Endpoint Pointer}

/-- The caller has no call, or one on the message. -/
def State.Serves (s : State Endpoint Caller Pointer) (caller : Caller)
    (message : Message Endpoint Pointer) : Prop :=
  ∀ call, s.calls caller = some call → call.message = message

/-- What changes for a caller is about its message. -/
theorem update_calls {entry : Option (Call Endpoint Pointer)}
    (hentry : ∀ call, entry = some call → call.message = message)
    (hserves : s.Serves caller message) {call : Call Endpoint Pointer}
    (hcall : call.message ≠ message) (caller' : Caller) :
    Function.update s.calls caller entry caller' = some call ↔ s.calls caller' = some call := by
  by_cases hcaller : caller' = caller
  · subst hcaller
    rw [Function.update_self]
    constructor
    · exact fun hentered => absurd (hentry call hentered) hcall
    · exact fun hold => absurd (hserves call hold) hcall
  · rw [Function.update_of_ne hcaller]

variable {other : Message Endpoint Pointer}

theorem untouched_setCall {call : Call Endpoint Pointer} (hcall : call.message = message)
    (hserves : s.Serves caller message) (hne : other ≠ message) :
    Untouched s (s.setCall caller call) other := by
  refine ⟨Iff.rfl, Iff.rfl, ?_, fun _ _ _ => Iff.rfl, rfl, Nat.le_refl _⟩
  intro caller' call' hcall'
  refine update_calls ?_ hserves (hcall' ▸ hne) caller'
  rintro _ ⟨⟩
  exact hcall

theorem untouched_finish (ret : Ret) (hserves : s.Serves caller message) (hne : other ≠ message) :
    Untouched s (s.finish caller ret) other := by
  refine ⟨Iff.rfl, Iff.rfl, ?_, fun _ _ _ => Iff.rfl, rfl, Nat.le_refl _⟩
  intro caller' call' hcall'
  refine update_calls ?_ hserves (hcall' ▸ hne) caller'
  rintro _ ⟨⟩

theorem untouched_emit {event : Event Endpoint Pointer} (hne : other ≠ message)
    (hevent : event.message = message) : Untouched s (s.emit event) other := by
  refine ⟨Iff.rfl, Iff.rfl, fun _ _ _ => Iff.rfl, ?_, rfl, Nat.le_refl _⟩
  intro event' hevent' _
  rw [State.emit, List.mem_append, List.mem_singleton, or_iff_left]
  rintro rfl
  exact hne (hevent'.symm.trans hevent)

/-- Using a message changes nothing. -/
theorem untouched_used : Untouched s (s.emit (.used message)) other := by
  refine ⟨Iff.rfl, Iff.rfl, fun _ _ _ => Iff.rfl, ?_, rfl, Nat.le_refl _⟩
  intro event hevent hused
  rw [State.emit, List.mem_append, List.mem_singleton, or_iff_left]
  rintro rfl
  exact hused (congrArg Event.used hevent)

/-! ## The set of an endpoint -/

theorem insert_eq (hnew : s.loaned message.endpoint message.pointer = none) :
    s.insert message =
      { s with
        loanedMessages := Function.update s.loanedMessages message.endpoint
          (message :: s.loanedMessages message.endpoint) } := by
  rw [State.insert, hnew]
  rfl

theorem loanedMessages_erase (endpoint : Endpoint) (pointer : Pointer) :
    (s.erase endpoint pointer).loanedMessages = Function.update s.loanedMessages endpoint
      ((s.loanedMessages endpoint).filter fun message => message.pointer ≠ pointer) := rfl

theorem mem_insert (hnew : s.loaned message.endpoint message.pointer = none) (endpoint : Endpoint)
    (other : Message Endpoint Pointer) :
    other ∈ (s.insert message).loanedMessages endpoint ↔
      (other = message ∧ endpoint = message.endpoint) ∨ other ∈ s.loanedMessages endpoint := by
  rw [insert_eq hnew]
  by_cases hendpoint : endpoint = message.endpoint
  · subst hendpoint
    simp
  · simp [hendpoint]

theorem mem_erase {endpoint : Endpoint} {pointer : Pointer} (endpoint' : Endpoint) :
    other ∈ (s.erase endpoint pointer).loanedMessages endpoint' ↔
      other ∈ s.loanedMessages endpoint' ∧ ¬ (endpoint' = endpoint ∧ other.pointer = pointer) := by
  rw [loanedMessages_erase]
  by_cases hendpoint : endpoint' = endpoint
  · subst hendpoint
    simp
  · simp [hendpoint]

theorem loaned_eq_some {endpoint : Endpoint} {pointer : Pointer}
    (h : s.loaned endpoint pointer = some message) :
    message ∈ s.loanedMessages endpoint ∧ message.pointer = pointer := by
  refine ⟨List.mem_of_find?_eq_some h, ?_⟩
  simpa using List.find?_some h

theorem loaned_eq_none {endpoint : Endpoint} {pointer : Pointer} :
    s.loaned endpoint pointer = none ↔
      ∀ m ∈ s.loanedMessages endpoint, m.pointer ≠ pointer := by
  simp [State.loaned]

/-! ## Messages and their histories -/

theorem created_of_mem (h : s.Sound) {event : Event Endpoint Pointer} (hmem : event ∈ s.log) :
    .created event.message ∈ s.log := by
  have hhanded : ∀ m, .handed m ∈ s.log → .created m ∈ s.log := by
    intro m hm
    obtain ⟨before, after, hlog⟩ := List.append_of_mem hm
    have hcreated := (h.obeys before _ after hlog).1
    rw [hlog]
    exact List.mem_append_left _ hcreated
  obtain ⟨before, after, hlog⟩ := List.append_of_mem hmem
  have hallowed := h.obeys before event after hlog
  cases event with
  | created m => exact hmem
  | used m | destroyed m =>
      rw [hlog]
      exact List.mem_append_left _ hallowed.1
  | handed m => exact hhanded m hmem
  | givenBack m =>
      refine hhanded m ?_
      rw [hlog]
      exact List.mem_append_left _ hallowed.1

/-! ## Calls that have a message -/

/-- What a call at this point needs of its message. -/
structure State.Supports (s : State Endpoint Caller Pointer) (call : Call Endpoint Pointer) :
    Prop where
  numbered : call.message.number < s.created
  live : call.message ∈ s.live
  created : .created call.message ∈ s.log
  undestroyed : .destroyed call.message ∉ s.log
  registered : call.message ∈ s.loanedMessages call.message.endpoint ↔ call.registered = true
  unhanded : call.fresh = true → .handed call.message ∉ s.log
  kept : call.registered = true → .givenBack call.message ∉ s.log
  givenBack : call.registered = false → .handed call.message ∈ s.log →
    .givenBack call.message ∈ s.log
  present : s.gone call.message.endpoint = false

theorem State.Sound.supports (h : s.Sound) {call : Call Endpoint Pointer}
    (hcall : s.calls caller = some call) : s.Supports call := by
  have haccount := h.account call.message
  have hheld := haccount.held caller call hcall rfl
  obtain ⟨hcreated, hundestroyed⟩ := haccount.live_iff.mp hheld.live
  constructor
  · exact haccount.numbered hcreated
  · exact hheld.live
  · exact hcreated
  · exact hundestroyed
  · exact hheld.registered
  · exact hheld.unhanded
  · intro hregistered
    exact (haccount.loaned (hheld.registered.mpr hregistered)).2.1
  · intro hregistered hhanded
    have hpresent := hheld.present
    obtain hgiven | hloaned | hgone := haccount.handed hhanded
    · exact hgiven
    · rw [hheld.registered, hregistered] at hloaned
      cases hloaned
    · rw [hpresent] at hgone
      cases hgone
  · exact hheld.present

/-- A call that gets a message or gets on with it. -/
theorem State.Sound.setCall {s₁ : State Endpoint Caller Pointer} {call : Call Endpoint Pointer}
    (h : s.Sound) (hserves : s.Serves caller call.message)
    (hunique : ∀ other, s.Holds other call.message → other = caller)
    (huntouched : ∀ m, m ≠ call.message → Untouched s s₁ m) (hcalls : s₁.calls = s.calls)
    (hobeys : Obeys Allowed s₁.log) (htidy : s₁.Tidy) (hsupports : s₁.Supports call) :
    (s₁.setCall caller call).Sound := by
  have hserves₁ : s₁.Serves caller call.message := by
    rw [State.Serves, hcalls]
    exact hserves
  have hself : (s₁.setCall caller call).calls caller = some call := Function.update_self ..
  have hunique' : ∀ other, (s₁.setCall caller call).Holds other call.message → other = caller := by
    rintro other ⟨call', hcall', hmessage⟩
    by_contra hne
    have hold : s₁.calls other = some call' := (Function.update_of_ne hne _ _).symm.trans hcall'
    exact hne (hunique other ⟨call', hcalls ▸ hold, hmessage⟩)
  refine ⟨hobeys, ⟨htidy.pointer_inj, htidy.nodup, htidy.endpoint, htidy.gone⟩, ?_⟩
  intro m
  by_cases hm : m = call.message
  · subst hm
    constructor
    · exact fun _ => hsupports.numbered
    · exact iff_of_true hsupports.live ⟨hsupports.created, hsupports.undestroyed⟩
    · intro hloaned
      exact ⟨hsupports.live, hsupports.kept (hsupports.registered.mp hloaned),
        .inr ⟨caller, call, hself, rfl⟩⟩
    · intro hhanded
      cases hregistered : call.registered with
      | false => exact .inl (hsupports.givenBack hregistered hhanded)
      | true => exact .inr (.inl (hsupports.registered.mpr hregistered))
    · exact fun _ => .inr ⟨caller, call, hself, rfl⟩
    · intro caller' call' hcall' hmessage
      obtain rfl := hunique' caller' ⟨call', hcall', hmessage⟩
      obtain rfl := Option.some.inj (hself.symm.trans hcall')
      exact ⟨hsupports.live, hsupports.registered, hsupports.unhanded, hsupports.present, hunique'⟩
  · exact (h.account m).frame ((huntouched m hm).trans (untouched_setCall rfl hserves₁ hm))

/-- Nobody else has the message of a call. -/
theorem State.Sound.unique (h : s.Sound) {call : Call Endpoint Pointer}
    (hcall : s.calls caller = some call) (other : Caller) (hother : s.Holds other call.message) :
    other = caller :=
  ((h.account call.message).held caller call hcall rfl).unique other hother

theorem serves_of_calls {call : Call Endpoint Pointer} (hcall : s.calls caller = some call) :
    s.Serves caller call.message := by
  intro call' hcall'
  rw [Option.some.inj (hcall'.symm.trans hcall)]

theorem State.Supports.congr {call call' : Call Endpoint Pointer} (h : s.Supports call)
    (hmessage : call'.message = call.message) (hregistered : call'.registered = call.registered)
    (hfresh : call'.fresh = true → call.fresh = true) : s.Supports call' := by
  constructor
  · exact hmessage ▸ h.numbered
  · exact hmessage ▸ h.live
  · exact hmessage ▸ h.created
  · exact hmessage ▸ h.undestroyed
  · rw [hmessage, hregistered]
    exact h.registered
  · intro hnew
    rw [hmessage]
    exact h.unhanded (hfresh hnew)
  · rw [hmessage, hregistered]
    exact h.kept
  · rw [hmessage, hregistered]
    exact h.givenBack
  · exact hmessage ▸ h.present

/-- A call gets on with its message. -/
theorem State.Sound.move (h : s.Sound) {call call' : Call Endpoint Pointer}
    (hcall : s.calls caller = some call) (hmessage : call'.message = call.message)
    (hregistered : call'.registered = call.registered)
    (hfresh : call'.fresh = true → call.fresh = true) : (s.setCall caller call').Sound := by
  have hserves : s.Serves caller call'.message := hmessage ▸ serves_of_calls hcall
  have hunique : ∀ other, s.Holds other call'.message → other = caller :=
    hmessage ▸ h.unique hcall
  exact h.setCall hserves hunique (fun m _ => .refl s m) rfl h.obeys h.tidy
    ((h.supports hcall).congr hmessage hregistered hfresh)

/-- A call passes its message to a callback. -/
theorem State.Sound.use (h : s.Sound) {call : Call Endpoint Pointer}
    (hcall : s.calls caller = some call) : (s.emit (.used call.message)).Sound where
  obeys := by
    have hsupports := h.supports hcall
    exact (obeys_concat _ _ _).mpr ⟨h.obeys, hsupports.created, hsupports.undestroyed⟩
  tidy := ⟨h.tidy.pointer_inj, h.tidy.nodup, h.tidy.endpoint, h.tidy.gone⟩
  account m := (h.account m).frame untouched_used

/-- A call that has not begun returns. -/
theorem State.Sound.refuse (h : s.Sound) (hcall : s.calls caller = none) (ret : Ret) :
    (s.finish caller ret).Sound := by
  have hcalls : (s.finish caller ret).calls = s.calls := by
    rw [State.finish, ← hcall]
    exact Function.update_eq_self caller s.calls
  refine ⟨h.obeys, ⟨h.tidy.pointer_inj, h.tidy.nodup, h.tidy.endpoint, h.tidy.gone⟩, ?_⟩
  intro m
  refine (h.account m).frame ⟨Iff.rfl, Iff.rfl, ?_, fun _ _ _ => Iff.rfl, rfl, Nat.le_refl _⟩
  intro caller' call' _
  rw [hcalls]

theorem untouched_addMessage (hne : other ≠ message) :
    Untouched s (s.addMessage message) other where
  live := by
    show other ∈ Insert.insert message s.live ↔ other ∈ s.live
    rw [Finset.mem_insert, or_iff_right hne]
  loaned := Iff.rfl
  calls _ _ _ := Iff.rfl
  log event hevent hused := (untouched_emit (s := s) hne rfl).log event
    hevent hused
  gone := rfl
  created := Nat.le_succ s.created

/-- A message whose number is the next one is new. -/
structure State.New (s : State Endpoint Caller Pointer) (message : Message Endpoint Pointer) :
    Prop where
  unseen : ∀ event : Event Endpoint Pointer, event.message = message → event ∉ s.log
  dead : message ∉ s.live
  unloaned : message ∉ s.loanedMessages message.endpoint
  unheld : ∀ c, ¬ s.Holds c message

theorem State.Sound.new (h : s.Sound) (hnumber : message.number = s.created) : s.New message := by
  have hnew : .created message ∉ s.log := by
    intro hmem
    have hlt := (h.account message).numbered hmem
    rw [hnumber] at hlt
    exact Nat.lt_irrefl _ hlt
  have hdead : message ∉ s.live := fun hlive => hnew ((h.account message).live_iff.mp hlive).1
  constructor
  · intro event hevent hmem
    exact hnew (hevent ▸ created_of_mem h hmem)
  · exact hdead
  · exact fun hloaned => hdead ((h.account message).loaned hloaned).1
  · rintro c ⟨call, hcall, rfl⟩
    exact hdead (h.supports hcall).live

theorem State.New.supports (hnew : s.New message) {call : Call Endpoint Pointer}
    (hnumber : message.number = s.created) (hmessage : call.message = message)
    (hregistered : call.registered = false) (hpresent : s.gone message.endpoint = false) :
    (s.addMessage message).Supports call := by
  subst hmessage
  have hlog : ∀ event : Event Endpoint Pointer, event.message = call.message →
      event ≠ .created call.message → event ∉ (s.addMessage call.message).log := by
    intro event hevent hne hmem
    obtain hmem | hmem := List.mem_append.mp hmem
    · exact hnew.unseen event hevent hmem
    · exact hne (List.mem_singleton.mp hmem)
  constructor
  · rw [hnumber]
    exact Nat.lt_succ_self _
  · exact Finset.mem_insert_self _ _
  · exact List.mem_append_right _ (List.mem_singleton_self _)
  · exact hlog _ rfl nofun
  · rw [hregistered]
    exact iff_of_false hnew.unloaned Bool.false_ne_true
  · exact fun _ => hlog _ rfl nofun
  · exact fun _ => hlog _ rfl nofun
  · exact fun _ hhanded => absurd hhanded (hlog _ rfl nofun)
  · exact hpresent

/-- A new message. -/
theorem State.Sound.create (h : s.Sound) {endpoint : Endpoint}
    (hidle : s.idle caller endpoint = true) {pointer : Option Pointer}
    {call : Message Endpoint Pointer → Call Endpoint Pointer}
    (hmessage : ∀ m, (call m).message = m) (hregistered : ∀ m, (call m).registered = false)
    {s' : State Endpoint Caller Pointer} (hcreate : s.create caller endpoint pointer call = some s') :
    s'.Sound := by
  simp only [State.idle, Bool.and_eq_true, Option.isNone_iff_eq_none, Bool.not_eq_true'] at hidle
  obtain ⟨hnone, hpresent⟩ := hidle
  cases pointer with
  | none =>
      cases hcreate
      exact h.refuse hnone .badAlloc
  | some pointer =>
      simp only [State.create, Option.ite_none_left_eq_some, Option.some.injEq] at hcreate
      obtain ⟨hfree, rfl⟩ := hcreate
      have hnew : s.New ⟨endpoint, pointer, s.created⟩ := h.new rfl
      have hsupports := hnew.supports rfl (hmessage _) (hregistered _) hpresent
      rw [not_exists] at hfree
      refine h.setCall ?_ ?_ ?_ rfl ?_ ?_ hsupports
      · rintro k hk
        rw [hnone] at hk
        cases hk
      · rw [hmessage]
        exact fun c hc => absurd hc (hnew.unheld c)
      · rw [hmessage]
        exact fun m hm => untouched_addMessage hm
      · exact (obeys_concat _ _ _).mpr ⟨h.obeys, hnew.unseen _ rfl⟩
      · refine ⟨?_, h.tidy.nodup, h.tidy.endpoint, h.tidy.gone⟩
        intro m₁ hm₁ m₂ hm₂ hpointer
        obtain rfl | hm₁ := Finset.mem_insert.mp hm₁
        · obtain rfl | hm₂ := Finset.mem_insert.mp hm₂
          · rfl
          · exact absurd ⟨hm₂, hpointer.symm⟩ (hfree m₂)
        · obtain rfl | hm₂ := Finset.mem_insert.mp hm₂
          · exact absurd ⟨hm₁, hpointer⟩ (hfree m₁)
          · exact h.tidy.pointer_inj m₁ hm₁ m₂ hm₂ hpointer

theorem State.Sound.loaned_eq_none (h : s.Sound) {call : Call Endpoint Pointer}
    (hcall : s.calls caller = some call) (hunregistered : call.registered = false) :
    s.loaned call.message.endpoint call.message.pointer = none := by
  have hsupports := h.supports hcall
  refine Loan.loaned_eq_none.mpr ?_
  intro m hm hpointer
  have hlive := ((h.account m).loaned (h.tidy.endpoint _ m hm ▸ hm)).1
  obtain rfl := h.tidy.pointer_inj m hlive _ hsupports.live hpointer
  exact Bool.false_ne_true (hunregistered.symm.trans (hsupports.registered.mp hm))

theorem untouched_insert (hnew : s.loaned message.endpoint message.pointer = none)
    (hne : other ≠ message) : Untouched s (s.insert message) other := by
  have hloaned : other ∈ (s.insert message).loanedMessages other.endpoint ↔
      other ∈ s.loanedMessages other.endpoint := by
    rw [mem_insert hnew]
    exact or_iff_right fun hsame => hne hsame.1
  rw [insert_eq hnew] at hloaned ⊢
  exact ⟨Iff.rfl, hloaned, fun _ _ _ => Iff.rfl, fun _ _ _ => Iff.rfl, rfl, Nat.le_refl _⟩

theorem State.Tidy.insert (h : s.Tidy)
    (hnew : s.loaned message.endpoint message.pointer = none)
    (hpresent : s.gone message.endpoint = false) : (s.insert message).Tidy := by
  have hmem := fun endpoint other => mem_insert hnew endpoint other
  have hunloaned : message ∉ s.loanedMessages message.endpoint := fun hloaned =>
    loaned_eq_none.mp hnew message hloaned rfl
  rw [insert_eq hnew] at hmem ⊢
  constructor
  · exact h.pointer_inj
  · intro endpoint
    by_cases hendpoint : endpoint = message.endpoint
    · subst hendpoint
      dsimp only
      rw [Function.update_self]
      exact List.nodup_cons.mpr ⟨hunloaned, h.nodup _⟩
    · dsimp only
      rw [Function.update_of_ne hendpoint]
      exact h.nodup endpoint
  · intro endpoint m hm
    obtain ⟨rfl, hendpoint⟩ | hold := (hmem endpoint m).mp hm
    · exact hendpoint.symm
    · exact h.endpoint endpoint m hold
  · intro endpoint hgone
    have hne : endpoint ≠ message.endpoint := by
      rintro rfl
      exact Bool.false_ne_true (hpresent.symm.trans hgone)
    dsimp only
    rw [Function.update_of_ne hne]
    exact h.gone endpoint hgone

/-- A call records its message. -/
theorem State.Sound.record (h : s.Sound) {call call' : Call Endpoint Pointer}
    (hcall : s.calls caller = some call) (hunregistered : call.registered = false)
    (hfresh : call.fresh = true) (hmessage : call'.message = call.message)
    (hregistered : call'.registered = true) :
    ((s.insert call.message).setCall caller call').Sound := by
  have hsupports := h.supports hcall
  have hnew := h.loaned_eq_none hcall hunregistered
  have hserves : s.Serves caller call'.message := hmessage ▸ serves_of_calls hcall
  have hunique : ∀ other, s.Holds other call'.message → other = caller :=
    hmessage ▸ h.unique hcall
  have htidy := h.tidy.insert hnew hsupports.present
  have hloaned := (mem_insert hnew call.message.endpoint call.message).mpr
    (.inl ⟨rfl, rfl⟩)
  have huntouched := fun m (hm : m ≠ call.message) => untouched_insert hnew hm
  have hunhanded := hsupports.unhanded hfresh
  have hkept : .givenBack call.message ∉ s.log := by
    intro hgiven
    obtain ⟨before, after, hlog⟩ := List.append_of_mem hgiven
    refine hunhanded ?_
    rw [hlog]
    exact List.mem_append_left _ (h.obeys before _ after hlog).1
  rw [insert_eq hnew] at htidy hloaned huntouched ⊢
  refine h.setCall hserves hunique (hmessage ▸ huntouched) rfl h.obeys htidy ?_
  constructor
  · exact hmessage ▸ hsupports.numbered
  · exact hmessage ▸ hsupports.live
  · exact hmessage ▸ hsupports.created
  · exact hmessage ▸ hsupports.undestroyed
  · rw [hmessage, hregistered]
    exact iff_of_true hloaned rfl
  · exact fun _ => hmessage ▸ hunhanded
  · exact fun _ => hmessage ▸ hkept
  · rw [hregistered]
    exact nofun
  · exact hmessage ▸ hsupports.present

/-- Erasing the pointer of a loaned message takes out that message. -/
theorem State.Sound.mem_erase (h : s.Sound) {endpoint : Endpoint}
    (hloaned : message ∈ s.loanedMessages endpoint) (endpoint' : Endpoint) :
    other ∈ (s.erase endpoint message.pointer).loanedMessages endpoint' ↔
      other ∈ s.loanedMessages endpoint' ∧ other ≠ message := by
  have hendpoint := h.tidy.endpoint _ message hloaned
  rw [Loan.mem_erase]
  refine and_congr_right fun hother => not_congr ?_
  have hlive := ((h.account message).loaned (hendpoint ▸ hloaned)).1
  have hlive' := ((h.account other).loaned (h.tidy.endpoint _ other hother ▸ hother)).1
  constructor
  · exact fun hsame => h.tidy.pointer_inj other hlive' message hlive hsame.2
  · rintro rfl
    exact ⟨(h.tidy.endpoint _ other hother).symm.trans hendpoint, rfl⟩

theorem State.Sound.untouched_erase (h : s.Sound) {endpoint : Endpoint}
    (hloaned : message ∈ s.loanedMessages endpoint) (hne : other ≠ message) :
    Untouched s (s.erase endpoint message.pointer) other := by
  refine ⟨Iff.rfl, ?_, fun _ _ _ => Iff.rfl, fun _ _ _ => Iff.rfl, rfl, Nat.le_refl _⟩
  rw [h.mem_erase hloaned]
  exact and_iff_left hne

theorem State.Tidy.erase (h : s.Tidy) (endpoint : Endpoint) (pointer : Pointer) :
    (s.erase endpoint pointer).Tidy := by
  constructor
  · exact h.pointer_inj
  · intro endpoint'
    by_cases hendpoint : endpoint' = endpoint
    · subst hendpoint
      rw [loanedMessages_erase, Function.update_self]
      exact (h.nodup endpoint').filter _
    · rw [loanedMessages_erase, Function.update_of_ne hendpoint]
      exact h.nodup endpoint'
  · intro endpoint' m hm
    exact h.endpoint endpoint' m (Loan.mem_erase endpoint' |>.mp hm).1
  · intro endpoint' hgone
    refine List.eq_nil_iff_forall_not_mem.mpr ?_
    intro m hm
    have hold := (Loan.mem_erase endpoint' |>.mp hm).1
    rw [h.gone endpoint' hgone] at hold
    cases hold

/-- A call withdraws the message that it has recorded. -/
theorem State.Sound.withdraw (h : s.Sound) {call call' : Call Endpoint Pointer}
    (hcall : s.calls caller = some call) (hrecorded : call.registered = true)
    (hunhanded : call.fresh = true) (hmessage : call'.message = call.message)
    (hregistered : call'.registered = false) (hfresh : call'.fresh = false) :
    ((s.erase call.message.endpoint call.message.pointer).setCall caller call').Sound := by
  have hsupports := h.supports hcall
  have hloaned := hsupports.registered.mpr hrecorded
  have hserves : s.Serves caller call'.message := hmessage ▸ serves_of_calls hcall
  have hunique : ∀ other, s.Holds other call'.message → other = caller :=
    hmessage ▸ h.unique hcall
  refine h.setCall hserves hunique ?_ rfl h.obeys (h.tidy.erase _ _) ?_
  · intro m hm
    rw [hmessage] at hm
    exact h.untouched_erase hloaned hm
  · constructor
    · exact hmessage ▸ hsupports.numbered
    · exact hmessage ▸ hsupports.live
    · exact hmessage ▸ hsupports.created
    · exact hmessage ▸ hsupports.undestroyed
    · rw [hmessage, hregistered, h.mem_erase hloaned]
      simp
    · rw [hfresh]
      exact nofun
    · rw [hregistered]
      exact nofun
    · rw [hmessage]
      exact fun _ hhanded => absurd hhanded (hsupports.unhanded hunhanded)
    · exact hmessage ▸ hsupports.present

/-- A give-back or a publish takes a message out that no call has. -/
theorem State.Sound.takeOut (h : s.Sound) {endpoint : Endpoint}
    (hidle : s.idle caller endpoint = true) {pointer : Pointer}
    (hfree : ∀ m ∈ s.loanedMessages endpoint, m.pointer = pointer → ∀ c, ¬ s.Holds c m)
    {call : Message Endpoint Pointer → Call Endpoint Pointer}
    (hmessage : ∀ m, (call m).message = m) (hregistered : ∀ m, (call m).registered = false)
    (hfresh : ∀ m, (call m).fresh = false) : (s.takeOut caller endpoint pointer call).Sound := by
  simp only [State.idle, Bool.and_eq_true, Option.isNone_iff_eq_none, Bool.not_eq_true'] at hidle
  obtain ⟨hnone, hpresent⟩ := hidle
  cases hfound : s.loaned endpoint pointer with
  | none =>
      rw [State.takeOut, hfound]
      exact h.refuse hnone .error
  | some m =>
      rw [State.takeOut, hfound]
      obtain ⟨hloaned, rfl⟩ := loaned_eq_some hfound
      obtain rfl := h.tidy.endpoint endpoint m hloaned
      have hunheld := hfree m hloaned rfl
      obtain ⟨hlive, hkept, hhanded⟩ := (h.account m).loaned hloaned
      have hhanded : .handed m ∈ s.log := hhanded.resolve_right fun ⟨c, hc⟩ => hunheld c hc
      obtain ⟨hcreated, hundestroyed⟩ := (h.account m).live_iff.mp hlive
      show (((s.erase m.endpoint m.pointer).emit (.givenBack m)).setCall caller (call m)).Sound
      replace hmessage := hmessage m
      replace hregistered := hregistered m
      replace hfresh := hfresh m
      generalize call m = call at hmessage hregistered hfresh ⊢
      subst hmessage
      refine h.setCall ?_ ?_ ?_ rfl ?_ ?_ ?_
      · rintro k hk
        rw [hnone] at hk
        cases hk
      · exact fun c hc => absurd hc (hunheld c)
      · exact fun other hne => (h.untouched_erase hloaned hne).trans (untouched_emit hne rfl)
      · exact (obeys_concat _ _ _).mpr ⟨h.obeys, hhanded, hkept⟩
      · obtain ⟨hinj, hnodup, hendpoint, hgone⟩ := h.tidy.erase call.message.endpoint
          call.message.pointer
        exact ⟨hinj, hnodup, hendpoint, hgone⟩
      · constructor
        · exact (h.account call.message).numbered hcreated
        · exact hlive
        · exact List.mem_append_left _ hcreated
        · show _ ∉ s.log ++ [_]
          simpa using hundestroyed
        · rw [hregistered]
          refine iff_of_false ?_ Bool.false_ne_true
          exact fun hmem => ((h.mem_erase hloaned _).mp hmem).2 rfl
        · rw [hfresh]
          exact nofun
        · rw [hregistered]
          exact nofun
        · exact fun _ _ => List.mem_append_right _ (List.mem_singleton_self _)
        · exact hpresent

/-! ## Calls that return -/

/-- What a call leaves when it returns. -/
structure State.Settled (s : State Endpoint Caller Pointer) (message : Message Endpoint Pointer) :
    Prop where
  numbered : message.number < s.created
  created : .created message ∈ s.log
  live_iff : message ∈ s.live ↔ .destroyed message ∉ s.log
  loaned : message ∈ s.loanedMessages message.endpoint → message ∈ s.live ∧
    .givenBack message ∉ s.log ∧ .handed message ∈ s.log
  handed : .handed message ∈ s.log → .givenBack message ∈ s.log ∨
    message ∈ s.loanedMessages message.endpoint
  owned : message ∈ s.live → message ∈ s.loanedMessages message.endpoint

/-- A call with a message returns. -/
theorem State.Sound.finish {s₁ : State Endpoint Caller Pointer} {call : Call Endpoint Pointer}
    (h : s.Sound) (hcall : s.calls caller = some call)
    (huntouched : ∀ m, m ≠ call.message → Untouched s s₁ m) (hcalls : s₁.calls = s.calls)
    (hobeys : Obeys Allowed s₁.log) (htidy : s₁.Tidy) (hsettled : s₁.Settled call.message)
    (ret : Ret) : (s₁.finish caller ret).Sound := by
  have hcall₁ : s₁.calls caller = some call := hcalls ▸ hcall
  have hunheld : ∀ other, ¬ (s₁.finish caller ret).Holds other call.message := by
    rintro other ⟨call', hcall', hmessage⟩
    by_cases hother : other = caller
    · subst hother
      have hnone : (s₁.finish other ret).calls other = none := Function.update_self ..
      rw [hnone] at hcall'
      cases hcall'
    · have hold : s₁.calls other = some call' :=
        (Function.update_of_ne hother _ _).symm.trans hcall'
      exact hother (h.unique hcall other ⟨call', hcalls ▸ hold, hmessage⟩)
  refine ⟨hobeys, ⟨htidy.pointer_inj, htidy.nodup, htidy.endpoint, htidy.gone⟩, ?_⟩
  intro m
  by_cases hm : m = call.message
  · subst hm
    constructor
    · exact fun _ => hsettled.numbered
    · exact hsettled.live_iff.trans (and_iff_right hsettled.created).symm
    · intro hloaned
      obtain ⟨hlive, hkept, hhanded⟩ := hsettled.loaned hloaned
      exact ⟨hlive, hkept, .inl hhanded⟩
    · exact fun hhanded => (hsettled.handed hhanded).imp_right .inl
    · exact fun hlive => .inl (hsettled.owned hlive)
    · exact fun other call' hcall' hmessage => absurd ⟨call', hcall', hmessage⟩ (hunheld other)
  · exact (h.account m).frame
      ((huntouched m hm).trans (untouched_finish ret (serves_of_calls hcall₁) hm))

theorem untouched_destroyMessage (hne : other ≠ message) :
    Untouched s (s.destroyMessage message) other where
  live := by
    show other ∈ s.live.erase message ↔ other ∈ s.live
    rw [Finset.mem_erase, and_iff_right hne]
  loaned := Iff.rfl
  calls _ _ _ := Iff.rfl
  log event hevent hused := (untouched_emit (s := s) hne rfl).log
    event hevent hused
  gone := rfl
  created := Nat.le_refl _

/-- A call destroys its message and returns. -/
theorem State.Sound.drop (h : s.Sound) {call : Call Endpoint Pointer}
    (hcall : s.calls caller = some call) (hunregistered : call.registered = false) (ret : Ret) :
    ((s.destroyMessage call.message).finish caller ret).Sound := by
  have hsupports := h.supports hcall
  have hunloaned : call.message ∉ s.loanedMessages call.message.endpoint := by
    rw [hsupports.registered, hunregistered]
    exact Bool.false_ne_true
  have hdead : call.message ∉ (s.destroyMessage call.message).live := Finset.notMem_erase _ _
  have hdestroyed : .destroyed call.message ∈ (s.destroyMessage call.message).log :=
    List.mem_append_right _ (List.mem_singleton_self _)
  refine h.finish hcall (fun m hm => untouched_destroyMessage hm) rfl ?_ ?_ ?_ ret
  · exact (obeys_concat _ _ _).mpr ⟨h.obeys, hsupports.created, hsupports.undestroyed⟩
  · refine ⟨?_, h.tidy.nodup, h.tidy.endpoint, h.tidy.gone⟩
    intro m hm m' hm' hpointer
    exact h.tidy.pointer_inj m (Finset.mem_of_mem_erase hm) m' (Finset.mem_of_mem_erase hm') hpointer
  · constructor
    · exact hsupports.numbered
    · exact List.mem_append_left _ hsupports.created
    · exact iff_of_false hdead (not_not_intro hdestroyed)
    · exact fun hloaned => absurd hloaned hunloaned
    · intro hhanded
      have hold : .handed call.message ∈ s.log := by
        simpa [State.destroyMessage, State.emit] using hhanded
      exact .inl (List.mem_append_left _ (hsupports.givenBack hunregistered hold))
    · exact fun hlive => absurd hlive hdead

/-- A call hands its message to the user. -/
theorem State.Sound.hand (h : s.Sound) {call : Call Endpoint Pointer}
    (hcall : s.calls caller = some call) (hregistered : call.registered = true)
    (hfresh : call.fresh = true) (ret : Ret) :
    ((s.finish caller ret).emit (.handed call.message)).Sound := by
  have hsupports := h.supports hcall
  have hloaned := hsupports.registered.mpr hregistered
  have hhanded : .handed call.message ∈ (s.emit (.handed call.message)).log :=
    List.mem_append_right _ (List.mem_singleton_self _)
  show ((s.emit (.handed call.message)).finish caller ret).Sound
  refine h.finish hcall (fun m hm => untouched_emit hm rfl) rfl ?_ ?_ ?_ ret
  · exact (obeys_concat _ _ _).mpr
      ⟨h.obeys, hsupports.created, hsupports.undestroyed, hsupports.unhanded hfresh⟩
  · exact ⟨h.tidy.pointer_inj, h.tidy.nodup, h.tidy.endpoint, h.tidy.gone⟩
  · constructor
    · exact hsupports.numbered
    · exact List.mem_append_left _ hsupports.created
    · refine iff_of_true hsupports.live ?_
      simpa [State.emit] using hsupports.undestroyed
    · refine fun _ => ⟨hsupports.live, ?_, hhanded⟩
      simpa [State.emit] using hsupports.kept hregistered
    · exact fun _ => .inr hloaned
    · exact fun _ => hloaned

/-! ## The end of an endpoint -/

theorem foldl_destroyMessage (ms : List (Message Endpoint Pointer))
    (s : State Endpoint Caller Pointer) :
    ms.foldl State.destroyMessage s =
      { s with
        live := s.live.filter (· ∉ ms)
        log := s.log ++ ms.map .destroyed } := by
  induction ms generalizing s with
  | nil => simp
  | cons m ms ih =>
      have hlive : (s.live.erase m).filter (· ∉ ms) = s.live.filter (· ∉ m :: ms) := by
        ext m'
        simp only [Finset.mem_filter, Finset.mem_erase, List.mem_cons]
        tauto
      rw [List.foldl_cons, ih]
      simp [State.destroyMessage, State.emit, hlive]

/-- Distinct messages may be destroyed one after the other. -/
theorem obeys_destroyed {log : List (Event Endpoint Pointer)}
    {ms : List (Message Endpoint Pointer)} (h : Obeys Allowed log) (hnodup : ms.Nodup)
    (hlive : ∀ m ∈ ms, .created m ∈ log ∧ .destroyed m ∉ log) :
    Obeys Allowed (log ++ ms.map .destroyed) := by
  induction ms generalizing log with
  | nil => simpa using h
  | cons m ms ih =>
      obtain ⟨hm, hnodup⟩ := List.nodup_cons.mp hnodup
      rw [List.map_cons, List.append_cons]
      refine ih ((obeys_concat _ _ _).mpr ⟨h, hlive m (List.mem_cons_self ..)⟩) hnodup ?_
      intro m' hm'
      obtain ⟨hcreated, hdestroyed⟩ := hlive m' (List.mem_cons_of_mem _ hm')
      have hne : m' ≠ m := fun hsame => hm (hsame ▸ hm')
      simp [hcreated, hdestroyed, hne]

/-- What the destruction of an endpoint does to the sets. -/
theorem mem_emptied {endpoint endpoint' : Endpoint} :
    other ∈ Function.update s.loanedMessages endpoint [] endpoint' ↔
      endpoint' ≠ endpoint ∧ other ∈ s.loanedMessages endpoint' := by
  by_cases hendpoint : endpoint' = endpoint
  · subst hendpoint
    simp
  · simp [hendpoint]

theorem State.Tidy.destroyEndpoint (h : s.Tidy) (endpoint : Endpoint) :
    (s.destroyEndpoint endpoint).Tidy := by
  rw [State.destroyEndpoint, foldl_destroyMessage]
  constructor
  · intro m hm m' hm' hpointer
    exact h.pointer_inj m (Finset.mem_filter.mp hm).1 m' (Finset.mem_filter.mp hm').1 hpointer
  · intro endpoint'
    dsimp only
    by_cases hendpoint : endpoint' = endpoint
    · subst hendpoint
      rw [Function.update_self]
      exact List.nodup_nil
    · rw [Function.update_of_ne hendpoint]
      exact h.nodup endpoint'
  · exact fun endpoint' m hm => h.endpoint endpoint' m (mem_emptied.mp hm).2
  · intro endpoint' hgone
    dsimp only at hgone ⊢
    by_cases hendpoint : endpoint' = endpoint
    · subst hendpoint
      rw [Function.update_self]
    · rw [Function.update_of_ne hendpoint] at hgone ⊢
      exact h.gone endpoint' hgone

/-- An endpoint is destroyed with what is in its set. -/
theorem State.Sound.destroyEndpoint (h : s.Sound) {endpoint : Endpoint}
    (hunused : ∀ c call, s.calls c = some call → call.message.endpoint ≠ endpoint) :
    (s.destroyEndpoint endpoint).Sound := by
  have hunheld : ∀ m, m.endpoint = endpoint → ∀ c, ¬ s.Holds c m := by
    rintro m hm c ⟨call, hcall, rfl⟩
    exact hunused c call hcall hm
  refine ⟨?_, h.tidy.destroyEndpoint endpoint, ?_⟩
  · rw [State.destroyEndpoint, foldl_destroyMessage]
    refine obeys_destroyed h.obeys (h.tidy.nodup endpoint) ?_
    intro m hm
    have hlive := ((h.account m).loaned (h.tidy.endpoint _ m hm ▸ hm)).1
    exact (h.account m).live_iff.mp hlive
  · intro m
    have haccount := h.account m
    rw [State.destroyEndpoint, foldl_destroyMessage]
    have hlive : m ∈ s.live.filter (· ∉ s.loanedMessages endpoint) ↔
        m ∈ s.live ∧ m ∉ s.loanedMessages endpoint := Finset.mem_filter
    by_cases hendpoint : m.endpoint = endpoint
    · subst hendpoint
      constructor
      · simpa using haccount.numbered
      · simpa [and_assoc] using and_congr_left fun _ => haccount.live_iff
      · exact fun hloaned => absurd rfl (mem_emptied.mp hloaned).1
      · exact fun _ => .inr (.inr (Function.update_self ..))
      · intro hmem
        obtain ⟨hold, hunloaned⟩ := hlive.mp hmem
        obtain hloaned | ⟨c, hc⟩ := haccount.owned hold
        · exact absurd hloaned hunloaned
        · exact absurd hc (hunheld m rfl c)
      · exact fun c call hcall hmessage => absurd ⟨call, hcall, hmessage⟩ (hunheld m rfl c)
    · have hunloaned : m ∉ s.loanedMessages endpoint := fun hloaned =>
        hendpoint (h.tidy.endpoint _ m hloaned)
      have hset : Function.update s.loanedMessages endpoint [] m.endpoint =
          s.loanedMessages m.endpoint := Function.update_of_ne hendpoint _ _
      have hgone : Function.update s.gone endpoint true m.endpoint = s.gone m.endpoint :=
        Function.update_of_ne hendpoint _ _
      constructor
      · simpa using haccount.numbered
      · simpa [hunloaned] using haccount.live_iff
      · simpa [hset, hunloaned, State.Holds] using haccount.loaned
      · simpa [hset, hgone] using haccount.handed
      · simpa [hset, hunloaned, State.Holds] using haccount.owned
      · intro c call hcall hmessage
        obtain ⟨hheld, hregistered, hunhanded, hpresent, hunique⟩ :=
          haccount.held c call hcall hmessage
        constructor
        · exact hlive.mpr ⟨hheld, hunloaned⟩
        · simpa [hset] using hregistered
        · simpa using hunhanded
        · simpa [hgone] using hpresent
        · exact hunique

/-! ## Steps -/

/-- What a give-back or a publish names is not the message of a call that has recorded
it and has not handed it out. -/
def GivesBackHanded (s : State Endpoint Caller Pointer) : Action Endpoint Caller Pointer → Prop
  | .giveBack _ endpoint pointer | .publish _ endpoint pointer =>
      ∀ caller call, s.calls caller = some call → call.registered = true →
        call.message.endpoint = endpoint → call.message.pointer ≠ pointer
  | _ => True

theorem State.Sound.unheld (h : s.Sound) {endpoint : Endpoint} {pointer : Pointer}
    (hfree : ∀ c call, s.calls c = some call → call.registered = true →
      call.message.endpoint = endpoint → call.message.pointer ≠ pointer) :
    ∀ m ∈ s.loanedMessages endpoint, m.pointer = pointer → ∀ c, ¬ s.Holds c m := by
  rintro m hm hpointer c ⟨call, hcall, rfl⟩
  have hendpoint := h.tidy.endpoint _ _ hm
  have hregistered := (h.supports hcall).registered.mp (hendpoint ▸ hm)
  exact hfree c call hcall hregistered hendpoint hpointer

theorem Found.next_message (m : Message Endpoint Pointer) (withInfo : Bool) (found : Found) :
    (found.next m withInfo).message = m := by
  cases found with
  | noData | error => rfl
  | sample validData deserialized returned =>
      simp only [Found.next]
      split_ifs <;> rfl

theorem Found.next_registered (m : Message Endpoint Pointer) (withInfo : Bool) (found : Found) :
    (found.next m withInfo).registered = false := by
  cases found with
  | noData | error => rfl
  | sample validData deserialized returned =>
      simp only [Found.next]
      split_ifs <;> rfl

/-- Every message stays owned. -/
theorem State.Sound.step {publisher : Endpoint → Bool} (h : s.Sound)
    {a : Action Endpoint Caller Pointer} (hunused : DestroysUnused s a)
    (hhanded : GivesBackHanded s a) {s' : State Endpoint Caller Pointer}
    (hnext : next publisher s a = some s') : s'.Sound := by
  cases a with
  | borrow caller endpoint pointer =>
      simp only [next, Option.ite_none_right_eq_some, Bool.and_eq_true] at hnext
      exact h.create hnext.1.1 (fun _ => rfl) (fun _ => rfl) hnext.2
  | take caller endpoint withInfo pointer =>
      simp only [next, Option.ite_none_right_eq_some, Bool.and_eq_true] at hnext
      exact h.create hnext.1.1 (fun _ => rfl) (fun _ => rfl) hnext.2
  | find caller found =>
      simp only [next] at hnext
      split at hnext
      next m withInfo hcall =>
        cases hnext
        have hmessage := found.next_message m withInfo
        have hregistered := found.next_registered m withInfo
        split
        · exact (h.use hcall).move hcall hmessage hregistered (fun _ => rfl)
        · exact h.move hcall hmessage hregistered (fun _ => rfl)
      next => cases hnext
  | record caller inserted =>
      simp only [next] at hnext
      split at hnext
      next m withInfo hcall =>
        split at hnext
        · cases hnext
          refine h.record hcall rfl rfl ?_ ?_
          · cases withInfo <;> rfl
          · cases withInfo <;> rfl
        · cases hnext
          exact h.move hcall rfl rfl nofun
      next => cases hnext
  | resolve caller resolved =>
      simp only [next] at hnext
      split at hnext
      next m hcall =>
        cases hnext
        cases resolved with
        | true => exact h.move hcall rfl rfl (fun _ => rfl)
        | false => exact h.move hcall rfl rfl (fun _ => rfl)
      next => cases hnext
  | withdraw caller =>
      simp only [next] at hnext
      split at hnext
      next m hcall =>
        cases hnext
        exact h.withdraw hcall rfl rfl rfl rfl rfl
      next => cases hnext
  | hand caller =>
      simp only [next] at hnext
      split at hnext
      next m hcall =>
        cases hnext
        exact h.hand hcall rfl rfl .ok
      next => cases hnext
  | giveBack caller endpoint pointer =>
      simp only [next, Option.ite_none_right_eq_some, Option.some.injEq] at hnext
      obtain ⟨hidle, rfl⟩ := hnext
      exact h.takeOut hidle (h.unheld hhanded) (fun _ => rfl) (fun _ => rfl) (fun _ => rfl)
  | publish caller endpoint pointer =>
      simp only [next, Option.ite_none_right_eq_some, Option.some.injEq, Bool.and_eq_true] at hnext
      obtain ⟨⟨hidle, -⟩, rfl⟩ := hnext
      exact h.takeOut hidle (h.unheld hhanded) (fun _ => rfl) (fun _ => rfl) (fun _ => rfl)
  | write caller opened ret =>
      simp only [next] at hnext
      split at hnext
      next m hcall =>
        cases hnext
        split
        · exact (h.use hcall).move hcall rfl rfl nofun
        · exact h.move hcall rfl rfl nofun
      next => cases hnext
  | drop caller =>
      simp only [next] at hnext
      split at hnext
      next m ret hcall =>
        cases hnext
        exact h.drop hcall rfl ret
      next => cases hnext
  | destroy endpoint =>
      simp only [next, Option.ite_none_left_eq_some, Option.some.injEq] at hnext
      obtain ⟨-, rfl⟩ := hnext
      exact h.destroyEndpoint hunused

theorem State.Sound.start : (State.start : State Endpoint Caller Pointer).Sound where
  obeys := obeys_nil Allowed
  tidy := ⟨nofun, fun _ => List.nodup_nil, nofun, fun _ _ => rfl⟩
  account _ := by
    constructor
    · exact nofun
    · simp [State.start]
    · exact nofun
    · exact nofun
    · exact nofun
    · exact nofun

/-- The runs in which every give-back and every publish names what was handed out. -/
theorem sound_of_reachable {publisher : Endpoint → Bool}
    (hs : ((system publisher).restrict GivesBackHanded).Reachable s) : s.Sound := by
  refine hs.invariant ?_ ?_
  · rintro _ rfl
    exact .start
  · intro s a s' h hstep
    exact h.step hstep.2.1 hstep.1 hstep.2.2

theorem reachable_next {publisher : Endpoint → Bool} {s' : State Endpoint Caller Pointer}
    (hs : ((system publisher).restrict GivesBackHanded).Reachable s)
    (a : Action Endpoint Caller Pointer) (hhanded : GivesBackHanded s a)
    (hunused : DestroysUnused s a) (hnext : next publisher s a = some s') :
    ((system publisher).restrict GivesBackHanded).Reachable s' :=
  hs.step ⟨hhanded, hunused, hnext⟩

/-! ## The contract -/

/-- The user has the message. -/
def State.OnLoan (s : State Endpoint Caller Pointer) (message : Message Endpoint Pointer) : Prop :=
  .handed message ∈ s.log ∧ .givenBack message ∉ s.log

/-- What the calls on loaned messages promise. -/
structure State.Contract (s : State Endpoint Caller Pointer) : Prop where
  /-- A message is destroyed once and not used after that, and given back once after it
  was handed out. -/
  history : Obeys Allowed s.log
  destroyed : ∀ m, .created m ∈ s.log → s.gone m.endpoint = true → .destroyed m ∈ s.log
  /-- What is in the set beside the loans belongs to the calls in progress. -/
  loaned : ∀ endpoint m, s.gone endpoint = false → (m ∈ s.loanedMessages endpoint ↔
    m.endpoint = endpoint ∧ (s.OnLoan m ∨
      ∃ caller call, s.calls caller = some call ∧ call.message = m ∧ call.registered = true))

theorem State.Sound.contract (h : s.Sound) : s.Contract where
  history := h.obeys
  destroyed := by
    intro m hcreated hgone
    by_contra hundestroyed
    have haccount := h.account m
    obtain hloaned | ⟨caller, call, hcall, rfl⟩ :=
      haccount.owned (haccount.live_iff.mpr ⟨hcreated, hundestroyed⟩)
    · rw [h.tidy.gone _ hgone] at hloaned
      cases hloaned
    · exact Bool.false_ne_true ((h.supports hcall).present.symm.trans hgone)
  loaned := by
    intro endpoint m hpresent
    constructor
    · intro hloaned
      have hendpoint := h.tidy.endpoint _ m hloaned
      subst hendpoint
      obtain ⟨-, hkept, hhanded | ⟨caller, call, hcall, rfl⟩⟩ := (h.account m).loaned hloaned
      · exact ⟨rfl, .inl ⟨hhanded, hkept⟩⟩
      · exact ⟨rfl, .inr ⟨caller, call, hcall, rfl, (h.supports hcall).registered.mp hloaned⟩⟩
    · rintro ⟨rfl, ⟨hhanded, hkept⟩ | ⟨caller, call, hcall, rfl, hregistered⟩⟩
      · obtain hgiven | hloaned | hgone := (h.account m).handed hhanded
        · exact absurd hgiven hkept
        · exact hloaned
        · exact absurd (hpresent.symm.trans hgone) Bool.false_ne_true
      · exact (h.supports hcall).registered.mpr hregistered

/-- Without a loan at the pointer a give-back or a publish is refused. -/
theorem State.Sound.refused (h : s.Sound) {endpoint : Endpoint} {pointer : Pointer}
    (hidle : s.idle caller endpoint = true)
    (hfree : ∀ c call, s.calls c = some call → call.registered = true →
      call.message.endpoint = endpoint → call.message.pointer ≠ pointer)
    (hunloaned : ∀ m, m.endpoint = endpoint → m.pointer = pointer → ¬ s.OnLoan m)
    (call : Message Endpoint Pointer → Call Endpoint Pointer) :
    s.takeOut caller endpoint pointer call =
      { s with results := s.results ++ [(caller, .error)] } := by
  simp only [State.idle, Bool.and_eq_true, Option.isNone_iff_eq_none, Bool.not_eq_true'] at hidle
  obtain ⟨hnone, hpresent⟩ := hidle
  have hfound : s.loaned endpoint pointer = none := by
    refine Loan.loaned_eq_none.mpr ?_
    intro m hm hpointer
    obtain ⟨hendpoint, honLoan | ⟨c, call', hcall, rfl, hregistered⟩⟩ :=
      (h.contract.loaned endpoint m hpresent).mp hm
    · exact hunloaned m hendpoint hpointer honLoan
    · exact hfree c call' hcall hregistered hendpoint hpointer
  have hcalls : Function.update s.calls caller none = s.calls := by
    rw [← hnone]
    exact Function.update_eq_self caller s.calls
  rw [State.takeOut, hfound]
  show s.finish caller .error = _
  rw [State.finish, hcalls]

/-- Taking out the message of a call gives back what was not handed out. -/
theorem State.Sound.takeOut_broken (h : s.Sound) {call' : Call Endpoint Pointer} {other : Caller}
    (hcall : s.calls other = some call') (hregistered : call'.registered = true)
    (call : Message Endpoint Pointer → Call Endpoint Pointer) :
    ¬ (s.takeOut caller call'.message.endpoint call'.message.pointer call).Contract := by
  have hsupports := h.supports hcall
  have hloaned := hsupports.registered.mpr hregistered
  have hfresh : call'.fresh = true := by
    cases call' with
    | resolving | withdrawing | handing => rfl
    | taking | recording | publishing | dropping => cases hregistered
  intro hcontract
  cases hfound : s.loaned call'.message.endpoint call'.message.pointer with
  | none => exact Loan.loaned_eq_none.mp hfound _ hloaned rfl
  | some m =>
      obtain ⟨hm, hpointer⟩ := loaned_eq_some hfound
      have hlive := ((h.account m).loaned (h.tidy.endpoint _ m hm ▸ hm)).1
      obtain rfl := h.tidy.pointer_inj m hlive _ hsupports.live hpointer
      have hhistory := hcontract.history
      rw [State.takeOut, hfound] at hhistory
      exact hsupports.unhanded hfresh ((obeys_concat _ _ _).mp hhistory).2.1

/-- In every run whose give-backs and publishes name no message that a call has still to
hand out, the contract holds, and what is not on loan is refused.  Any other give-back or
publish breaks the contract. -/
theorem loans_owned {publisher : Endpoint → Bool} {s : State Endpoint Caller Pointer}
    (hs : ((system publisher).restrict GivesBackHanded).Reachable s) :
    s.Contract ∧
    (∀ caller endpoint pointer a s', a = .giveBack caller endpoint pointer ∨
        a = .publish caller endpoint pointer →
      (∀ m, m.endpoint = endpoint → m.pointer = pointer → ¬ s.OnLoan m) →
      ((system publisher).restrict GivesBackHanded).step s a s' →
        s' = { s with results := s.results ++ [(caller, .error)] }) ∧
    ∀ a s', (system publisher).step s a s' → ¬ GivesBackHanded s a → ¬ s'.Contract := by
  have hsound := sound_of_reachable hs
  refine ⟨hsound.contract, ?_, ?_⟩
  · rintro caller endpoint pointer a s' ha hunloaned ⟨hhanded, -, hnext⟩
    obtain rfl | rfl := ha
    · simp only [System.ofNext, next, Option.ite_none_right_eq_some, Option.some.injEq] at hnext
      obtain ⟨hidle, rfl⟩ := hnext
      exact hsound.refused hidle hhanded hunloaned _
    · simp only [System.ofNext, next, Option.ite_none_right_eq_some, Option.some.injEq,
        Bool.and_eq_true] at hnext
      obtain ⟨⟨hidle, -⟩, rfl⟩ := hnext
      exact hsound.refused hidle hhanded hunloaned _
  · rintro a s' ⟨-, hnext⟩ hbroken
    cases a with
    | giveBack caller endpoint pointer =>
        simp only [System.ofNext, next, Option.ite_none_right_eq_some, Option.some.injEq] at hnext
        obtain ⟨hidle, rfl⟩ := hnext
        simp only [GivesBackHanded, not_forall, not_not] at hbroken
        obtain ⟨other, call, hcall, hregistered, rfl, rfl⟩ := hbroken
        exact hsound.takeOut_broken hcall hregistered _
    | publish caller endpoint pointer =>
        simp only [System.ofNext, next, Option.ite_none_right_eq_some, Option.some.injEq,
          Bool.and_eq_true] at hnext
        obtain ⟨-, rfl⟩ := hnext
        simp only [GivesBackHanded, not_forall, not_not] at hbroken
        obtain ⟨other, call, hcall, hregistered, rfl, rfl⟩ := hbroken
        exact hsound.takeOut_broken hcall hregistered _
    | borrow | take | find | record | resolve | withdraw | hand | write | drop | destroy =>
        exact absurd trivial hbroken

end

/-! ## Runs -/

/-- One endpoint, two callers, and one address for all messages. -/
abbrev Single : Type := State Unit Bool Unit

/-- A message is published as soon as it is lent, and the publisher is destroyed. -/
theorem published_loan_owned :
    ∃ s : Single, s.Contract ∧ s.results = [(true, .ok), (false, .ok)] ∧
      s.log = [.created ⟨(), (), 0⟩, .handed ⟨(), (), 0⟩, .givenBack ⟨(), (), 0⟩,
        .used ⟨(), (), 0⟩, .destroyed ⟨(), (), 0⟩] := by
  have hstart : ((system fun _ => true).restrict GivesBackHanded).Reachable (.start : Single) :=
    .init rfl
  have hborrowed := reachable_next hstart
    (.borrow true () (some ())) trivial trivial rfl
  have hrecorded := reachable_next hborrowed (.record true true) trivial trivial rfl
  have hhanded := reachable_next hrecorded (.hand true) trivial trivial rfl
  have hpublishing := reachable_next hhanded (.publish false () ())
    (fun c _ hcall => by cases c <;> cases hcall) trivial rfl
  have hwritten := reachable_next hpublishing (.write false true .ok) trivial trivial rfl
  have hdropped := reachable_next hwritten (.drop false) trivial trivial rfl
  have hdestroyed := reachable_next hdropped (.destroy ()) trivial
    (fun c _ hcall => by cases c <;> cases hcall) rfl
  exact ⟨_, (loans_owned hdestroyed).1, rfl, rfl⟩

/-- A second give-back that finds the message of a take at the address takes it out, and
the take destroys it too. -/
theorem loan_destroyed_twice :
    ¬ ∀ s : Single, (system fun _ => false).Reachable s → s.Contract := by
  intro h
  let as : List (Action Unit Bool Unit) :=
    [.take true () true (some ()), .find true (.sample true (some true) true), .record true true,
      .giveBack false () (), .resolve true false, .withdraw true, .drop true, .drop false]
  have hexec : ∃ s, exec (next fun _ => false) (State.start : Single) as = some s ∧
      s.log = [.created ⟨(), (), 0⟩, .used ⟨(), (), 0⟩, .givenBack ⟨(), (), 0⟩,
        .destroyed ⟨(), (), 0⟩] ++ [.destroyed ⟨(), (), 0⟩] := ⟨_, rfl, rfl⟩
  obtain ⟨s, hexec, hlog⟩ := hexec
  have hreach := reachable_restrict_of_exec (P := DestroysUnused) (.init rfl) hexec (by
    simp [as, DestroysUnused])
  have hhistory := (h s hreach).history
  rw [hlog] at hhistory
  exact ((obeys_concat _ _ _).mp hhistory).2.2 (by decide)

end RmwZzdds.DataPlane.Loan
