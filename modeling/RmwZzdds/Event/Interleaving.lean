import RmwZzdds.Library.Transition
import RmwZzdds.Event.Endpoint

/-!
# Interleavings of one endpoint's event calls

The threads of a process call into one endpoint in any order.  A step here is
one critical section under `event_mutex`, one call of zzdds outside it, or one
call of a callback.  `Endpoint.next` gives the state after a step, and `none`
when the step is not possible.

*Initializations.*  A call of `initialize_event` that accepts its arguments
goes through four steps: `beginInit`, `computeMask`, `install`, `finishInit`.
A call that fails on the way returns at once.

*Callbacks.*  A callback read under the mutex is called after the unlock, so it
stands in `inflight` until its `call` step.  `rmw_event_set_callback` stores the
callback, tells it about unreported events, calls it, and returns.

*Histories.*  `initialized`, `initFailed`, `taken` and `told` record what
happened.  No critical section reads them.
-/

namespace RmwZzdds.Event

/-! ## States -/

/-- A call in progress. -/
abbrev CallId := Nat

/-- Where an initialization is: its last completed step. -/
inductive InitStage where
  | guardCreated
  | maskComputed (mask : StatusMask)
  | installed
deriving DecidableEq

/-- Where a call of `rmw_event_set_callback` is. -/
inductive SetStage where
  | stored
  | told
deriving DecidableEq

/-- A callback read and not yet called.  Calls made by `rmw_event_set_callback`
have that call as their owner. -/
structure InFlight where
  type : EventType
  owner : Option CallId
  notification : Notification
deriving DecidableEq

/-- An endpoint with the calls in progress on it. -/
structure Endpoint where
  kind : EndpointKind
  slots : Slots
  /-- The mask of the listener installed in zzdds. -/
  installed : StatusMask
  inits : CallId → Option (EventType × InitStage)
  sets : CallId → Option (EventType × SetStage)
  inflight : List InFlight
  /-- Some initialization of the type has returned `RMW_RET_OK`. -/
  initialized : EventType → Bool
  /-- Some initialization has returned anything else. -/
  initFailed : Bool
  /-- The sum of the change fields of all successful takes. -/
  taken : EventType → ℤ × ℤ
  /-- The events told to callbacks since the last take. -/
  told : EventType → Nat

/-- An endpoint right after its creation. -/
def Endpoint.create (kind : EndpointKind) : Endpoint where
  kind := kind
  slots := Slots.create
  installed := ∅
  inits _ := none
  sets _ := none
  inflight := []
  initialized _ := false
  initFailed := false
  taken _ := 0
  told _ := 0

/-! ## Steps -/

/-- The steps of the threads.  `got` is what the zzdds status getter returned. -/
inductive Action where
  | listener (type : EventType) (status : Status type.kind) (got : Option (Status type.kind))
  | takeEvent (type : EventType) (got : Option (Status type.kind))
  | countMatched (type : EventType) (got : Option (Status type.kind))
  | beginInit (id : CallId) (type : EventType) (created : Bool)
  | computeMask (id : CallId)
  | install (id : CallId) (ok : Bool)
  | finishInit (id : CallId) (type : EventType) (got : Option (Status type.kind))
  | setCallback (id : CallId) (type : EventType) (callback : Option Callback)
      (userData : UserData)
  | afterSetCallback (id : CallId)
  | returnSetCallback (id : CallId)
  | call (index : Nat)

/-- A property of the getter's result, in a step that reads a status. -/
def Action.Reads (P : (type : EventType) → Option (Status type.kind) → Prop) : Action → Prop
  | .listener type _ got => P type got
  | .takeEvent type got => P type got
  | .countMatched type got => P type got
  | .finishInit _ type got => P type got
  | _ => True

instance (P : (type : EventType) → Option (Status type.kind) → Prop)
    [∀ type got, Decidable (P type got)] : (a : Action) → Decidable (a.Reads P)
  | .listener type _ got => inferInstanceAs (Decidable (P type got))
  | .takeEvent type got => inferInstanceAs (Decidable (P type got))
  | .countMatched type got => inferInstanceAs (Decidable (P type got))
  | .finishInit _ type got => inferInstanceAs (Decidable (P type got))
  | .beginInit .. | .computeMask .. | .install .. | .setCallback .. | .afterSetCallback .. |
    .returnSetCallback .. | .call .. => inferInstanceAs (Decidable True)

/-- The event type whose status a step reads. -/
def Action.reader : Action → Option EventType
  | .listener type _ _ => some type
  | .takeEvent type _ => some type
  | .countMatched type _ => some type
  | .finishInit _ type _ => some type
  | _ => none

/-- The step is a take of the type whose getter succeeded. -/
def Action.takes (type : EventType) : Action → Bool
  | .takeEvent type' (some _) => type' = type
  | _ => false

theorem Action.takes_of_reader {type : EventType} {a : Action} (h : a.reader ≠ some type) :
    a.takes type = false := by
  cases a with
  | takeEvent type' got =>
      cases got with
      | none => rfl
      | some now =>
          refine decide_eq_false ?_
          rintro rfl
          exact h rfl
  | _ => rfl

namespace Endpoint

/-- The endpoint with a new slot for one type. -/
def withSlot (s : Endpoint) (type : EventType) (slot : EventSlot type.kind) : Endpoint :=
  { s with slots := Function.update s.slots type slot }

/-- The endpoint with a callback to be called. -/
def tell (s : Endpoint) (type : EventType) (owner : Option CallId) :
    Option Notification → Endpoint
  | none => s
  | some n =>
      { s with
        inflight := s.inflight ++ [⟨type, owner, n⟩]
        told := Function.update s.told type (s.told type + n.added) }

/-- The endpoint after a take with its output. -/
def recordTake (s : Endpoint) (type : EventType) : Option EventInfo → Endpoint
  | none => s
  | some info =>
      { s with
        taken := Function.update s.taken type (s.taken type + info.changes)
        told := Function.update s.told type 0 }

/-- The state after a step, if the step is possible. -/
def next (s : Endpoint) : Action → Option Endpoint
  | .listener type status got =>
      -- zzdds calls listeners of installed statuses only, so their guard exists
      if s.kind.supports type ∧ (s.slots type).guard ≠ none then
        let (slot, n) := (s.slots type).listener status got
        some ((s.withSlot type slot).tell type none n)
      else none
  | .takeEvent type got =>
      if s.initialized type then
        let (slot, info) := (s.slots type).takeEvent type got
        some ((s.withSlot type slot).recordTake type info)
      else none
  | .countMatched type got =>
      if type = s.kind.matchedType then
        let (slot, _, n) := (s.slots type).readMatchedCount got
        some ((s.withSlot type slot).tell type none n)
      else none
  | .beginInit id type created =>
      if s.kind.supports type ∧ s.inits id = none then
        match (s.slots type).createGuard created with
        | none => some { s with initFailed := true }
        | some slot =>
            some { s.withSlot type slot with
              inits := Function.update s.inits id (some (type, .guardCreated)) }
      else none
  | .computeMask id =>
      match s.inits id with
      | some (type, .guardCreated) =>
          let mask := listenerMask s.kind s.slots
          some { s with inits := Function.update s.inits id (some (type, .maskComputed mask)) }
      | _ => none
  | .install id ok =>
      match s.inits id with
      | some (type, .maskComputed mask) =>
          if ok then
            some { s with
              installed := mask
              inits := Function.update s.inits id (some (type, .installed)) }
          else some { s with inits := Function.update s.inits id none, initFailed := true }
      | _ => none
  | .finishInit id type got =>
      if s.inits id = some (type, .installed) then
        some { s.withSlot type ((s.slots type).finishInitialize got) with
          inits := Function.update s.inits id none
          initialized := Function.update s.initialized type true }
      else none
  | .setCallback id type callback userData =>
      if s.initialized type ∧ s.sets id = none then
        some { s.withSlot type ((s.slots type).setCallback callback userData) with
          sets := Function.update s.sets id (some (type, .stored)) }
      else none
  | .afterSetCallback id =>
      match s.sets id with
      | some (type, .stored) =>
          let (slot, n) := (s.slots type).afterSetCallback
          some ({ s.withSlot type slot with
            sets := Function.update s.sets id (some (type, .told)) }.tell type (some id) n)
      | _ => none
  | .returnSetCallback id =>
      match s.sets id with
      | some (_, .told) =>
          if s.inflight.any (fun c => c.owner = some id) then none
          else some { s with sets := Function.update s.sets id none }
      | _ => none
  | .call index =>
      if index < s.inflight.length then some { s with inflight := s.inflight.eraseIdx index }
      else none

/-- The runs of an endpoint from its creation. -/
def system (kind : EndpointKind) : Transition.System Endpoint Action :=
  Transition.System.ofNext (create kind) next

/-! ## What a step does to one event type

A step works on the slot of one type and leaves the others alone.  `SlotStep`
lists what it does to the slot of a given type and to that type's histories. -/

@[simp] theorem withSlot_slots_self (s : Endpoint) (type : EventType)
    (slot : EventSlot type.kind) : (s.withSlot type slot).slots type = slot :=
  Function.update_self ..

theorem withSlot_slots_of_ne (s : Endpoint) {type type' : EventType} (hne : type ≠ type')
    (slot : EventSlot type'.kind) : (s.withSlot type' slot).slots type = s.slots type :=
  Function.update_of_ne hne ..

@[simp] theorem tell_slots (s : Endpoint) (type : EventType) (owner : Option CallId)
    (n : Option Notification) : (s.tell type owner n).slots = s.slots := by
  cases n <;> rfl

@[simp] theorem tell_taken (s : Endpoint) (type : EventType) (owner : Option CallId)
    (n : Option Notification) : (s.tell type owner n).taken = s.taken := by
  cases n <;> rfl

@[simp] theorem tell_initialized (s : Endpoint) (type : EventType) (owner : Option CallId)
    (n : Option Notification) : (s.tell type owner n).initialized = s.initialized := by
  cases n <;> rfl

@[simp] theorem tell_sets (s : Endpoint) (type : EventType) (owner : Option CallId)
    (n : Option Notification) : (s.tell type owner n).sets = s.sets := by
  cases n <;> rfl

@[simp] theorem tell_inits (s : Endpoint) (type : EventType) (owner : Option CallId)
    (n : Option Notification) : (s.tell type owner n).inits = s.inits := by
  cases n <;> rfl

@[simp] theorem tell_installed (s : Endpoint) (type : EventType) (owner : Option CallId)
    (n : Option Notification) : (s.tell type owner n).installed = s.installed := by
  cases n <;> rfl

@[simp] theorem tell_initFailed (s : Endpoint) (type : EventType) (owner : Option CallId)
    (n : Option Notification) : (s.tell type owner n).initFailed = s.initFailed := by
  cases n <;> rfl

@[simp] theorem tell_kind (s : Endpoint) (type : EventType) (owner : Option CallId)
    (n : Option Notification) : (s.tell type owner n).kind = s.kind := by
  cases n <;> rfl

@[simp] theorem tell_told_self (s : Endpoint) (type : EventType) (owner : Option CallId)
    (n : Option Notification) : (s.tell type owner n).told type = s.told type + events n := by
  cases n with
  | none => rfl
  | some n => simp [tell, events]

theorem tell_told_of_ne (s : Endpoint) {type type' : EventType} (hne : type ≠ type')
    (owner : Option CallId) (n : Option Notification) :
    (s.tell type' owner n).told type = s.told type := by
  cases n with
  | none => rfl
  | some n => simp [tell, Function.update_of_ne hne]

/-- What one step does to the slot of `type` and to its histories. -/
inductive SlotStep (type : EventType) (s : Endpoint) : Action → Endpoint → Prop where
  | idle {a : Action} {s' : Endpoint} : a.reader ≠ some type →
      s'.slots type = s.slots type → s'.taken type = s.taken type → s'.told type = s.told type →
      s'.initialized type = s.initialized type → SlotStep type s a s'
  | listener {status : Status type.kind} {got : Option (Status type.kind)} {s' : Endpoint} :
      (s.slots type).guard ≠ none →
      s'.slots type = ((s.slots type).listener status got).1 →
      s'.taken type = s.taken type →
      s'.told type = s.told type + events ((s.slots type).listener status got).2 →
      s'.initialized type = s.initialized type →
      SlotStep type s (.listener type status got) s'
  | countMatched {got : Option (Status type.kind)} {s' : Endpoint} :
      type = s.kind.matchedType →
      s'.slots type = ((s.slots type).readMatchedCount got).1 →
      s'.taken type = s.taken type →
      s'.told type = s.told type + events ((s.slots type).readMatchedCount got).2.2 →
      s'.initialized type = s.initialized type →
      SlotStep type s (.countMatched type got) s'
  | takeFailed {got : Option (Status type.kind)} {s' : Endpoint} :
      s.initialized type = true → ((s.slots type).takeEvent type got).2 = none →
      s'.slots type = ((s.slots type).takeEvent type got).1 →
      s'.taken type = s.taken type → s'.told type = s.told type →
      s'.initialized type = s.initialized type →
      SlotStep type s (.takeEvent type got) s'
  | take {got : Option (Status type.kind)} {info : EventInfo} {s' : Endpoint} :
      s.initialized type = true → ((s.slots type).takeEvent type got).2 = some info →
      s'.slots type = ((s.slots type).takeEvent type got).1 →
      s'.taken type = s.taken type + info.changes → s'.told type = 0 →
      s'.initialized type = s.initialized type →
      SlotStep type s (.takeEvent type got) s'
  | createGuard {id : CallId} {created : Bool} {slot : EventSlot type.kind} {s' : Endpoint} :
      (s.slots type).createGuard created = some slot → s'.slots type = slot →
      s'.taken type = s.taken type → s'.told type = s.told type →
      s'.initialized type = s.initialized type →
      SlotStep type s (.beginInit id type created) s'
  | finishInit {id : CallId} {got : Option (Status type.kind)} {s' : Endpoint} :
      s.inits id = some (type, .installed) →
      s'.slots type = (s.slots type).finishInitialize got →
      s'.taken type = s.taken type → s'.told type = s.told type →
      s'.initialized type = true →
      SlotStep type s (.finishInit id type got) s'
  | setCallback {id : CallId} {callback : Option Callback} {userData : UserData}
      {s' : Endpoint} :
      s'.slots type = (s.slots type).setCallback callback userData →
      s'.taken type = s.taken type → s'.told type = s.told type →
      s'.initialized type = s.initialized type →
      SlotStep type s (.setCallback id type callback userData) s'
  | afterSetCallback {id : CallId} {s' : Endpoint} :
      s.sets id = some (type, .stored) →
      s'.slots type = (s.slots type).afterSetCallback.1 →
      s'.taken type = s.taken type →
      s'.told type = s.told type + events (s.slots type).afterSetCallback.2 →
      s'.initialized type = s.initialized type →
      SlotStep type s (.afterSetCallback id) s'

/-- Every step of the endpoint is one of the slot steps, for every type. -/
theorem slotStep_of_next (type : EventType) {s s' : Endpoint} {a : Action}
    (h : s.next a = some s') : SlotStep type s a s' := by
  cases a with
  | listener type' status got =>
      simp only [next, Option.ite_none_right_eq_some, Option.some.injEq] at h
      obtain ⟨⟨-, hguard⟩, rfl⟩ := h
      by_cases hne : type = type'
      · subst hne
        exact .listener hguard (by simp) (by simp [withSlot]) (by simp [withSlot])
          (by simp [withSlot])
      · exact .idle (by simp [Action.reader, Ne.symm hne]) (by simp [withSlot_slots_of_ne _ hne]) (by simp [withSlot])
          (by rw [tell_told_of_ne _ hne]; rfl) (by simp [withSlot])
  | takeEvent type' got =>
      simp only [next, Option.ite_none_right_eq_some, Option.some.injEq] at h
      obtain ⟨hinit, rfl⟩ := h
      by_cases hne : type = type'
      · subst hne
        cases hinfo : ((s.slots type).takeEvent type got).2 with
        | none =>
            exact .takeFailed hinit hinfo (by simp [recordTake]) rfl rfl rfl
        | some info =>
            exact .take hinit hinfo (by simp [recordTake, withSlot])
              (by simp [recordTake, withSlot]) (by simp [recordTake]) rfl
      · have hreader : (Action.takeEvent type' got).reader ≠ some type := by
          simp [Action.reader, Ne.symm hne]
        cases hinfo : ((s.slots type').takeEvent type' got).2 with
        | none => exact .idle hreader (withSlot_slots_of_ne _ hne _) rfl rfl rfl
        | some info =>
            exact .idle hreader (withSlot_slots_of_ne _ hne _)
              (by simp [recordTake, withSlot, Function.update_of_ne hne])
              (by simp [recordTake, withSlot, Function.update_of_ne hne]) rfl
  | countMatched type' got =>
      simp only [next, Option.ite_none_right_eq_some, Option.some.injEq] at h
      obtain ⟨hkind, rfl⟩ := h
      by_cases hne : type = type'
      · subst hne
        exact .countMatched hkind (by simp) (by simp [withSlot]) (by simp [withSlot])
          (by simp [withSlot])
      · exact .idle (by simp [Action.reader, Ne.symm hne]) (by simp [withSlot_slots_of_ne _ hne]) (by simp [withSlot])
          (by rw [tell_told_of_ne _ hne]; rfl) (by simp [withSlot])
  | beginInit id type' created =>
      simp only [next, Option.ite_none_right_eq_some] at h
      obtain ⟨-, h⟩ := h
      cases hslot : (s.slots type').createGuard created with
      | none =>
          rw [hslot] at h
          cases h
          exact .idle nofun rfl rfl rfl rfl
      | some slot =>
          rw [hslot] at h
          cases h
          by_cases hne : type = type'
          · subst hne
            exact .createGuard hslot (withSlot_slots_self ..) rfl rfl rfl
          · exact .idle nofun (withSlot_slots_of_ne _ hne _) rfl rfl rfl
  | computeMask id =>
      simp only [next] at h
      split at h
      · cases h
        exact .idle nofun rfl rfl rfl rfl
      · cases h
  | install id ok =>
      simp only [next] at h
      split at h
      · split at h <;> cases h <;> exact .idle nofun rfl rfl rfl rfl
      · cases h
  | finishInit id type' got =>
      simp only [next, Option.ite_none_right_eq_some, Option.some.injEq] at h
      obtain ⟨hid, rfl⟩ := h
      by_cases hne : type = type'
      · subst hne
        exact .finishInit hid (withSlot_slots_self ..) rfl rfl (Function.update_self ..)
      · exact .idle (by simp [Action.reader, Ne.symm hne]) (withSlot_slots_of_ne _ hne _) rfl rfl (Function.update_of_ne hne ..)
  | setCallback id type' callback userData =>
      simp only [next, Option.ite_none_right_eq_some, Option.some.injEq] at h
      obtain ⟨-, rfl⟩ := h
      by_cases hne : type = type'
      · subst hne
        exact .setCallback (withSlot_slots_self ..) rfl rfl rfl
      · exact .idle nofun (withSlot_slots_of_ne _ hne _) rfl rfl rfl
  | afterSetCallback id =>
      simp only [next] at h
      split at h
      next type' hid =>
        cases h
        by_cases hne : type = type'
        · subst hne
          exact .afterSetCallback hid (by simp [withSlot]) (by simp [withSlot])
            (by simp [withSlot]) (by simp [withSlot])
        · exact .idle nofun (by simp [withSlot, Function.update_of_ne hne]) (by simp [withSlot])
            (by rw [tell_told_of_ne _ hne]; rfl) (by simp [withSlot])
      next => cases h
  | returnSetCallback id =>
      simp only [next] at h
      split at h
      · split at h <;> cases h
        exact .idle nofun rfl rfl rfl rfl
      · cases h
  | call index =>
      simp only [next, Option.ite_none_right_eq_some, Option.some.injEq] at h
      obtain ⟨-, rfl⟩ := h
      exact .idle nofun rfl rfl rfl rfl

end Endpoint

end RmwZzdds.Event
