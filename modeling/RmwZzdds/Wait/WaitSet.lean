import Mathlib.Algebra.GroupWithZero.Nat
import Mathlib.Data.List.ReduceOption
import RmwZzdds.Library.Table
import RmwZzdds.Library.Transition
import RmwZzdds.Return

/-!
# Waiting on a wait set

`rmw_wait` attaches the conditions of its arrays to the zzdds wait set, waits,
detaches them, and sets the entries that were not active to null.  A guard
condition that was active is reset on the way.

*Steps.*  A call of `rmw_wait` takes one step for each access of zzdds.  Other
threads trigger guard conditions at any time.  The calls on one wait set follow
each other.

*zzdds.*  A wait that succeeds returns the attached conditions that are
triggered then (`State.Returns`).  Conditions that are not guard conditions are
triggered as zzdds likes.
-/

namespace RmwZzdds.Wait

/-! ## Arguments -/

/-- The `DDS_Condition` of a guard condition, or of another entity. -/
inductive Condition (Guard Other : Type*) where
  | guard (guard : Guard)
  | other (other : Other)
deriving DecidableEq

/-- The arrays of `rmw_wait`, whose entries may be null.  A subscription, a
service, a client or an event is given by its condition. -/
structure Arrays (Guard Other : Type*) where
  subscriptions : List (Option Other)
  guardConditions : List (Option Guard)
  services : List (Option Other)
  clients : List (Option Other)
  events : List (Option Other)

/-- `rmw_time_t`. -/
structure RmwTime where
  sec : UInt64
  nsec : UInt64

/-- `DDS_Duration_t`. -/
inductive DdsDuration where
  | infinite
  | finite (sec : Int32) (nanosec : UInt32)

/-- `validate_array`. -/
def validateArray {α : Type*} (entries : List (Option α)) : Bool :=
  entries.all Option.isSome

/-- `contains`. -/
def contains {α : Type*} [DecidableEq α] (active : List α) (condition : α) : Bool :=
  active.any fun entry => entry == condition

theorem contains_iff {α : Type*} [DecidableEq α] {active : List α} {condition : α} :
    contains active condition = true ↔ condition ∈ active := by
  simp [contains]

/-- `to_dds_duration`. -/
def toDdsDuration : Option RmwTime → Option DdsDuration
  | none => some .infinite
  | some timeout =>
      let billion : UInt64 := 1000000000
      let extraSeconds := timeout.nsec / billion
      if timeout.sec > UInt64.ofNat (2 ^ 64 - 1) - extraSeconds then none
      else
        let seconds := timeout.sec + extraSeconds
        if seconds > UInt64.ofNat (2 ^ 31 - 1) then none
        else some (.finite seconds.toUInt32.toInt32 (timeout.nsec % billion).toUInt32)

variable {Guard Other : Type*}

namespace Arrays

/-- Every array passes `validate_array`. -/
def valid (arrays : Arrays Guard Other) : Bool :=
  validateArray arrays.subscriptions && validateArray arrays.guardConditions &&
    validateArray arrays.services && validateArray arrays.clients && validateArray arrays.events

/-- The number of conditions fits `size_t` and the capacity of the wait set. -/
def fits (arrays : Arrays Guard Other) (maxConditions : Nat) : Bool :=
  let counts := [arrays.subscriptions.length, arrays.guardConditions.length,
    arrays.services.length, arrays.clients.length, arrays.events.length]
  let conditionCount := counts.sum % 2 ^ 64
  !(counts.any (fun count => conditionCount < count) ||
    (maxConditions != 0 && conditionCount > maxConditions))

end Arrays

/-- The checks of `rmw_wait` before it attaches anything.  `reserved` says
whether the bookkeeping could be allocated. -/
def waitChecks (maxConditions : Nat) (arrays : Arrays Guard Other) (timeout : Option RmwTime)
    (reserved : Bool) : Option Ret :=
  if !arrays.valid then some .invalidArgument
  else if !arrays.fits maxConditions then some .invalidArgument
  else if (toDdsDuration timeout).isNone then some .invalidArgument
  else if !reserved then some .badAlloc
  else none

/-- A condition to attach, and whether it is an event's. -/
structure Attachment (Guard Other : Type*) where
  condition : Condition Guard Other
  event : Bool

/-- The conditions in the order `rmw_wait` attaches them. -/
def Arrays.attachments (arrays : Arrays Guard Other) : List (Attachment Guard Other) :=
  arrays.subscriptions.reduceOption.map (fun c => ⟨.other c, false⟩) ++
    arrays.guardConditions.reduceOption.map (fun g => ⟨.guard g, false⟩) ++
    arrays.services.reduceOption.map (fun c => ⟨.other c, false⟩) ++
    arrays.clients.reduceOption.map (fun c => ⟨.other c, false⟩) ++
    arrays.events.reduceOption.map (fun c => ⟨.other c, true⟩)

/-- How attaching a condition ends. -/
inductive AttachOutcome where
  | attached
  /-- `DDS_WaitSet_attach_condition` failed. -/
  | failed
  /-- The entity belongs to another context. -/
  | otherContext
deriving DecidableEq

/-- What `rmw_wait` returns if it cannot attach a condition. -/
def Attachment.refusal (attachment : Attachment Guard Other) : AttachOutcome → Option Ret
  | .attached => none
  | .failed => some (if attachment.event then .invalidArgument else .error)
  | .otherContext => some .invalidArgument

/-! ## Results -/

/-- What `DDS_WaitSet_wait` returns. -/
inductive WaitResult where
  | ok
  | timeout
  | error
deriving DecidableEq

/-- The entries of an array with the ones that were not active set to null. -/
def keepActive {α β : Type*} [DecidableEq β] (active : List β) (condition : α → β)
    (entries : List (Option α)) : List (Option α) :=
  entries.map fun entry => entry.filter fun x => contains active (condition x)

section

variable [DecidableEq Guard] [DecidableEq Other]

/-- The arrays as a wait leaves them that found `active`. -/
def Arrays.keep (arrays : Arrays Guard Other) (active : List (Condition Guard Other)) :
    Arrays Guard Other where
  subscriptions := keepActive active .other arrays.subscriptions
  guardConditions := keepActive active .guard arrays.guardConditions
  services := keepActive active .other arrays.services
  clients := keepActive active .other arrays.clients
  events := keepActive active .other arrays.events

/-- What a call of `rmw_wait` returned, and the arrays it left. -/
structure WaitReturn (Guard Other : Type*) where
  ret : Ret
  arrays : Arrays Guard Other

/-- What a call will return once the zzdds wait has returned. -/
def waitReturn (arrays : Arrays Guard Other) (active : List (Condition Guard Other)) :
    WaitResult → WaitReturn Guard Other
  | .ok => ⟨.ok, arrays.keep active⟩
  | .timeout => ⟨.timeout, arrays.keep active⟩
  | .error => ⟨.error, arrays⟩

end

/-! ## Calls -/

/-- Where a call of `rmw_wait` is. -/
inductive Stage (Guard Other : Type*) where
  | attaching (attached : List (Condition Guard Other)) (rest : List (Attachment Guard Other))
  /-- It detaches what it attached, because it gave up with a return code or
  because the zzdds wait has returned. -/
  | detaching (attached : List (Condition Guard Other))
      (woken : Except Ret (WaitResult × List (Condition Guard Other)))
  /-- It goes through the guard conditions. -/
  | visiting (result : WaitResult) (active : List (Condition Guard Other))
      (visited rest : List (Option Guard))
  | returned (value : WaitReturn Guard Other)

/-- A call of `rmw_wait`. -/
structure WaitCall (Guard Other : Type*) where
  arrays : Arrays Guard Other
  stage : Stage Guard Other

/-- The guard conditions, one wait set, and the calls of `rmw_wait` on it. -/
structure State (Guard Other : Type*) where
  maxConditions : Nat
  /-- The trigger values of the guard conditions. -/
  triggered : Guard → Bool
  /-- The conditions attached to the zzdds wait set. -/
  attached : List (Condition Guard Other)
  calls : Nat → Option (WaitCall Guard Other)
  nextCall : Nat
  /-- The call in progress. -/
  current : Option Nat

/-- The steps.  The flags and outcomes say how zzdds and the allocation went. -/
inductive Action (Guard Other : Type*) where
  | trigger (guard : Guard) (ok : Bool)
  | begin (arrays : Arrays Guard Other) (timeout : Option RmwTime) (reserved : Bool)
  | attach (call : Nat) (o : AttachOutcome)
  | wake (call : Nat) (result : WaitResult) (active : List (Condition Guard Other))
  | detach (call : Nat) (ok : Bool)
  | detached (call : Nat)
  | reset (call : Nat) (guard : Guard)
  | nullify (call : Nat)
  | finish (call : Nat)

namespace State

def start (maxConditions : Nat) : State Guard Other where
  maxConditions := maxConditions
  triggered _ := false
  attached := []
  calls _ := none
  nextCall := 0
  current := none

/-- The state with another entry for a call. -/
def withCall (s : State Guard Other) (call : Nat) (wait : WaitCall Guard Other) :
    State Guard Other :=
  { s with calls := Function.update s.calls call (some wait) }

/-- The state after a call has returned. -/
def returning (s : State Guard Other) (call : Nat) (arrays : Arrays Guard Other)
    (value : WaitReturn Guard Other) : State Guard Other :=
  { s.withCall call ⟨arrays, .returned value⟩ with current := none }

variable [DecidableEq Guard] [DecidableEq Other]

/-- `DDS_GuardCondition_set_trigger_value`. -/
def setTriggerValue (s : State Guard Other) (guard : Guard) (value : Bool) :
    State Guard Other :=
  { s with triggered := Function.update s.triggered guard value }

/-- What zzdds promises of a wait.  One that succeeds returns attached
conditions, and of the guard conditions just those that are triggered.  One
that times out returns none. -/
def Returns (s : State Guard Other) (active : List (Condition Guard Other)) :
    WaitResult → Prop
  | .ok => (∀ condition ∈ active, condition ∈ s.attached) ∧
      ∀ condition ∈ s.attached, match condition with
        | .guard guard => Condition.guard guard ∈ active ↔ s.triggered guard = true
        | .other _ => True
  | .timeout => active = []
  | .error => True

instance (s : State Guard Other) (active : List (Condition Guard Other)) (result : WaitResult) :
    Decidable (s.Returns active result) :=
  match result with
  | .ok =>
      have (condition : Condition Guard Other) : Decidable (match condition with
          | .guard guard => Condition.guard guard ∈ active ↔ s.triggered guard = true
          | .other _ => True) :=
        match condition with
        | .guard guard =>
            inferInstanceAs (Decidable (Condition.guard guard ∈ active ↔ s.triggered guard = true))
        | .other _ => inferInstanceAs (Decidable True)
      inferInstanceAs (Decidable (_ ∧ _))
  | .timeout => decidable_of_iff (active.isEmpty = true) List.isEmpty_iff
  | .error => inferInstanceAs (Decidable True)

/-- One step, if it can be taken. -/
def next (s : State Guard Other) : Action Guard Other → Option (State Guard Other)
  | .trigger guard ok => some (if ok then s.setTriggerValue guard true else s)
  | .begin arrays timeout reserved =>
      if s.current.isSome then none
      else
        let begun (stage : Stage Guard Other) : State Guard Other :=
          { s.withCall s.nextCall ⟨arrays, stage⟩ with nextCall := s.nextCall + 1 }
        match waitChecks s.maxConditions arrays timeout reserved with
        | some ret => some (begun (.returned ⟨ret, arrays⟩))
        | none =>
            some { begun (.attaching [] arrays.attachments) with current := some s.nextCall }
  | .attach call o =>
      match s.calls call with
      | some ⟨arrays, .attaching attached (attachment :: rest)⟩ =>
          match attachment.refusal o with
          | none =>
              some { s.withCall call
                  ⟨arrays, .attaching (attached ++ [attachment.condition]) rest⟩ with
                attached := s.attached.insert attachment.condition }
          | some ret => some (s.withCall call ⟨arrays, .detaching attached (.error ret)⟩)
      | _ => none
  | .wake call result active =>
      match s.calls call with
      | some ⟨arrays, .attaching attached []⟩ =>
          if s.Returns active result then
            some (s.withCall call ⟨arrays, .detaching attached (.ok (result, active))⟩)
          else none
      | _ => none
  | .detach call ok =>
      match s.calls call with
      | some ⟨arrays, .detaching (condition :: attached) woken⟩ =>
          some { s.withCall call ⟨arrays, .detaching attached woken⟩ with
            attached := if ok then s.attached.erase condition else s.attached }
      | _ => none
  | .detached call =>
      match s.calls call with
      | some ⟨arrays, .detaching [] (.error ret)⟩ =>
          some (s.returning call arrays ⟨ret, arrays⟩)
      | some ⟨arrays, .detaching [] (.ok (.error, _))⟩ =>
          some (s.returning call arrays ⟨.error, arrays⟩)
      | some ⟨arrays, .detaching [] (.ok (result, active))⟩ =>
          some (s.withCall call ⟨arrays, .visiting result active [] arrays.guardConditions⟩)
      | _ => none
  | .reset call guard =>
      match s.calls call with
      | some ⟨arrays, .visiting result active visited (some guard' :: rest)⟩ =>
          if guard' = guard ∧ contains active (.guard guard) then
            some ((s.setTriggerValue guard false).withCall call
              ⟨arrays, .visiting result active (visited ++ [some guard]) rest⟩)
          else none
      | _ => none
  | .nullify call =>
      match s.calls call with
      | some ⟨arrays, .visiting result active visited (some guard :: rest)⟩ =>
          if contains active (.guard guard) then none
          else
            some (s.withCall call ⟨arrays, .visiting result active (visited ++ [none]) rest⟩)
      | _ => none
  | .finish call =>
      match s.calls call with
      | some ⟨arrays, .visiting result active visited []⟩ =>
          some (s.returning call arrays
            ⟨if result = .timeout then .timeout else .ok,
              { arrays.keep active with guardConditions := visited }⟩)
      | _ => none

end State

/-- The runs of the triggers and the waits. -/
def system (Guard Other : Type*) [DecidableEq Guard] [DecidableEq Other] (maxConditions : Nat) :
    Transition.System (State Guard Other) (Action Guard Other) :=
  .ofNext (.start maxConditions) State.next

/-! ## Inversion -/

/-- What a step does. -/
inductive Step [DecidableEq Guard] [DecidableEq Other] (s : State Guard Other) :
    Action Guard Other → State Guard Other → Prop where
  | trigger (guard : Guard) : Step s (.trigger guard true) (s.setTriggerValue guard true)
  | triggerFailed (guard : Guard) : Step s (.trigger guard false) s
  | refused {arrays : Arrays Guard Other} {timeout : Option RmwTime} {reserved : Bool}
      {ret : Ret} :
      s.current = none → waitChecks s.maxConditions arrays timeout reserved = some ret →
      Step s (.begin arrays timeout reserved)
        { s.withCall s.nextCall ⟨arrays, .returned ⟨ret, arrays⟩⟩ with
          nextCall := s.nextCall + 1 }
  | begun {arrays : Arrays Guard Other} {timeout : Option RmwTime} {reserved : Bool} :
      s.current = none → waitChecks s.maxConditions arrays timeout reserved = none →
      Step s (.begin arrays timeout reserved)
        { s.withCall s.nextCall ⟨arrays, .attaching [] arrays.attachments⟩ with
          nextCall := s.nextCall + 1
          current := some s.nextCall }
  | attached {call : Nat} {o : AttachOutcome} {arrays : Arrays Guard Other}
      {attached : List (Condition Guard Other)} {attachment : Attachment Guard Other}
      {rest : List (Attachment Guard Other)} :
      s.calls call = some ⟨arrays, .attaching attached (attachment :: rest)⟩ →
      attachment.refusal o = none →
      Step s (.attach call o)
        { s.withCall call ⟨arrays, .attaching (attached ++ [attachment.condition]) rest⟩ with
          attached := s.attached.insert attachment.condition }
  | attachFailed {call : Nat} {o : AttachOutcome} {arrays : Arrays Guard Other}
      {attached : List (Condition Guard Other)} {attachment : Attachment Guard Other}
      {rest : List (Attachment Guard Other)} {ret : Ret} :
      s.calls call = some ⟨arrays, .attaching attached (attachment :: rest)⟩ →
      attachment.refusal o = some ret →
      Step s (.attach call o) (s.withCall call ⟨arrays, .detaching attached (.error ret)⟩)
  | woken {call : Nat} {result : WaitResult} {active attached : List (Condition Guard Other)}
      {arrays : Arrays Guard Other} :
      s.calls call = some ⟨arrays, .attaching attached []⟩ → s.Returns active result →
      Step s (.wake call result active)
        (s.withCall call ⟨arrays, .detaching attached (.ok (result, active))⟩)
  | detach {call : Nat} {ok : Bool} {arrays : Arrays Guard Other}
      {condition : Condition Guard Other} {attached : List (Condition Guard Other)}
      {woken : Except Ret (WaitResult × List (Condition Guard Other))} :
      s.calls call = some ⟨arrays, .detaching (condition :: attached) woken⟩ →
      Step s (.detach call ok)
        { s.withCall call ⟨arrays, .detaching attached woken⟩ with
          attached := if ok then s.attached.erase condition else s.attached }
  | gaveUp {call : Nat} {arrays : Arrays Guard Other} {ret : Ret} :
      s.calls call = some ⟨arrays, .detaching [] (.error ret)⟩ →
      Step s (.detached call) (s.returning call arrays ⟨ret, arrays⟩)
  | failed {call : Nat} {arrays : Arrays Guard Other}
      {active : List (Condition Guard Other)} :
      s.calls call = some ⟨arrays, .detaching [] (.ok (.error, active))⟩ →
      Step s (.detached call) (s.returning call arrays ⟨.error, arrays⟩)
  | visit {call : Nat} {arrays : Arrays Guard Other} {result : WaitResult}
      {active : List (Condition Guard Other)} :
      s.calls call = some ⟨arrays, .detaching [] (.ok (result, active))⟩ → result ≠ .error →
      Step s (.detached call)
        (s.withCall call ⟨arrays, .visiting result active [] arrays.guardConditions⟩)
  | reset {call : Nat} {guard : Guard} {arrays : Arrays Guard Other} {result : WaitResult}
      {active : List (Condition Guard Other)} {visited rest : List (Option Guard)} :
      s.calls call = some ⟨arrays, .visiting result active visited (some guard :: rest)⟩ →
      contains active (.guard guard) = true →
      Step s (.reset call guard)
        ((s.setTriggerValue guard false).withCall call
          ⟨arrays, .visiting result active (visited ++ [some guard]) rest⟩)
  | nullify {call : Nat} {guard : Guard} {arrays : Arrays Guard Other} {result : WaitResult}
      {active : List (Condition Guard Other)} {visited rest : List (Option Guard)} :
      s.calls call = some ⟨arrays, .visiting result active visited (some guard :: rest)⟩ →
      contains active (.guard guard) = false →
      Step s (.nullify call)
        (s.withCall call ⟨arrays, .visiting result active (visited ++ [none]) rest⟩)
  | finish {call : Nat} {arrays : Arrays Guard Other} {result : WaitResult}
      {active : List (Condition Guard Other)} {visited : List (Option Guard)} :
      s.calls call = some ⟨arrays, .visiting result active visited []⟩ →
      Step s (.finish call)
        (s.returning call arrays ⟨if result = .timeout then .timeout else .ok,
          { arrays.keep active with guardConditions := visited }⟩)

variable [DecidableEq Guard] [DecidableEq Other] {s s' : State Guard Other}
  {a : Action Guard Other}

theorem step_of_next (h : s.next a = some s') : Step s a s' := by
  cases a with
  | trigger guard ok =>
      cases h
      cases ok with
      | true => exact .trigger guard
      | false => exact .triggerFailed guard
  | begin arrays timeout reserved =>
      simp only [State.next, Option.ite_none_left_eq_some] at h
      obtain ⟨hcurrent, h⟩ := h
      rw [Bool.not_eq_true, Option.isSome_eq_false_iff, Option.isNone_iff_eq_none] at hcurrent
      split at h
      · next hchecks =>
          cases h
          exact .refused hcurrent hchecks
      · next hchecks =>
          cases h
          exact .begun hcurrent hchecks
  | attach call o =>
      simp only [State.next] at h
      split at h
      · next hcall =>
          split at h
          · next hret =>
              cases h
              exact .attached hcall hret
          · next hret =>
              cases h
              exact .attachFailed hcall hret
      · cases h
  | wake call result active =>
      simp only [State.next] at h
      split at h
      · next hcall =>
          rw [Option.ite_none_right_eq_some] at h
          obtain ⟨hreturns, h⟩ := h
          cases h
          exact .woken hcall hreturns
      · cases h
  | detach call ok =>
      simp only [State.next] at h
      split at h
      · next hcall =>
          cases h
          exact .detach hcall
      · cases h
  | detached call =>
      simp only [State.next] at h
      split at h
      · next hcall =>
          cases h
          exact .gaveUp hcall
      · next hcall =>
          cases h
          exact .failed hcall
      · next result active hne hcall =>
          cases h
          exact .visit hcall hne
      · cases h
  | reset call guard =>
      simp only [State.next] at h
      split at h
      · next hcall =>
          rw [Option.ite_none_right_eq_some] at h
          obtain ⟨⟨rfl, hactive⟩, h⟩ := h
          cases h
          exact .reset hcall hactive
      · cases h
  | nullify call =>
      simp only [State.next] at h
      split at h
      · next hcall =>
          rw [Option.ite_none_left_eq_some, Bool.not_eq_true] at h
          obtain ⟨hactive, h⟩ := h
          cases h
          exact .nullify hcall hactive
      · cases h
  | finish call =>
      simp only [State.next] at h
      split at h
      · next hcall =>
          cases h
          exact .finish hcall
      · cases h

end RmwZzdds.Wait
