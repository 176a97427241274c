import Mathlib.Data.Finset.Basic
import Mathlib.Data.List.ReduceOption
import RmwZzdds.Event.Status
import RmwZzdds.Lifecycle.Context
import RmwZzdds.Wait.WaitSet

/-!
# One call of `rmw_wait`

The call from its arguments to its return, with the entities as their structures
are.  Every loop finds the condition of an entity for itself, the one that
attaches it and the one that looks for it among the active conditions.

The arrays are in memory, since the call writes to them.  Memory also records
what the call has attached to the native wait set and what it has written to
trigger values.  Detaching a condition that is attached succeeds.
-/

namespace RmwZzdds.Wait

open Event (EventType publisherEvent)
open Lifecycle (identifier)

/-! ## Entities -/

section

variable (Context Read Guard : Type)

/-- `DDS_Condition`, from a read condition or a guard condition. -/
inductive DdsCondition where
  | read (readCondition : Read)
  | guard (guard : Guard)
deriving DecidableEq

/-- The fields of `PublisherImpl` that `rmw_wait` reads. -/
structure PublisherImpl where
  context : Context
  eventGuards : EventType → Guard

/-- The fields of `SubscriptionImpl` that `rmw_wait` reads. -/
structure SubscriptionImpl where
  context : Context
  readCondition : Read
  eventGuards : EventType → Guard

/-- `rmw_context_t`. -/
structure RmwContext where
  impl : Option Context

structure GuardConditionImpl where
  context : Option (RmwContext Context)
  native : Guard

/-- `ServiceImpl`, with the data of its request subscription. -/
structure ServiceImpl where
  context : Context
  requestSubscription : SubscriptionImpl Context Read Guard

/-- `ClientImpl`, with the data of its response subscription. -/
structure ClientImpl where
  context : Context
  responseSubscription : SubscriptionImpl Context Read Guard

/-- The data of an event. -/
inductive EventData where
  | publisher (impl : PublisherImpl Context Guard)
  | subscription (impl : SubscriptionImpl Context Read Guard)

/-- The data is that of a publisher. -/
def EventData.ofPublisher {Context Read Guard : Type} : EventData Context Read Guard → Bool
  | publisher _ => true
  | subscription _ => false

/-- `rmw_event_t`.  The event type says what the data is. -/
structure RmwEvent where
  implementationIdentifier : Option String
  data : Option (EventData Context Read Guard)
  eventType : EventType
  data_eventType : ∀ impl ∈ data, impl.ofPublisher = publisherEvent eventType

/-- An array argument such as `rmw_subscriptions_t *`. -/
inductive EntityArray (α : Type) where
  | null
  /-- The pointer to the entries is null. -/
  | nullEntries (count : ℕ)
  | entries (entries : List (Option α))

structure Arguments where
  subscriptions : EntityArray (SubscriptionImpl Context Read Guard)
  guardConditions : EntityArray (GuardConditionImpl Context Guard)
  services : EntityArray (ServiceImpl Context Read Guard)
  clients : EntityArray (ClientImpl Context Read Guard)
  events : EntityArray (RmwEvent Context Read Guard)

structure WaitSetImpl where
  context : Context
  maxConditions : ℕ

/-- `rmw_wait_set_t`. -/
structure RmwWaitSet where
  implementationIdentifier : Option String
  data : Option (WaitSetImpl Context)

end

section

variable {Context Read Guard : Type}

/-! ## Conditions -/

def SubscriptionImpl.condition (subscription : SubscriptionImpl Context Read Guard) :
    DdsCondition Read Guard :=
  .read subscription.readCondition

def GuardConditionImpl.condition (guard : GuardConditionImpl Context Guard) :
    DdsCondition Read Guard :=
  .guard guard.native

def ServiceImpl.condition (service : ServiceImpl Context Read Guard) : DdsCondition Read Guard :=
  .read service.requestSubscription.readCondition

def ClientImpl.condition (client : ClientImpl Context Read Guard) : DdsCondition Read Guard :=
  .read client.responseSubscription.readCondition

/-- `event_condition`. -/
def RmwEvent.condition (event : RmwEvent Context Read Guard) : Option (DdsCondition Read Guard) :=
  event.data.map fun
    | .publisher impl => .guard (impl.eventGuards event.eventType)
    | .subscription impl => .guard (impl.eventGuards event.eventType)

/-- `event_context`. -/
def EventData.context : EventData Context Read Guard → Context
  | publisher impl => impl.context
  | subscription impl => impl.context

/-! ## Checks -/

namespace EntityArray

variable {α : Type}

def list : EntityArray α → List (Option α)
  | .entries list => list
  | .null | .nullEntries _ => []

def count : EntityArray α → ℕ
  | .null => 0
  | .nullEntries count => count
  | .entries list => list.length

/-- `validate_array`. -/
def valid : EntityArray α → Bool
  | .null => true
  | .nullEntries count => count = 0
  | .entries list => validateArray list

/-- The array with other entries. -/
def map (f : List (Option α) → List (Option α)) : EntityArray α → EntityArray α
  | .null => .null
  | .nullEntries count => .nullEntries count
  | .entries list => .entries (f list)

end EntityArray

namespace Arguments

def valid (arguments : Arguments Context Read Guard) : Bool :=
  arguments.subscriptions.valid && arguments.guardConditions.valid && arguments.services.valid &&
    arguments.clients.valid && arguments.events.valid

/-- The number of conditions fits `size_t` and the capacity of the wait set. -/
def fits (arguments : Arguments Context Read Guard) (maxConditions : ℕ) : Bool :=
  let counts := [arguments.subscriptions.count, arguments.guardConditions.count,
    arguments.services.count, arguments.clients.count, arguments.events.count]
  let conditionCount := counts.sum % 2 ^ 64
  !(counts.any (fun count => conditionCount < count) ||
    (maxConditions != 0 && conditionCount > maxConditions))

end Arguments

end

/-! ## The call -/

/-- How the allocation, the attachments of the call and its zzdds wait go. -/
structure ZzddsOutcomes (Read Guard : Type) where
  reserved : Bool
  attaches : ℕ → Bool
  result : WaitResult
  active : List (DdsCondition Read Guard)

structure Memory (Context Read Guard : Type) where
  arguments : Arguments Context Read Guard
  /-- The conditions attached to the native wait set. -/
  attached : Finset (DdsCondition Read Guard)
  /-- The conditions that the call has attached. -/
  made : Finset (DdsCondition Read Guard)
  /-- The number of attachments that it tried. -/
  attempts : ℕ
  /-- The trigger values that it has set. -/
  written : List (Guard × Bool)

/-- A part of the call, which may end it with a return code. -/
abbrev WaitM (Context Read Guard : Type) := ExceptT Ret (StateM (Memory Context Read Guard))

section

variable {Context Read Guard : Type} [DecidableEq Read] [DecidableEq Guard]
  (o : ZzddsOutcomes Read Guard)

/-- `DDS_WaitSet_attach_condition`. -/
def attachCondition (condition : DdsCondition Read Guard) : WaitM Context Read Guard Bool := do
  let s ← get
  if o.attaches s.attempts then
    set { s with
      attached := insert condition s.attached
      made := insert condition s.made
      attempts := s.attempts + 1 }
    return true
  else
    set { s with attempts := s.attempts + 1 }
    return false

/-- `DDS_WaitSet_detach_condition`, for each of the conditions. -/
def detachConditions : List (DdsCondition Read Guard) → WaitM Context Read Guard Unit
  | [] => pure ()
  | condition :: attached => do
      modify fun s => { s with attached := s.attached.erase condition }
      detachConditions attached

/-- `DDS_GuardCondition_set_trigger_value`. -/
def setTriggerValue (guard : Guard) (value : Bool) : WaitM Context Read Guard Unit :=
  modify fun s => { s with written := s.written ++ [(guard, value)] }

/-- A loop that attaches the entities of an array, which has no null entries any more.  There
is no condition for an entity of another context.  What was attached before is detached on
an error. -/
def attachEach {α : Type} (condition : α → Option (DdsCondition Read Guard)) (failed : Ret) :
    List (Option α) → List (DdsCondition Read Guard) →
    WaitM Context Read Guard (List (DdsCondition Read Guard))
  | [], attached => return attached
  | none :: entries, attached => attachEach condition failed entries attached
  | some entity :: entries, attached =>
      match condition entity with
      | none => do
          detachConditions attached
          throw .invalidArgument
      | some condition' => do
          if ← attachCondition o condition' then
            attachEach condition failed entries (attached ++ [condition'])
          else
            detachConditions attached
            throw failed

/-- The five loops that attach. -/
def attachAll [DecidableEq Context] (context : Context) (arguments : Arguments Context Read Guard) :
    WaitM Context Read Guard (List (DdsCondition Read Guard)) := do
  let attached ← attachEach o (fun subscription =>
    if subscription.context = context then some subscription.condition else none)
    .error arguments.subscriptions.list []
  let attached ← attachEach o (fun guard =>
    if guard.context.bind (·.impl) = some context then some guard.condition else none)
    .error arguments.guardConditions.list attached
  let attached ← attachEach o (fun service =>
    if service.context = context then some service.condition else none)
    .error arguments.services.list attached
  let attached ← attachEach o (fun client =>
    if client.context = context then some client.condition else none)
    .error arguments.clients.list attached
  attachEach o (fun event =>
    if event.implementationIdentifier = some identifier ∧
      event.data.map EventData.context = some context then event.condition else none)
    .invalidArgument arguments.events.list attached

/-- A loop that sets the entries to null whose condition is not active. -/
def retain {α : Type} (active : List (DdsCondition Read Guard))
    (condition : α → Option (DdsCondition Read Guard)) (entries : List (Option α)) :
    List (Option α) :=
  entries.map fun entry => entry.filter fun entity => (condition entity).any (contains active)

/-- The loop over the guard conditions, which resets the active ones. -/
def retainGuards (active : List (DdsCondition Read Guard)) :
    List (Option (GuardConditionImpl Context Guard)) →
    WaitM Context Read Guard (List (Option (GuardConditionImpl Context Guard)))
  | [] => return []
  | none :: entries => return none :: (← retainGuards active entries)
  | some guard :: entries => do
      if contains active guard.condition then
        setTriggerValue guard.native false
        return some guard :: (← retainGuards active entries)
      else
        return none :: (← retainGuards active entries)

/-- The five loops that look at the active conditions. -/
def retainAll (active : List (DdsCondition Read Guard)) : WaitM Context Read Guard Unit := do
  let s ← get
  let subscriptions := s.arguments.subscriptions.map (retain active fun x => some x.condition)
  set { s with arguments := { s.arguments with subscriptions := subscriptions } }
  let guardConditions ← retainGuards active s.arguments.guardConditions.list
  let s ← get
  let guardConditions := s.arguments.guardConditions.map fun _ => guardConditions
  set { s with arguments := { s.arguments with guardConditions := guardConditions } }
  let s ← get
  let services := s.arguments.services.map (retain active fun x => some x.condition)
  set { s with arguments := { s.arguments with services := services } }
  let s ← get
  let clients := s.arguments.clients.map (retain active fun x => some x.condition)
  set { s with arguments := { s.arguments with clients := clients } }
  let s ← get
  let events := s.arguments.events.map (retain active RmwEvent.condition)
  set { s with arguments := { s.arguments with events := events } }

/-- The checks of `rmw_wait` before it attaches anything. -/
def waitSetOf (reserved : Bool) (waitSet : Option (RmwWaitSet Context))
    (timeout : Option RmwTime) (arguments : Arguments Context Read Guard) :
    Except Ret (WaitSetImpl Context) :=
  match waitSet with
  | none | some ⟨_, none⟩ => .error .invalidArgument
  | some ⟨implementationIdentifier, some impl⟩ =>
      if implementationIdentifier ≠ some identifier then .error .incorrectRmwImplementation
      else if !arguments.valid then .error .invalidArgument
      else if !arguments.fits impl.maxConditions then .error .invalidArgument
      else if (toDdsDuration timeout).isNone then .error .invalidArgument
      else if !reserved then .error .badAlloc
      else .ok impl

/-- The body of `rmw_wait`. -/
def waitBody [DecidableEq Context] (waitSet : Option (RmwWaitSet Context))
    (timeout : Option RmwTime) : WaitM Context Read Guard Ret := do
  let s ← get
  match waitSetOf o.reserved waitSet timeout s.arguments with
  | .error ret => throw ret
  | .ok impl => do
      let attached ← attachAll o impl.context s.arguments
      detachConditions attached
      match o.result with
      | .error => throw .error
      | .ok => do
          retainAll o.active
          return .ok
      | .timeout => do
          retainAll o.active
          return .timeout

/-- `rmw_wait`. -/
def rmwWait [DecidableEq Context] (waitSet : Option (RmwWaitSet Context)) (timeout : Option RmwTime)
    (s : Memory Context Read Guard) : Ret × Memory Context Read Guard :=
  match ((waitBody o waitSet timeout).run.run s).run with
  | (.ok ret, s) | (.error ret, s) => (ret, s)

/-- The memory when the call begins. -/
def Memory.before (arguments : Arguments Context Read Guard)
    (attached : Finset (DdsCondition Read Guard)) : Memory Context Read Guard where
  arguments := arguments
  attached := attached
  made := ∅
  attempts := 0
  written := []

/-! ## The conditions of the entries -/

/-- The conditions of an array, in the order of its loops. -/
def EntityArray.conditions {α : Type} (condition : α → Option (DdsCondition Read Guard))
    (array : EntityArray α) : List (DdsCondition Read Guard) :=
  array.list.reduceOption.filterMap condition

/-- The conditions of the five arrays. -/
def Arguments.conditions (arguments : Arguments Context Read Guard) :
    List (DdsCondition Read Guard) :=
  arguments.subscriptions.conditions (fun x => some x.condition) ++
    arguments.guardConditions.conditions (fun x => some x.condition) ++
    arguments.services.conditions (fun x => some x.condition) ++
    arguments.clients.conditions (fun x => some x.condition) ++
    arguments.events.conditions RmwEvent.condition

/-- All entities belong to the context. -/
structure Arguments.OneContext (context : Context) (arguments : Arguments Context Read Guard) :
    Prop where
  subscriptions : ∀ x, some x ∈ arguments.subscriptions.list → x.context = context
  guardConditions : ∀ x, some x ∈ arguments.guardConditions.list →
    x.context.bind (·.impl) = some context
  services : ∀ x, some x ∈ arguments.services.list → x.context = context
  clients : ∀ x, some x ∈ arguments.clients.list → x.context = context
  events : ∀ x, some x ∈ arguments.events.list → x.implementationIdentifier = some identifier ∧
    x.data.map EventData.context = some context

/-- The call gets as far as the zzdds wait. -/
structure Prepared (waitSet : Option (RmwWaitSet Context)) (timeout : Option RmwTime)
    (arguments : Arguments Context Read Guard) : Prop where
  accepted : ∃ impl, waitSet = some ⟨some identifier, some impl⟩ ∧ arguments.valid = true ∧
    arguments.fits impl.maxConditions = true ∧ arguments.OneContext impl.context
  timeout : (toDdsDuration timeout).isSome = true
  reserved : o.reserved = true
  attaches : ∀ i < arguments.conditions.length, o.attaches i = true

end

end RmwZzdds.Wait
