import Mathlib.Logic.Function.Basic
import RmwZzdds.Event.Status

/-!
# The event state of an endpoint

`PublisherImpl` and `SubscriptionImpl` keep, under `event_mutex`, a stored
status for each event type and arrays indexed by the event type: the guard
condition, the registered callback with its user data, and the two event
counters.  A critical section of `rmw_event.cpp` works on the entries of one
event type only, so those entries are one record here, `EventSlot`, and every
function below is one critical section, from the lock to the unlock, on the
slot of its type.  What the section does after the unlock, calling a callback,
is returned as a `Notification`.

*Getters.*  A critical section that reads zzdds takes what the status getter
returned: `none` for a failure, or the status it filled in.

*Counters.*  `event_count` and `event_reported` are natural numbers, since no
run counts `2^64` events.  The subtractions are those of `size_t`, which wrap.
-/

namespace RmwZzdds.Event

/-! ## State -/

/-- The address of an rmw event callback. -/
abbrev Callback := Nat

/-- A user data pointer. -/
abbrev UserData := Nat

/-- The entries of one event type: its stored status, `event_guards`,
`event_callbacks`, `event_user_data`, `event_count` and `event_reported`.  A
guard condition is its trigger value, and `none` is a null pointer. -/
structure EventSlot (k : StatusKind) where
  stored : Status k
  guard : Option Bool
  callback : Option Callback
  userData : UserData
  count : Nat
  reported : Nat

/-- A callback to be called after the unlock, with its number of events. -/
structure Notification where
  callback : Callback
  userData : UserData
  added : Nat
deriving DecidableEq, Repr

/-- The events a notification tells about. -/
def events : Option Notification → Nat
  | none => 0
  | some n => n.added

namespace EventSlot

variable {k : StatusKind}

/-- The entries right after the endpoint is created. -/
def create (k : StatusKind) : EventSlot k where
  stored := Status.zero k
  guard := none
  callback := none
  userData := 0
  count := 0
  reported := 0

/-! ## Reading zzdds and counting -/

/-- `DDS_GuardCondition_set_trigger_value` on the guard. -/
def setTriggerValue (slot : EventSlot k) (value : Bool) : EventSlot k :=
  { slot with guard := slot.guard.map fun _ => value }

/-- `read_status`: the stored status moved to what the getter returned, and
whether it succeeded. -/
def readStatus (slot : EventSlot k) : Option (Status k) → EventSlot k × Bool
  | none => (slot, false)
  | some now => ({ slot with stored := addChanges slot.stored now }, true)

/-- `count_events_locked`: counts `added` more events and triggers the event.
The result is the callback to tell, if one is registered. -/
def countEventsLocked (slot : EventSlot k) (added : Nat) : EventSlot k × Option Notification :=
  let counted := { slot with count := slot.count + added }.setTriggerValue true
  match slot.callback with
  | none => (counted, none)
  | some callback =>
      ({ counted with reported := slot.reported + added },
        some ⟨callback, slot.userData, added⟩)

/-- `uncounted_events`: the untaken events not counted yet. -/
def uncountedEvents (slot : EventSlot k) : Nat :=
  let untaken := untakenEvents slot.stored
  if untaken > slot.count then subSizeT untaken slot.count else 0

/-- `on_status`: a zzdds listener fired, and `uncounted` finds the new events
after the status is read. -/
def onStatus (slot : EventSlot k) (got : Option (Status k)) (uncounted : EventSlot k → Nat) :
    EventSlot k × Option Notification :=
  let read := (slot.readStatus got).1
  let added := uncounted read
  if added = 0 then (read, none) else read.countEventsLocked added

/-- `on_counted_status`.  The status zzdds passed is not used. -/
def onCountedStatus (slot : EventSlot k) (got : Option (Status k)) :
    EventSlot k × Option Notification :=
  slot.onStatus got uncountedEvents

/-- What `liveliness_changed_listener` counts: one event if the status passed
differs from the one at the last take. -/
def livelinessChangedEvents (status : LivelinessChangedStatus)
    (slot : EventSlot .livelinessChanged) : Nat :=
  let stored : LivelinessChangedStatus := slot.stored
  if status.aliveCount ≠ stored.aliveCount - stored.aliveCountChange ∨
      status.notAliveCount ≠ stored.notAliveCount - stored.notAliveCountChange
  then 1 else 0

/-- The zzdds listener of a status, called with a status. -/
def listener : {k : StatusKind} → EventSlot k → (status : Status k) → Option (Status k) →
    EventSlot k × Option Notification
  | .livelinessChanged, slot, status, got =>
      slot.onStatus got (livelinessChangedEvents status)
  | .matched, slot, _, got => slot.onCountedStatus got
  | .count, slot, _, got => slot.onCountedStatus got
  | .deadline, slot, _, got => slot.onCountedStatus got
  | .incompatibleQos, slot, _, got => slot.onCountedStatus got

/-- The `current_count` of a matched status. -/
def currentCount : {k : StatusKind} → Status k → Int32
  | .matched, s => MatchedStatus.currentCount s
  | _, _ => 0

/-- `read_matched_count`: the matched count, or `none` if the getter failed.
Before the event is initialized there is nothing to count events for. -/
def readMatchedCount (slot : EventSlot k) (got : Option (Status k)) :
    EventSlot k × Option Nat × Option Notification :=
  let (read, ok) := slot.readStatus got
  if !ok then (read, none, none)
  else
    let current := currentCount read.stored
    let count := if current < 0 then 0 else toSizeT current
    if read.guard = none then (read, some count, none)
    else
      let added := read.uncountedEvents
      if added = 0 then (read, some count, none)
      else
        let (counted, told) := read.countEventsLocked added
        (counted, some count, told)

/-! ## Callbacks -/

/-- The first critical section of `rmw_event_set_callback`. -/
def setCallback (slot : EventSlot k) (callback : Option Callback) (userData : UserData) :
    EventSlot k :=
  { slot with callback := callback, userData := userData }

/-- `after_set_callback`: tell a new callback about the events no callback has
been told about. -/
def afterSetCallback (slot : EventSlot k) : EventSlot k × Option Notification :=
  match slot.callback with
  | none => (slot, none)
  | some callback =>
      let unreported := subSizeT slot.count slot.reported
      ({ slot with reported := slot.count },
        if unreported ≠ 0 then some ⟨callback, slot.userData, unreported⟩ else none)

/-! ## Initialization -/

/-- The first critical section of `initialize_event`.  `created` is the outcome
of `zzdds_create_guardcondition`; without a guard there is no result. -/
def createGuard (slot : EventSlot k) (created : Bool) : Option (EventSlot k) :=
  match slot.guard with
  | some _ => some slot
  | none => if created then some { slot with guard := some false } else none

/-- The last critical section of `initialize_event`. -/
def finishInitialize (slot : EventSlot k) (got : Option (Status k)) : EventSlot k :=
  let read := (slot.readStatus got).1
  let counted := if read.count = 0 then { read with count := untakenEvents read.stored } else read
  counted.setTriggerValue (counted.count != 0)

end EventSlot

/-! ## The stored status after a critical section -/

section Stored

variable {k : StatusKind} (slot : EventSlot k)

namespace EventSlot

@[simp] theorem readStatus_none : slot.readStatus none = (slot, false) := rfl

@[simp] theorem readStatus_some (now : Status k) :
    slot.readStatus (some now) = ({ slot with stored := addChanges slot.stored now }, true) :=
  rfl

@[simp] theorem stored_setTriggerValue (value : Bool) :
    (slot.setTriggerValue value).stored = slot.stored := rfl

@[simp] theorem stored_countEventsLocked (added : Nat) :
    (slot.countEventsLocked added).1.stored = slot.stored := by
  unfold countEventsLocked
  split <;> rfl

theorem stored_onStatus (got : Option (Status k)) (uncounted : EventSlot k → Nat) :
    (slot.onStatus got uncounted).1.stored = (slot.readStatus got).1.stored := by
  simp only [onStatus]
  split
  · rfl
  · exact stored_countEventsLocked ..

theorem stored_listener (status : Status k) (got : Option (Status k)) :
    (slot.listener status got).1.stored = (slot.readStatus got).1.stored := by
  cases k <;> exact stored_onStatus ..

theorem stored_readMatchedCount (got : Option (Status k)) :
    (slot.readMatchedCount got).1.stored = (slot.readStatus got).1.stored := by
  simp only [readMatchedCount]
  split
  · rfl
  · split
    · rfl
    · split
      · rfl
      · exact stored_countEventsLocked ..

theorem stored_finishInitialize (got : Option (Status k)) :
    (slot.finishInitialize got).stored = (slot.readStatus got).1.stored := by
  simp only [finishInitialize]
  split <;> rfl

@[simp] theorem stored_setCallback (callback : Option Callback) (userData : UserData) :
    (slot.setCallback callback userData).stored = slot.stored := rfl

@[simp] theorem stored_afterSetCallback : slot.afterSetCallback.1.stored = slot.stored := by
  unfold afterSetCallback
  split <;> rfl

theorem stored_createGuard {slot' : EventSlot k} {created : Bool}
    (h : slot.createGuard created = some slot') : slot'.stored = slot.stored := by
  unfold createGuard at h
  split at h
  · cases h
    rfl
  · split at h <;> cases h
    rfl

end EventSlot

end Stored

/-! ## Endpoints -/

inductive EndpointKind where
  | publisher
  | subscription
deriving DecidableEq, Repr

/-- The event types an endpoint supports. -/
def EndpointKind.supports : EndpointKind → EventType → Bool
  | .publisher => publisherEvent
  | .subscription => subscriptionEvent

/-- The event type whose status `count_matched` reads. -/
def EndpointKind.matchedType : EndpointKind → EventType
  | .publisher => .publicationMatched
  | .subscription => .subscriptionMatched

/-- The slots of an endpoint. -/
abbrev Slots := (type : EventType) → EventSlot type.kind

/-- The slots right after the endpoint is created. -/
def Slots.create : Slots := fun type => EventSlot.create type.kind

/-- The event types `apply_publisher_listener` and `subscription_listener` go
through. -/
def listenerTypes : EndpointKind → List EventType
  | .publisher =>
      [.publicationMatched, .livelinessLost, .offeredDeadlineMissed, .offeredQosIncompatible]
  | .subscription =>
      [.subscriptionMatched, .livelinessChanged, .requestedDeadlineMissed,
        .requestedQosIncompatible, .messageLost]

/-- The status mask `apply_listener` computes under `event_mutex`. -/
def listenerMask (kind : EndpointKind) (slots : Slots) : StatusMask :=
  (listenerTypes kind).foldl (fun mask type =>
    if (slots type).guard ≠ none then mask ∪ eventMask type else mask) ∅

/-! ## Taking -/

/-- The rmw statuses `rmw_take_event` fills in. -/
inductive EventInfo where
  /-- `rmw_matched_status_t`. -/
  | matched (totalCount totalCountChange currentCount : Nat) (currentCountChange : Int32)
  /-- `rmw_liveliness_changed_status_t`. -/
  | livelinessChanged (aliveCount notAliveCount aliveCountChange notAliveCountChange : Int32)
  /-- `rmw_liveliness_lost_status_t` and the two deadline missed statuses. -/
  | count (totalCount totalCountChange : Int32)
  /-- `rmw_qos_incompatible_event_status_t`. -/
  | qosIncompatible (totalCount totalCountChange : Int32) (lastPolicyKind : QosPolicyKind)
  /-- `rmw_message_lost_status_t`. -/
  | messageLost (totalCount totalCountChange : Nat)
deriving DecidableEq, Repr

/-- The output and the cleared status of one case of `rmw_take_event`. -/
def takeStatus : (type : EventType) → Status type.kind → EventInfo × Status type.kind
  | .publicationMatched, status | .subscriptionMatched, status =>
      (.matched (toSizeT (MatchedStatus.totalCount status))
          (toSizeT (MatchedStatus.totalCountChange status))
          (toSizeT (MatchedStatus.currentCount status))
          (MatchedStatus.currentCountChange status),
        { (status : MatchedStatus) with totalCountChange := 0, currentCountChange := 0 })
  | .livelinessChanged, status =>
      (.livelinessChanged (LivelinessChangedStatus.aliveCount status)
          (LivelinessChangedStatus.notAliveCount status)
          (LivelinessChangedStatus.aliveCountChange status)
          (LivelinessChangedStatus.notAliveCountChange status),
        { (status : LivelinessChangedStatus) with
          aliveCountChange := 0, notAliveCountChange := 0 })
  | .livelinessLost, status =>
      (.count (CountStatus.totalCount status) (CountStatus.totalCountChange status),
        { (status : CountStatus) with totalCountChange := 0 })
  | .offeredDeadlineMissed, status | .requestedDeadlineMissed, status =>
      (.count (DeadlineStatus.toCountStatus status).totalCount
          (DeadlineStatus.toCountStatus status).totalCountChange,
        { (status : DeadlineStatus) with totalCountChange := 0 })
  | .messageLost, status =>
      (.messageLost (toSizeT (CountStatus.totalCount status))
          (toSizeT (CountStatus.totalCountChange status)),
        { (status : CountStatus) with totalCountChange := 0 })
  | .offeredQosIncompatible, status | .requestedQosIncompatible, status | .invalid, status =>
      (.qosIncompatible (IncompatibleQosStatus.toCountStatus status).totalCount
          (IncompatibleQosStatus.toCountStatus status).totalCountChange
          (qosPolicy (IncompatibleQosStatus.lastPolicyId status)),
        { (status : IncompatibleQosStatus) with totalCountChange := 0 })

/-- The critical section of `rmw_take_event`.  A failed getter is
`RMW_RET_ERROR` and gives no output. -/
def EventSlot.takeEvent (type : EventType) (slot : EventSlot type.kind)
    (got : Option (Status type.kind)) : EventSlot type.kind × Option EventInfo :=
  let (read, ok) := slot.readStatus got
  if !ok then (read, none)
  else
    let (info, cleared) := takeStatus type read.stored
    ({ read with stored := cleared, count := 0, reported := 0 }.setTriggerValue false, some info)

/-- The cumulative counts a take reports. -/
def EventInfo.counts : EventInfo → ℤ × ℤ
  | .matched total _ current _ => (total, current)
  | .livelinessChanged alive notAlive _ _ => (alive.toInt, notAlive.toInt)
  | .count total _ => (total.toInt, 0)
  | .qosIncompatible total _ _ => (total.toInt, 0)
  | .messageLost total _ => (total, 0)

/-- The change fields a take outputs. -/
def EventInfo.changes : EventInfo → ℤ × ℤ
  | .matched _ totalChange _ currentChange => (totalChange, currentChange.toInt)
  | .livelinessChanged _ _ alive notAlive => (alive.toInt, notAlive.toInt)
  | .count _ change => (change.toInt, 0)
  | .qosIncompatible _ change _ => (change.toInt, 0)
  | .messageLost _ change => (change, 0)

/-- A take clears the changes and keeps the counts. -/
theorem takeStatus_ledger (type : EventType) (status : Status type.kind) :
    (takeStatus type status).2.ledger = status.ledger.take := by
  cases type <;> rfl

/-- A take outputs the counts of the status, if no count is negative. -/
theorem takeStatus_counts (type : EventType) {status : Status type.kind}
    (h : InRange status.counts) : (takeStatus type status).1.counts = status.counts := by
  obtain ⟨⟨h1, -⟩, h2, -⟩ := h
  cases type with
  | publicationMatched => exact Prod.ext (toSizeT_of_nonneg h1) (toSizeT_of_nonneg h2)
  | subscriptionMatched => exact Prod.ext (toSizeT_of_nonneg h1) (toSizeT_of_nonneg h2)
  | messageLost => exact Prod.ext (toSizeT_of_nonneg h1) rfl
  | livelinessChanged => rfl
  | livelinessLost => rfl
  | offeredDeadlineMissed => rfl
  | requestedDeadlineMissed => rfl
  | offeredQosIncompatible => rfl
  | requestedQosIncompatible => rfl
  | invalid => rfl

/-- A take outputs the changes of the status, if no total went back. -/
theorem takeStatus_changes (type : EventType) {status : Status type.kind}
    (h : type.kind ≠ .livelinessChanged → 0 ≤ status.changes.1) :
    (takeStatus type status).1.changes = status.changes := by
  cases type with
  | publicationMatched => exact Prod.ext (toSizeT_of_nonneg (h (by decide))) rfl
  | subscriptionMatched => exact Prod.ext (toSizeT_of_nonneg (h (by decide))) rfl
  | messageLost => exact Prod.ext (toSizeT_of_nonneg (h (by decide))) rfl
  | livelinessChanged => rfl
  | livelinessLost => rfl
  | offeredDeadlineMissed => rfl
  | requestedDeadlineMissed => rfl
  | offeredQosIncompatible => rfl
  | requestedQosIncompatible => rfl
  | invalid => rfl

theorem EventSlot.takeEvent_none (type : EventType) (slot : EventSlot type.kind) :
    slot.takeEvent type none = (slot, none) := rfl

theorem EventSlot.takeEvent_some (type : EventType) (slot : EventSlot type.kind)
    (now : Status type.kind) :
    slot.takeEvent type (some now) =
      ({ slot with
          stored := (takeStatus type (addChanges slot.stored now)).2
          count := 0
          reported := 0 }.setTriggerValue false,
        some (takeStatus type (addChanges slot.stored now)).1) := rfl

end RmwZzdds.Event
