import Mathlib.Data.Int.Basic
import Mathlib.Data.Finset.Basic
import RmwZzdds.Library.Ledger

/-!
# Endpoint statuses

zzdds keeps one status for each kind of event of an endpoint.  Rmw keeps a
stored copy of each, whose `*_change` fields hold the changes not yet taken.
`addChanges` moves a stored status to a newer one, with the changes computed
from the counts and not from zzdds's own `*_change` fields.

The nine DDS statuses fall into five layouts, `StatusKind`.  A matched status
has a total and a current count, liveliness changed has an alive and a not
alive count, and the others have one total, some with the field of the last
occurrence.

*Counts.*  A DDS count is an `int32_t` and its arithmetic wraps.  `Status.ledger`
reads a status as a ledger of integers, one or two counts in a pair.  On counts
from `0` to `2^31 - 1` nothing wraps (`InRange`), and `addChanges` is an
observation of that ledger (`ledger_addChanges`).
-/

namespace RmwZzdds.Event

/-! ## Event types -/

/-- `rmw_event_type_t`, as far as `rmw_event.cpp` names its values. -/
inductive EventType where
  | livelinessChanged
  | requestedDeadlineMissed
  | requestedQosIncompatible
  | messageLost
  | subscriptionMatched
  | livelinessLost
  | offeredDeadlineMissed
  | offeredQosIncompatible
  | publicationMatched
  | invalid
deriving DecidableEq, Repr

/-- The event types of a publisher. -/
def publisherEvent (type : EventType) : Bool :=
  type == .publicationMatched || type == .livelinessLost || type == .offeredDeadlineMissed ||
    type == .offeredQosIncompatible

/-- The event types of a subscription. -/
def subscriptionEvent (type : EventType) : Bool :=
  type == .subscriptionMatched || type == .livelinessChanged ||
    type == .requestedDeadlineMissed || type == .requestedQosIncompatible ||
    type == .messageLost

/-- The DDS statuses behind the event types. -/
inductive DdsStatus where
  | publicationMatched
  | subscriptionMatched
  | livelinessChanged
  | livelinessLost
  | offeredDeadlineMissed
  | requestedDeadlineMissed
  | offeredIncompatibleQos
  | requestedIncompatibleQos
  | sampleLost
deriving DecidableEq, Repr

/-- `DDS_StatusMask`.  Every DDS status is a bit of its own, so a mask is a
set of statuses, `|=` is a union and `DDS_STATUS_MASK_NONE` is empty. -/
abbrev StatusMask := Finset DdsStatus

/-- The status mask of an event type. -/
def eventMask : EventType → StatusMask
  | .publicationMatched => {.publicationMatched}
  | .subscriptionMatched => {.subscriptionMatched}
  | .livelinessChanged => {.livelinessChanged}
  | .livelinessLost => {.livelinessLost}
  | .offeredDeadlineMissed => {.offeredDeadlineMissed}
  | .requestedDeadlineMissed => {.requestedDeadlineMissed}
  | .offeredQosIncompatible => {.offeredIncompatibleQos}
  | .requestedQosIncompatible => {.requestedIncompatibleQos}
  | .messageLost => {.sampleLost}
  | .invalid => ∅

/-- `DDS_QosPolicyId_t`, as far as `qos_policy` names its values. -/
inductive DdsQosPolicyId where
  | durability
  | deadline
  | liveliness
  | reliability
  | history
  | lifespan
  | other (id : Int32)
deriving DecidableEq, Repr

/-- `rmw_qos_policy_kind_t`, as far as `qos_policy` returns its values. -/
inductive QosPolicyKind where
  | invalid
  | durability
  | deadline
  | liveliness
  | reliability
  | history
  | lifespan
deriving DecidableEq, Repr

/-- The rmw policy kind of a DDS policy id. -/
def qosPolicy : DdsQosPolicyId → QosPolicyKind
  | .durability => .durability
  | .deadline => .deadline
  | .liveliness => .liveliness
  | .reliability => .reliability
  | .history => .history
  | .lifespan => .lifespan
  | .other _ => .invalid

/-- `DDS_InstanceHandle_t`, which the event code only copies. -/
abbrev InstanceHandle := Nat

/-! ## The statuses -/

/-- `DDS_PublicationMatchedStatus` and `DDS_SubscriptionMatchedStatus`.  The
handle is `last_subscription_handle` in the first and
`last_publication_handle` in the second. -/
structure MatchedStatus where
  totalCount : Int32 := 0
  totalCountChange : Int32 := 0
  currentCount : Int32 := 0
  currentCountChange : Int32 := 0
  lastHandle : InstanceHandle := 0
deriving DecidableEq, Repr

/-- `DDS_LivelinessChangedStatus`. -/
structure LivelinessChangedStatus where
  aliveCount : Int32 := 0
  notAliveCount : Int32 := 0
  aliveCountChange : Int32 := 0
  notAliveCountChange : Int32 := 0
  lastPublicationHandle : InstanceHandle := 0
deriving DecidableEq, Repr

/-- `DDS_LivelinessLostStatus` and `DDS_SampleLostStatus`. -/
structure CountStatus where
  totalCount : Int32 := 0
  totalCountChange : Int32 := 0
deriving DecidableEq, Repr

/-- `DDS_OfferedDeadlineMissedStatus` and `DDS_RequestedDeadlineMissedStatus`. -/
structure DeadlineStatus extends CountStatus where
  lastInstanceHandle : InstanceHandle := 0
deriving DecidableEq, Repr

/-- `DDS_OfferedIncompatibleQosStatus` and `DDS_RequestedIncompatibleQosStatus`.
The policies sequence is not kept. -/
structure IncompatibleQosStatus extends CountStatus where
  lastPolicyId : DdsQosPolicyId := .other 0
deriving DecidableEq, Repr

/-- `add_changes` of a matched status. -/
def MatchedStatus.addChanges (stored now : MatchedStatus) : MatchedStatus :=
  let total := now.totalCount - stored.totalCount
  let current := now.currentCount - stored.currentCount
  { totalCountChange := stored.totalCountChange + total
    currentCountChange := stored.currentCountChange + current
    totalCount := now.totalCount
    currentCount := now.currentCount
    lastHandle := now.lastHandle }

/-- `add_changes` of the liveliness changed status. -/
def LivelinessChangedStatus.addChanges (stored now : LivelinessChangedStatus) :
    LivelinessChangedStatus :=
  let alive := now.aliveCount - stored.aliveCount
  let notAlive := now.notAliveCount - stored.notAliveCount
  { aliveCountChange := stored.aliveCountChange + alive
    notAliveCountChange := stored.notAliveCountChange + notAlive
    aliveCount := now.aliveCount
    notAliveCount := now.notAliveCount
    lastPublicationHandle := now.lastPublicationHandle }

/-- `add_count_changes`: the moved status, and whether its count moved. -/
def CountStatus.addCountChanges (stored now : CountStatus) : CountStatus × Bool :=
  let total := now.totalCount - stored.totalCount
  ({ totalCountChange := stored.totalCountChange + total, totalCount := now.totalCount },
    total != 0)

/-- `add_changes` of a status that only counts. -/
def CountStatus.addChanges (stored now : CountStatus) : CountStatus :=
  (stored.addCountChanges now).1

/-- `add_deadline_changes`. -/
def DeadlineStatus.addChanges (stored now : DeadlineStatus) : DeadlineStatus :=
  let (counts, moved) := stored.toCountStatus.addCountChanges now.toCountStatus
  { toCountStatus := counts
    lastInstanceHandle := if moved then now.lastInstanceHandle else stored.lastInstanceHandle }

/-- `add_incompatible_qos_changes`. -/
def IncompatibleQosStatus.addChanges (stored now : IncompatibleQosStatus) :
    IncompatibleQosStatus :=
  let (counts, moved) := stored.toCountStatus.addCountChanges now.toCountStatus
  { toCountStatus := counts
    lastPolicyId := if moved then now.lastPolicyId else stored.lastPolicyId }

/-! ## The five layouts -/

/-- The layouts of the nine statuses. -/
inductive StatusKind where
  | matched
  | livelinessChanged
  | count
  | deadline
  | incompatibleQos
deriving DecidableEq, Repr

/-- The layout of the status behind an event type.  The switches over the
event type fall through to the incompatible QoS status. -/
def EventType.kind : EventType → StatusKind
  | .publicationMatched | .subscriptionMatched => .matched
  | .livelinessChanged => .livelinessChanged
  | .livelinessLost | .messageLost => .count
  | .offeredDeadlineMissed | .requestedDeadlineMissed => .deadline
  | .offeredQosIncompatible | .requestedQosIncompatible | .invalid => .incompatibleQos

/-- A status of a given layout. -/
abbrev Status : StatusKind → Type
  | .matched => MatchedStatus
  | .livelinessChanged => LivelinessChangedStatus
  | .count => CountStatus
  | .deadline => DeadlineStatus
  | .incompatibleQos => IncompatibleQosStatus

instance : ∀ k : StatusKind, DecidableEq (Status k)
  | .matched => inferInstanceAs (DecidableEq MatchedStatus)
  | .livelinessChanged => inferInstanceAs (DecidableEq LivelinessChangedStatus)
  | .count => inferInstanceAs (DecidableEq CountStatus)
  | .deadline => inferInstanceAs (DecidableEq DeadlineStatus)
  | .incompatibleQos => inferInstanceAs (DecidableEq IncompatibleQosStatus)

/-- The zero-initialized status of a layout. -/
def Status.zero : (k : StatusKind) → Status k
  | .matched => ({} : MatchedStatus)
  | .livelinessChanged => ({} : LivelinessChangedStatus)
  | .count => ({} : CountStatus)
  | .deadline => ({} : DeadlineStatus)
  | .incompatibleQos => ({} : IncompatibleQosStatus)

/-- The overloads of `add_changes`. -/
def addChanges : {k : StatusKind} → Status k → Status k → Status k
  | .matched, stored, now => MatchedStatus.addChanges stored now
  | .livelinessChanged, stored, now => LivelinessChangedStatus.addChanges stored now
  | .count, stored, now => CountStatus.addChanges stored now
  | .deadline, stored, now => DeadlineStatus.addChanges stored now
  | .incompatibleQos, stored, now => IncompatibleQosStatus.addChanges stored now

/-! ## Untaken events -/

/-- `static_cast<size_t>` of an `int32_t`: a negative number wraps around. -/
def toSizeT (x : Int32) : Nat := (x.toInt % 2 ^ 64).toNat

/-- Addition of `size_t`. -/
def addSizeT (a b : Nat) : Nat := (a + b) % 2 ^ 64

/-- Subtraction of `size_t`, which wraps around below zero. -/
def subSizeT (a b : Nat) : Nat := ((a : Int) - b) % 2 ^ 64 |>.toNat

/-- `untaken_matched_events`: each match raises total and current by one and
each unmatch lowers current only. -/
def MatchedStatus.untakenMatchedEvents (s : MatchedStatus) : Nat :=
  addSizeT (toSizeT s.totalCountChange) (toSizeT (s.totalCountChange - s.currentCountChange))

/-- `untaken_events` of the liveliness changed status, an estimate. -/
def LivelinessChangedStatus.untakenEvents (s : LivelinessChangedStatus) : Nat :=
  toSizeT (max s.aliveCountChange.abs s.notAliveCountChange.abs)

/-- The overloads of `untaken_events`. -/
def untakenEvents : {k : StatusKind} → Status k → Nat
  | .matched, s => MatchedStatus.untakenMatchedEvents s
  | .livelinessChanged, s => LivelinessChangedStatus.untakenEvents s
  | .count, s => toSizeT (CountStatus.totalCountChange s)
  | .deadline, s => toSizeT (DeadlineStatus.toCountStatus s).totalCountChange
  | .incompatibleQos, s => toSizeT (IncompatibleQosStatus.toCountStatus s).totalCountChange

/-! ## Statuses as ledgers -/

/-- The counts of a status: total and current, alive and not alive, or the
total alone. -/
def Status.counts : {k : StatusKind} → Status k → ℤ × ℤ
  | .matched, s => (s.totalCount.toInt, s.currentCount.toInt)
  | .livelinessChanged, s => (s.aliveCount.toInt, s.notAliveCount.toInt)
  | .count, s => (s.totalCount.toInt, 0)
  | .deadline, s => (s.totalCount.toInt, 0)
  | .incompatibleQos, s => (s.totalCount.toInt, 0)

/-- The change fields of a status, in the order of `counts`. -/
def Status.changes : {k : StatusKind} → Status k → ℤ × ℤ
  | .matched, s => (s.totalCountChange.toInt, s.currentCountChange.toInt)
  | .livelinessChanged, s => (s.aliveCountChange.toInt, s.notAliveCountChange.toInt)
  | .count, s => (s.totalCountChange.toInt, 0)
  | .deadline, s => (s.totalCountChange.toInt, 0)
  | .incompatibleQos, s => (s.totalCountChange.toInt, 0)

/-- A status as a ledger of its counts. -/
def Status.ledger {k : StatusKind} (s : Status k) : Ledger (ℤ × ℤ) := ⟨s.counts, s.changes⟩

/-- Both counts are numbers a DDS count can take: from `0` to `2^31 - 1`. -/
def InRange (p : ℤ × ℤ) : Prop := (0 ≤ p.1 ∧ p.1 < 2 ^ 31) ∧ 0 ≤ p.2 ∧ p.2 < 2 ^ 31

instance (p : ℤ × ℤ) : Decidable (InRange p) := inferInstanceAs (Decidable (_ ∧ _))

theorem inRange_zero : InRange 0 := by decide

@[simp] theorem Status.ledger_count {k : StatusKind} (s : Status k) : s.ledger.count = s.counts :=
  rfl

@[simp] theorem Status.ledger_change {k : StatusKind} (s : Status k) :
    s.ledger.change = s.changes := rfl

@[simp] theorem Status.counts_zero (k : StatusKind) : (Status.zero k).counts = 0 := by
  cases k <;> rfl

@[simp] theorem Status.changes_zero (k : StatusKind) : (Status.zero k).changes = 0 := by
  cases k <;> rfl

/-! ## Arithmetic without overflow -/

theorem toInt_sub_of_range {a b : Int32} (h1 : -2 ^ 31 ≤ a.toInt - b.toInt)
    (h2 : a.toInt - b.toInt < 2 ^ 31) : (a - b).toInt = a.toInt - b.toInt := by
  rw [Int32.toInt_sub]
  exact Int.bmod_eq_of_le (by norm_num; omega) (by norm_num; omega)

theorem toInt_add_of_range {a b : Int32} (h1 : -2 ^ 31 ≤ a.toInt + b.toInt)
    (h2 : a.toInt + b.toInt < 2 ^ 31) : (a + b).toInt = a.toInt + b.toInt := by
  rw [Int32.toInt_add]
  exact Int.bmod_eq_of_le (by norm_num; omega) (by norm_num; omega)

/-- One count of a status: the change moves with the count when the count and
its base are in range. -/
theorem toInt_add_sub {now count change : Int32} (hn : 0 ≤ now.toInt)
    (hc : 0 ≤ count.toInt) (hb : 0 ≤ count.toInt - change.toInt)
    (hb' : count.toInt - change.toInt < 2 ^ 31) :
    (change + (now - count)).toInt = change.toInt + (now.toInt - count.toInt) := by
  have h1 : now.toInt < 2 ^ 31 := now.toInt_lt
  have h2 : count.toInt < 2 ^ 31 := count.toInt_lt
  have hsub : (now - count).toInt = now.toInt - count.toInt :=
    toInt_sub_of_range (by omega) (by omega)
  rw [toInt_add_of_range (by omega) (by omega), hsub]

theorem toSizeT_of_nonneg {x : Int32} (h : 0 ≤ x.toInt) : (toSizeT x : ℤ) = x.toInt := by
  have h1 : x.toInt < 2 ^ 31 := x.toInt_lt
  have h2 : x.toInt % 2 ^ 64 = x.toInt := Int.emod_eq_of_lt h (by omega)
  rw [toSizeT, h2]
  omega

theorem addSizeT_of_lt {a b : Nat} (h : a + b < 2 ^ 64) : addSizeT a b = a + b :=
  Nat.mod_eq_of_lt h

theorem subSizeT_of_le {a b : Nat} (h : b ≤ a) (ha : a < 2 ^ 64) : subSizeT a b = a - b := by
  have h1 : ((a : ℤ) - b) % 2 ^ 64 = a - b := Int.emod_eq_of_lt (by omega) (by omega)
  rw [subSizeT, h1]
  omega

/-! ## `addChanges` is an observation -/

@[simp] theorem counts_addChanges {k : StatusKind} (stored now : Status k) :
    (addChanges stored now).counts = now.counts := by
  cases k <;> rfl

/-- Moving a stored status to a newer one observes the newer counts, as long as
the counts and the base are in range. -/
theorem ledger_addChanges {k : StatusKind} {stored now : Status k}
    (hn : InRange now.counts) (hs : InRange stored.counts) (hb : InRange stored.ledger.base) :
    (addChanges stored now).ledger = stored.ledger.observe now.counts := by
  obtain ⟨⟨hn1, -⟩, hn2, -⟩ := hn
  obtain ⟨⟨hs1, -⟩, hs2, -⟩ := hs
  obtain ⟨⟨hb1, hb1'⟩, hb2, hb2'⟩ := hb
  have hchange : (addChanges stored now).changes =
      stored.changes + (now.counts - stored.counts) := by
    cases k with
    | matched => exact Prod.ext (toInt_add_sub hn1 hs1 hb1 hb1') (toInt_add_sub hn2 hs2 hb2 hb2')
    | livelinessChanged =>
        exact Prod.ext (toInt_add_sub hn1 hs1 hb1 hb1') (toInt_add_sub hn2 hs2 hb2 hb2')
    | count => exact Prod.ext (toInt_add_sub hn1 hs1 hb1 hb1') (by rfl)
    | deadline => exact Prod.ext (toInt_add_sub hn1 hs1 hb1 hb1') (by rfl)
    | incompatibleQos => exact Prod.ext (toInt_add_sub hn1 hs1 hb1 hb1') (by rfl)
  rw [Status.ledger, Ledger.observe, counts_addChanges, hchange]
  rfl

end RmwZzdds.Event
