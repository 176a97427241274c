import RmwZzdds.Event.Interleaving

/-!
# Taken status changes are conserved

Four readers advance a stored status, the zzdds listener, `rmw_take_event`, the
matched count and the initialization of an event, and only a take clears it.
As a ledger, the stored status is observed by the first and taken by the
second, so the changes output by all takes add up to the count at the last take
(`Ledger.Balanced`) in every reachable state.

*Counts.*  The stored counts are those that the latest successful getter has
returned (`counts_run`), whichever reader called it.  So the changes taken and
the change held make up what zzdds has last said, and none is lost.

*Assumption.*  `GettersNewer` is what is assumed of zzdds: a successful getter
returns counts at least as new as the one before, totals never go back, and
every count is below `2^31`.  The one before is the stored status.
-/

namespace RmwZzdds.Event

/-- A status that a getter may return after `stored`. -/
def NotOlder {k : StatusKind} (stored now : Status k) : Prop :=
  InRange now.counts ∧ (k ≠ .livelinessChanged → stored.counts.1 ≤ now.counts.1)

instance {k : StatusKind} (stored now : Status k) : Decidable (NotOlder stored now) :=
  inferInstanceAs (Decidable (_ ∧ _))

/-- Every successful getter of a step returns counts at least as new as the
previous getter. -/
def GettersNewer (s : Endpoint) (a : Action) : Prop :=
  a.Reads fun type got => ∀ now ∈ got, NotOlder (s.slots type).stored now

instance (s : Endpoint) (a : Action) : Decidable (GettersNewer s a) :=
  inferInstanceAs (Decidable (a.Reads _))

/-! ## The invariant -/

/-- The stored status is balanced against the changes taken, its counts are in
range and its total has not gone back since the last take. -/
structure Conserved {k : StatusKind} (stored : Status k) (taken : ℤ × ℤ) : Prop where
  balanced : stored.ledger.Balanced taken
  inRange : InRange stored.counts
  baseInRange : InRange taken
  forward : k ≠ .livelinessChanged → taken.1 ≤ stored.counts.1

namespace Conserved

variable {k : StatusKind} {stored now : Status k} {taken : ℤ × ℤ}

theorem create (k : StatusKind) : Conserved (Status.zero k) 0 where
  balanced := by simp [Ledger.Balanced, Ledger.base]
  inRange := by rw [Status.counts_zero]; exact inRange_zero
  baseInRange := inRange_zero
  forward _ := by rw [Status.counts_zero]

theorem ledger_addChanges (h : Conserved stored taken) (hnow : NotOlder stored now) :
    (addChanges stored now).ledger = stored.ledger.observe now.counts := by
  refine Event.ledger_addChanges hnow.1 h.inRange ?_
  rw [h.balanced]
  exact h.baseInRange

/-- Reading a newer status keeps the balance. -/
theorem read (h : Conserved stored taken) (hnow : NotOlder stored now) :
    Conserved (addChanges stored now) taken where
  balanced := by
    rw [h.ledger_addChanges hnow]
    exact h.balanced.observe _
  inRange := by
    rw [counts_addChanges]
    exact hnow.1
  baseInRange := h.baseInRange
  forward hk := by
    rw [counts_addChanges]
    exact le_trans (h.forward hk) (hnow.2 hk)

theorem readStatus {slot : EventSlot k} (h : Conserved slot.stored taken)
    {got : Option (Status k)} (hgot : ∀ now ∈ got, NotOlder slot.stored now) :
    Conserved (slot.readStatus got).1.stored taken := by
  cases got with
  | none => exact h
  | some now => exact h.read (hgot now rfl)

theorem total (h : Conserved stored taken) : taken + stored.changes = stored.counts :=
  h.balanced.total

theorem changes_nonneg (h : Conserved stored taken) (hk : k ≠ .livelinessChanged) :
    0 ≤ stored.changes.1 := by
  have h1 : taken.1 + stored.changes.1 = stored.counts.1 := congrArg Prod.fst h.total
  have h2 := h.forward hk
  omega

end Conserved

/-- A take hands out exactly the change held, and leaves none. -/
theorem Conserved.take {type : EventType} {stored : Status type.kind} {taken : ℤ × ℤ}
    (h : Conserved stored taken) :
    Conserved (takeStatus type stored).2 (taken + (takeStatus type stored).1.changes) := by
  have hcounts : (takeStatus type stored).2.counts = stored.counts := by
    rw [← Status.ledger_count, takeStatus_ledger, Ledger.count_take, Status.ledger_count]
  have hsum : taken + (takeStatus type stored).1.changes = stored.counts := by
    rw [takeStatus_changes type h.changes_nonneg, h.total]
  constructor
  · rw [takeStatus_ledger, takeStatus_changes type h.changes_nonneg]
    exact h.balanced.take
  · rw [hcounts]
    exact h.inRange
  · rw [hsum]
    exact h.inRange
  · intro _
    rw [hsum, hcounts]

/-- One step keeps the stored status of every type balanced. -/
theorem conserved_step (type : EventType) {s s' : Endpoint} {a : Action}
    (h : Conserved (s.slots type).stored (s.taken type)) (hP : GettersNewer s a)
    (hs : s.next a = some s') : Conserved (s'.slots type).stored (s'.taken type) := by
  cases Endpoint.slotStep_of_next type hs with
  | idle _ hslot htaken =>
      rw [hslot, htaken]
      exact h
  | listener _ hslot htaken =>
      rw [hslot, htaken, EventSlot.stored_listener]
      exact h.readStatus hP
  | countMatched _ hslot htaken =>
      rw [hslot, htaken, EventSlot.stored_readMatchedCount]
      exact h.readStatus hP
  | @takeFailed got _ _ hnone hslot htaken =>
      cases got with
      | none =>
          rw [hslot, htaken]
          exact h
      | some now => cases hnone
  | @take got info _ _ hsome hslot htaken =>
      cases got with
      | none => cases hsome
      | some now =>
          cases hsome
          rw [hslot, htaken]
          exact (h.read (hP now rfl)).take
  | createGuard hguard hslot htaken =>
      rw [hslot, htaken, EventSlot.stored_createGuard _ hguard]
      exact h
  | finishInit _ hslot htaken =>
      rw [hslot, htaken, EventSlot.stored_finishInitialize]
      exact h.readStatus hP
  | setCallback hslot htaken =>
      rw [hslot, htaken]
      exact h
  | afterSetCallback _ hslot htaken =>
      rw [hslot, htaken, EventSlot.stored_afterSetCallback]
      exact h

theorem conserved_reachable {kind : EndpointKind} {s : Endpoint}
    (h : ((Endpoint.system kind).restrict GettersNewer).Reachable s) (type : EventType) :
    Conserved (s.slots type).stored (s.taken type) := by
  refine h.invariant (I := fun s => Conserved (s.slots type).stored (s.taken type)) ?_ ?_
  · rintro s rfl
    exact Conserved.create type.kind
  · rintro s a s' ih ⟨hP, hs⟩
    exact conserved_step type ih hP hs

/-! ## The latest getter -/

/-- The counts that a getter has returned for the type in a step. -/
def Action.gotCounts (type : EventType) : Action → Option (ℤ × ℤ)
  | .listener type' _ got => if type' = type then got.map Status.counts else none
  | .takeEvent type' got => if type' = type then got.map Status.counts else none
  | .countMatched type' got => if type' = type then got.map Status.counts else none
  | .finishInit _ type' got => if type' = type then got.map Status.counts else none
  | _ => none

/-- The counts of the latest successful getter, which are zero before the first. -/
def latestCounts (type : EventType) (as : List Action) : ℤ × ℤ :=
  (as.filterMap (Action.gotCounts type)).getLast?.getD 0

theorem latestCounts_concat (type : EventType) (as : List Action) (a : Action) :
    latestCounts type (as ++ [a]) = (a.gotCounts type).getD (latestCounts type as) := by
  cases hgot : a.gotCounts type <;>
    simp [latestCounts, List.filterMap_append, hgot]

theorem Action.gotCounts_of_reader {type : EventType} {a : Action} (h : a.reader ≠ some type) :
    a.gotCounts type = none := by
  cases a with
  | listener type' status got => exact if_neg fun heq => h (congrArg some heq)
  | takeEvent type' got => exact if_neg fun heq => h (congrArg some heq)
  | countMatched type' got => exact if_neg fun heq => h (congrArg some heq)
  | finishInit id type' got => exact if_neg fun heq => h (congrArg some heq)
  | _ => rfl

theorem EventSlot.counts_readStatus {k : StatusKind} (slot : EventSlot k)
    (got : Option (Status k)) :
    (slot.readStatus got).1.stored.counts = (got.map Status.counts).getD slot.stored.counts := by
  cases got with
  | none => rfl
  | some now => exact counts_addChanges slot.stored now

theorem EventSlot.counts_takeEvent (type : EventType) (slot : EventSlot type.kind)
    (got : Option (Status type.kind)) :
    (slot.takeEvent type got).1.stored.counts =
      (got.map Status.counts).getD slot.stored.counts := by
  cases got with
  | none => rfl
  | some now =>
      rw [EventSlot.takeEvent_some, EventSlot.stored_setTriggerValue, ← Status.ledger_count,
        takeStatus_ledger, Ledger.count_take, Status.ledger_count]
      exact counts_addChanges slot.stored now

/-- A successful getter leaves its counts, and nothing else changes the counts. -/
theorem counts_step (type : EventType) {s s' : Endpoint} {a : Action} (hs : s.next a = some s') :
    (s'.slots type).stored.counts = (a.gotCounts type).getD (s.slots type).stored.counts := by
  cases Endpoint.slotStep_of_next type hs with
  | idle hreader hslot _ _ _ =>
      rw [hslot, Action.gotCounts_of_reader hreader]
      rfl
  | listener _ hslot _ _ _ =>
      rw [hslot, EventSlot.stored_listener, EventSlot.counts_readStatus, Action.gotCounts, if_pos rfl]
  | countMatched _ hslot _ _ _ =>
      rw [hslot, EventSlot.stored_readMatchedCount, EventSlot.counts_readStatus, Action.gotCounts,
        if_pos rfl]
  | takeFailed _ _ hslot _ _ _ =>
      rw [hslot, EventSlot.counts_takeEvent, Action.gotCounts, if_pos rfl]
  | take _ _ hslot _ _ _ =>
      rw [hslot, EventSlot.counts_takeEvent, Action.gotCounts, if_pos rfl]
  | createGuard hguard hslot _ _ _ =>
      rw [hslot, EventSlot.stored_createGuard _ hguard]
      rfl
  | finishInit _ hslot _ _ _ =>
      rw [hslot, EventSlot.stored_finishInitialize, EventSlot.counts_readStatus, Action.gotCounts,
        if_pos rfl]
  | setCallback hslot _ _ _ =>
      rw [hslot]
      rfl
  | afterSetCallback _ hslot _ _ _ =>
      rw [hslot, EventSlot.stored_afterSetCallback]
      rfl

/-- The stored counts are those of the latest successful getter. -/
theorem counts_run {kind : EndpointKind} {as : List Action} {s : Endpoint}
    (h : ((Endpoint.system kind).restrict GettersNewer).Run (Endpoint.create kind) as s)
    (type : EventType) : (s.slots type).stored.counts = latestCounts type as := by
  refine h.history (I := fun as s => (s.slots type).stored.counts = latestCounts type as) ?_ ?_
  · exact Status.counts_zero type.kind
  · intro bs t b t' _ ih hstep
    rw [counts_step type hstep.2, latestCounts_concat, ih]

/-! ## Conservation -/

/-- What a take whose getter succeeds stores and outputs. -/
theorem Endpoint.next_takeEvent {type : EventType} {s s' : Endpoint} {now : Status type.kind}
    (hs : s.next (.takeEvent type (some now)) = some s') :
    (s'.slots type).stored = (takeStatus type (addChanges (s.slots type).stored now)).2 ∧
      s'.taken type = s.taken type +
        (takeStatus type (addChanges (s.slots type).stored now)).1.changes := by
  simp only [Endpoint.next, Option.ite_none_right_eq_some, Option.some.injEq] at hs
  obtain ⟨-, rfl⟩ := hs
  constructor <;> simp [recordTake, withSlot, EventSlot.takeEvent_some]

/-- A take whose getter succeeds reports the counts of the getter, which are all changes
ever output, and leaves no change. -/
theorem takeEvent_reports {type : EventType} {s s' : Endpoint} {now : Status type.kind}
    (h : Conserved (s.slots type).stored (s.taken type))
    (hnow : NotOlder (s.slots type).stored now)
    (hs : s.next (.takeEvent type (some now)) = some s') :
    ∃ info, ((s.slots type).takeEvent type (some now)).2 = some info ∧
      info.counts = now.counts ∧ s'.taken type = now.counts ∧
      s'.taken type = s.taken type + info.changes ∧ (s'.slots type).stored.changes = 0 := by
  obtain ⟨hstored, htaken⟩ := Endpoint.next_takeEvent hs
  have hread := h.read hnow
  refine ⟨(takeStatus type (addChanges (s.slots type).stored now)).1, ?_, ?_, ?_, htaken, ?_⟩
  · rw [EventSlot.takeEvent_some]
  · rw [takeStatus_counts type hread.inRange, counts_addChanges]
  · rw [htaken, takeStatus_changes type hread.changes_nonneg, hread.total, counts_addChanges]
  · rw [hstored, ← Status.ledger_change, takeStatus_ledger]
    rfl

/-- In every run the changes output by all successful takes and the change still
held make up the stored count, which is the one that the latest successful
getter has returned: every one leaves its counts.  A take whose getter succeeds
reports the counts of the getter, equal to all changes ever output with its own,
and leaves no change; a take whose getter fails changes nothing. -/
theorem taken_changes_conserved {kind : EndpointKind} {as : List Action} {s : Endpoint}
    (h : ((Endpoint.system kind).restrict GettersNewer).Run (Endpoint.create kind) as s)
    (type : EventType) :
    s.taken type + (s.slots type).stored.changes = (s.slots type).stored.counts ∧
      (s.slots type).stored.counts = latestCounts type as ∧
      (∀ a s' counts, s.next a = some s' → a.gotCounts type = some counts →
        (s'.slots type).stored.counts = counts) ∧
      (∀ now s', GettersNewer s (.takeEvent type (some now)) →
        s.next (.takeEvent type (some now)) = some s' →
        ∃ info, ((s.slots type).takeEvent type (some now)).2 = some info ∧
          info.counts = now.counts ∧ s'.taken type = now.counts ∧
          s'.taken type = s.taken type + info.changes ∧ (s'.slots type).stored.changes = 0) ∧
      ∀ s', s.next (.takeEvent type none) = some s' → s' = s := by
  have hc := conserved_reachable (h.reachable (.init rfl)) type
  refine ⟨hc.total, counts_run h type, ?_, ?_, ?_⟩
  · intro a s' counts hs hgot
    rw [counts_step type hs, hgot]
    rfl
  · exact fun now s' hP hs => takeEvent_reports hc (hP now rfl) hs
  · intro s' hs
    simp only [Endpoint.next, Option.ite_none_right_eq_some, Option.some.injEq] at hs
    obtain ⟨-, rfl⟩ := hs
    simp [EventSlot.takeEvent_none, Endpoint.recordTake, Endpoint.withSlot]

/-- The steps of a call of `initialize_event` that succeeds. -/
def initialization (type : EventType) (got : Option (Status type.kind)) : List Action :=
  [.beginInit 0 type true, .computeMask 0, .install 0 true, .finishInit 0 type got]

/-- A subscription loses samples before its event is initialized, before a take and
after it, and is matched twice. -/
def lossActions : List Action :=
  initialization .messageLost (some (CountStatus.mk 2 2)) ++
    [.listener .messageLost (CountStatus.mk 3 1) (some (CountStatus.mk 5 3))] ++
    initialization .subscriptionMatched (some (MatchedStatus.mk 1 1 1 1 7)) ++
    [.takeEvent .messageLost (some (CountStatus.mk 6 1)),
      .takeEvent .subscriptionMatched none,
      .takeEvent .subscriptionMatched (some (MatchedStatus.mk 1 0 1 0 7)),
      .countMatched .subscriptionMatched (some (MatchedStatus.mk 2 1 2 1 8)),
      .listener .messageLost (CountStatus.mk 9 3) (some (CountStatus.mk 9 3))]

/-- What is taken and what is held after these steps make up the counts of the
latest getters. -/
theorem taken_changes_conserved_lost : ∃ s,
    ((Endpoint.system .subscription).restrict GettersNewer).Run (Endpoint.create .subscription)
      lossActions s ∧
    (s.taken .messageLost = (6, 0) ∧ (s.slots .messageLost).stored.changes = (3, 0) ∧
      (s.slots .messageLost).stored.counts = (9, 0)) ∧
    s.taken .subscriptionMatched = (1, 1) ∧
      (s.slots .subscriptionMatched).stored.changes = (1, 1) ∧
      (s.slots .subscriptionMatched).stored.counts = (2, 2) := by
  have hexec : (Transition.exec (Transition.filterNext GettersNewer Endpoint.next)
      (Endpoint.create .subscription) lossActions).map (fun s =>
        (s.taken .messageLost, s.taken .subscriptionMatched)) = some ((6, 0), (1, 1)) := by
    decide +kernel
  obtain ⟨s, hs, htaken⟩ := Option.map_eq_some_iff.mp hexec
  obtain ⟨hlost, hmatched⟩ := Prod.mk.inj htaken
  have hrun : ((Endpoint.system .subscription).restrict GettersNewer).Run
      (Endpoint.create .subscription) lossActions s :=
    Transition.run_restrict_of_exec_filterNext hs
  obtain ⟨hsum, hcounts, -⟩ := taken_changes_conserved hrun .messageLost
  obtain ⟨hsum', hcounts', -⟩ := taken_changes_conserved hrun .subscriptionMatched
  have hlatest : latestCounts .messageLost lossActions = (9, 0) := by decide
  have hlatest' : latestCounts .subscriptionMatched lossActions = (2, 2) := by decide
  rw [hcounts, hlost, hlatest] at hsum
  rw [hcounts', hmatched, hlatest'] at hsum'
  refine ⟨s, hrun, ⟨hlost, ?_, hcounts.trans hlatest⟩, hmatched, ?_, hcounts'.trans hlatest'⟩
  · rw [eq_sub_of_add_eq' hsum]
    decide
  · rw [eq_sub_of_add_eq' hsum']
    decide

end RmwZzdds.Event
