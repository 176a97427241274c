import RmwZzdds.Event.Interleaving

/-!
# Counted and reported events

After reading its status, a critical section either counts nothing or goes
through `countEventsLocked`.  `counted` says that once, for the listeners and
for the matched count: the count grows by the events added, the guard is
triggered if there are any, and the count reported grows by what the
notification tells.

*Triggering.*  `Triggered` is what every critical section keeps, whatever the
getters return: the guard's trigger value says whether the count is nonzero,
nothing is counted before the guard exists, and no more is reported than was
counted.  So the subtraction in `afterSetCallback` never wraps.
-/

namespace RmwZzdds.Event

namespace EventSlot

variable {k : StatusKind} (slot : EventSlot k)

/-! ## Counting after a read -/

/-- Count the events `added`, if there are any. -/
def counted (added : Nat) : EventSlot k × Option Notification :=
  if added = 0 then (slot, none) else slot.countEventsLocked added

theorem onStatus_eq (got : Option (Status k)) (uncounted : EventSlot k → Nat) :
    slot.onStatus got uncounted =
      (slot.readStatus got).1.counted (uncounted (slot.readStatus got).1) := rfl

/-- Every listener but the one of liveliness changed counts the uncounted
events. -/
theorem listener_of_counted (hk : k ≠ .livelinessChanged) (status : Status k)
    (got : Option (Status k)) :
    slot.listener status got =
      (slot.readStatus got).1.counted (slot.readStatus got).1.uncountedEvents := by
  cases k with
  | livelinessChanged => exact absurd rfl hk
  | matched => rfl
  | count => rfl
  | deadline => rfl
  | incompatibleQos => rfl

theorem listener_counted (status : Status k) (got : Option (Status k)) :
    ∃ added, slot.listener status got = (slot.readStatus got).1.counted added := by
  cases k with
  | livelinessChanged => exact ⟨_, slot.onStatus_eq got (livelinessChangedEvents status)⟩
  | matched => exact ⟨_, rfl⟩
  | count => exact ⟨_, rfl⟩
  | deadline => exact ⟨_, rfl⟩
  | incompatibleQos => exact ⟨_, rfl⟩

/-- Before the event is initialized the matched count counts nothing. -/
theorem readMatchedCount_unguarded (now : Status k) (hguard : slot.guard = none) :
    (slot.readMatchedCount (some now)).1 = (slot.readStatus (some now)).1 ∧
      (slot.readMatchedCount (some now)).2.2 = none := by
  simp [readMatchedCount, hguard]

/-- With a guard the matched count counts the uncounted events, as a listener
does. -/
theorem readMatchedCount_guarded (now : Status k) (hguard : slot.guard ≠ none) :
    ((slot.readMatchedCount (some now)).1, (slot.readMatchedCount (some now)).2.2) =
      (slot.readStatus (some now)).1.counted
        (slot.readStatus (some now)).1.uncountedEvents := by
  have hsome : (slot.readStatus (some now)).1.guard ≠ none := hguard
  obtain ⟨read, hread⟩ : ∃ read, slot.readStatus (some now) = (read, true) := ⟨_, rfl⟩
  rw [hread] at hsome ⊢
  simp only [readMatchedCount, hread, counted, Bool.not_true, Bool.false_eq_true, if_false,
    if_neg hsome]
  split <;> rfl

theorem readMatchedCount_counted (got : Option (Status k)) :
    ∃ added, (slot.guard = none → added = 0) ∧
      ((slot.readMatchedCount got).1, (slot.readMatchedCount got).2.2) =
        (slot.readStatus got).1.counted added := by
  cases got with
  | none => exact ⟨0, fun _ => rfl, rfl⟩
  | some now =>
      by_cases hguard : slot.guard = none
      · obtain ⟨h1, h2⟩ := slot.readMatchedCount_unguarded now hguard
        exact ⟨0, fun _ => rfl, Prod.ext h1 h2⟩
      · exact ⟨_, fun h => absurd h hguard, slot.readMatchedCount_guarded now hguard⟩

/-! ## What counting changes -/

@[simp] theorem readStatus_count (got : Option (Status k)) :
    (slot.readStatus got).1.count = slot.count := by
  cases got <;> rfl

@[simp] theorem readStatus_reported (got : Option (Status k)) :
    (slot.readStatus got).1.reported = slot.reported := by
  cases got <;> rfl

@[simp] theorem readStatus_guard (got : Option (Status k)) :
    (slot.readStatus got).1.guard = slot.guard := by
  cases got <;> rfl

@[simp] theorem readStatus_callback (got : Option (Status k)) :
    (slot.readStatus got).1.callback = slot.callback := by
  cases got <;> rfl

@[simp] theorem counted_count (added : Nat) :
    (slot.counted added).1.count = slot.count + added := by
  unfold counted countEventsLocked
  split
  · simp [*]
  · split <;> rfl

@[simp] theorem counted_callback (added : Nat) :
    (slot.counted added).1.callback = slot.callback := by
  unfold counted countEventsLocked
  split
  · rfl
  · split
    · exact ‹slot.callback = none›.symm ▸ rfl
    · exact ‹slot.callback = some _›.symm ▸ rfl

@[simp] theorem counted_reported (added : Nat) :
    (slot.counted added).1.reported = slot.reported + events (slot.counted added).2 := by
  unfold counted countEventsLocked
  split
  · rfl
  · split <;> rfl

/-- A registered callback is told about all events added. -/
theorem events_counted {added : Nat} (h : slot.callback ≠ none) :
    events (slot.counted added).2 = added := by
  unfold counted countEventsLocked
  split
  · simp [events, *]
  · split
    · exact absurd ‹slot.callback = none› h
    · rfl

theorem events_counted_le (added : Nat) : events (slot.counted added).2 ≤ added := by
  unfold counted countEventsLocked
  split
  · exact Nat.zero_le _
  · split
    · exact Nat.zero_le _
    · exact le_rfl

@[simp] theorem counted_guard_eq_none (added : Nat) :
    (slot.counted added).1.guard = none ↔ slot.guard = none := by
  unfold counted countEventsLocked
  split
  · rfl
  · split <;> simp [setTriggerValue]

theorem counted_guard {added : Nat} (h : added ≠ 0) :
    (slot.counted added).1.guard = slot.guard.map fun _ => true := by
  unfold counted countEventsLocked
  rw [if_neg h]
  split <;> rfl

theorem counted_zero : slot.counted 0 = (slot, none) := rfl

theorem finishInitialize_count (got : Option (Status k)) :
    (slot.finishInitialize got).count =
      if slot.count = 0 then untakenEvents (slot.readStatus got).1.stored else slot.count := by
  simp only [finishInitialize, readStatus_count]
  split <;> simp [setTriggerValue]

@[simp] theorem finishInitialize_reported (got : Option (Status k)) :
    (slot.finishInitialize got).reported = slot.reported := by
  simp only [finishInitialize, readStatus_count]
  split <;> simp [setTriggerValue]

@[simp] theorem finishInitialize_callback (got : Option (Status k)) :
    (slot.finishInitialize got).callback = slot.callback := by
  simp only [finishInitialize, readStatus_count]
  split <;> simp [setTriggerValue]

theorem finishInitialize_guard (got : Option (Status k)) :
    (slot.finishInitialize got).guard =
      slot.guard.map fun _ => (slot.finishInitialize got).count != 0 := by
  simp only [finishInitialize, readStatus_count]
  split <;> simp [setTriggerValue]

/-! ## Triggered events -/

/-- The guard's trigger value says whether events are counted, and no more is
reported than counted. -/
structure Triggered : Prop where
  guard : ∀ b ∈ slot.guard, b = true ↔ slot.count ≠ 0
  unguarded : slot.guard = none → slot.count = 0
  reported : slot.reported ≤ slot.count

end EventSlot

namespace EventSlot.Triggered

variable {k : StatusKind} {slot : EventSlot k}

theorem create (k : StatusKind) : (EventSlot.create k).Triggered where
  guard b h := by cases h
  unguarded _ := rfl
  reported := le_rfl

theorem readStatus (h : slot.Triggered) (got : Option (Status k)) :
    (slot.readStatus got).1.Triggered where
  guard := by simpa using h.guard
  unguarded := by simpa using h.unguarded
  reported := by simpa using h.reported

theorem counted (h : slot.Triggered) {added : Nat} (hguard : slot.guard = none → added = 0) :
    (slot.counted added).1.Triggered := by
  by_cases hadded : added = 0
  · subst hadded
    rw [counted_zero]
    exact h
  · refine ⟨?_, ?_, ?_⟩
    · intro b hb
      rw [slot.counted_guard hadded, Option.mem_def, Option.map_eq_some_iff] at hb
      obtain ⟨-, -, rfl⟩ := hb
      rw [counted_count]
      exact iff_of_true rfl (by omega)
    · intro hnone
      exact absurd (hguard ((slot.counted_guard_eq_none added).mp hnone)) hadded
    · rw [counted_reported, counted_count]
      exact Nat.add_le_add h.reported (slot.events_counted_le added)

theorem setCallback (h : slot.Triggered) (callback : Option Callback) (userData : UserData) :
    (slot.setCallback callback userData).Triggered := ⟨h.guard, h.unguarded, h.reported⟩

theorem createGuard (h : slot.Triggered) {created : Bool} {slot' : EventSlot k}
    (hslot : slot.createGuard created = some slot') : slot'.Triggered := by
  unfold EventSlot.createGuard at hslot
  split at hslot
  · cases hslot
    exact h
  next hnone =>
    split at hslot <;> cases hslot
    have hcount := h.unguarded hnone
    refine ⟨?_, ?_, h.reported⟩
    · intro b hb
      cases hb
      simp [hcount]
    · intro hguard
      cases hguard

theorem finishInitialize (h : slot.Triggered) (hguard : slot.guard ≠ none)
    (got : Option (Status k)) : (slot.finishInitialize got).Triggered := by
  refine ⟨?_, ?_, ?_⟩
  · intro b hb
    rw [slot.finishInitialize_guard, Option.mem_def, Option.map_eq_some_iff] at hb
    obtain ⟨-, -, rfl⟩ := hb
    exact bne_iff_ne
  · intro hnone
    rw [slot.finishInitialize_guard, Option.map_eq_none_iff] at hnone
    exact absurd hnone hguard
  · have hreported := h.reported
    rw [finishInitialize_reported, finishInitialize_count]
    split <;> omega

/-- With no more reported than counted, the events left to tell are the
difference. -/
theorem unreported (h : slot.Triggered) (hcount : slot.count < 2 ^ 64) :
    subSizeT slot.count slot.reported = slot.count - slot.reported :=
  subSizeT_of_le h.reported hcount

theorem afterSetCallback (h : slot.Triggered) : slot.afterSetCallback.1.Triggered := by
  unfold EventSlot.afterSetCallback
  split
  · exact h
  · exact ⟨h.guard, h.unguarded, le_rfl⟩

theorem takeEvent {type : EventType} {slot : EventSlot type.kind} (h : slot.Triggered)
    (got : Option (Status type.kind)) : (slot.takeEvent type got).1.Triggered := by
  cases got with
  | none => exact h
  | some now =>
      rw [EventSlot.takeEvent_some]
      refine ⟨?_, fun _ => rfl, le_rfl⟩
      intro b hb
      simp only [EventSlot.setTriggerValue, Option.mem_def, Option.map_eq_some_iff] at hb
      obtain ⟨-, -, rfl⟩ := hb
      simp [EventSlot.setTriggerValue]

end EventSlot.Triggered

end RmwZzdds.Event
