import RmwZzdds.Event.Zzdds

/-!
# The event count

The count of an event moves in five places: its listener, the matched count,
the initialization, a take and nothing else.  In every run the count stays
between the count reported and the untaken events of the stored status, and
the guard says whether it is zero (`Bounded`).

*Exactness.*  Once an event is initialized, its count should be the number of
changes since the last take, whenever no listener call is owed (`Exact`).  Every
listener call makes it so, since it counts up to the untaken events of a status
just read.  A change owes a call, as long as the initializations do not overlap
(`Observed`).

*The gap.*  `finishInitialize` counts earlier changes only if nothing is counted
yet.  A matched count read after the guard exists and before the listener is
installed counts what it finds, and a change after that read owes no call and
is never counted (`event_count_misses_change`).  `CountsAll` is the condition on
the last critical section under which this does not happen.
-/

namespace RmwZzdds.Event

/-! ## Triggered events in a run -/

namespace Endpoint

theorem triggered_step {type : EventType} {s s' : Endpoint} {a : Action} (hguarded : Guarded s)
    (h : (s.slots type).Triggered) (hs : s.next a = some s') : (s'.slots type).Triggered := by
  cases slotStep_of_next type hs with
  | idle _ hslot =>
      rw [hslot]
      exact h
  | @listener status got _ hguard hslot =>
      obtain ⟨added, hadded⟩ := (s.slots type).listener_counted status got
      rw [hslot, hadded]
      exact (h.readStatus got).counted fun hnone => absurd (by simpa using hnone) hguard
  | @countMatched got _ _ hslot =>
      obtain ⟨added, hzero, hadded⟩ := (s.slots type).readMatchedCount_counted got
      rw [hslot, congrArg Prod.fst hadded]
      exact (h.readStatus got).counted fun hnone => hzero (by simpa using hnone)
  | takeFailed _ _ hslot =>
      rw [hslot]
      exact h.takeEvent _
  | take _ _ hslot =>
      rw [hslot]
      exact h.takeEvent _
  | createGuard hguard hslot =>
      rw [hslot]
      exact h.createGuard hguard
  | finishInit hid hslot =>
      rw [hslot]
      exact h.finishInitialize (hguarded.started _ _ _ hid) _
  | setCallback hslot =>
      rw [hslot]
      exact h.setCallback ..
  | afterSetCallback _ hslot =>
      rw [hslot]
      exact h.afterSetCallback

theorem triggered_reachable {kind : EndpointKind} {s : Endpoint} (h : (system kind).Reachable s)
    (type : EventType) : (s.slots type).Triggered := by
  refine h.invariant_of (I := fun s => (s.slots type).Triggered) (J := Guarded)
    (fun s hs => guarded_reachable hs) ?_ ?_
  · rintro s rfl
    exact .create type.kind
  · intro s a s' hguarded ih hs
    exact triggered_step hguarded ih hs

end Endpoint

/-! ## Counts after a critical section -/

namespace EventSlot

variable {k : StatusKind} (slot : EventSlot k)

/-- The subtraction in `uncountedEvents` does not wrap. -/
theorem uncountedEvents_eq : slot.uncountedEvents = untakenEvents slot.stored - slot.count := by
  rw [uncountedEvents]
  split
  next hlt => exact subSizeT_of_le (by omega) (untakenEvents_lt _)
  next => omega

/-- Counting the uncounted events brings the count up to the untaken ones. -/
theorem counted_uncountedEvents_count :
    (slot.counted slot.uncountedEvents).1.count = max slot.count (untakenEvents slot.stored) := by
  rw [counted_count, uncountedEvents_eq]
  omega

theorem listener_count (hk : k ≠ .livelinessChanged) (status : Status k)
    (got : Option (Status k)) :
    (slot.listener status got).1.count =
      max slot.count (untakenEvents (slot.readStatus got).1.stored) := by
  rw [listener_of_counted _ hk, counted_uncountedEvents_count, readStatus_count]

theorem readMatchedCount_count (now : Status k) (hguard : slot.guard ≠ none) :
    (slot.readMatchedCount (some now)).1.count =
      max slot.count (untakenEvents (addChanges slot.stored now)) := by
  rw [congrArg Prod.fst (slot.readMatchedCount_guarded now hguard),
    counted_uncountedEvents_count, readStatus_count]
  rfl

theorem createGuard_count {slot slot' : EventSlot k} {created : Bool}
    (h : slot.createGuard created = some slot') : slot'.count = slot.count := by
  unfold createGuard at h
  split at h
  · cases h
    rfl
  · split at h <;> cases h
    rfl

theorem afterSetCallback_count : slot.afterSetCallback.1.count = slot.count := by
  unfold afterSetCallback
  split <;> rfl

/-- No more is counted than there are untaken events. -/
def CountLe : Prop := slot.count ≤ untakenEvents slot.stored

end EventSlot

namespace World

/-! ## The bounds -/

/-- A status just read holds all changes since the last take. -/
theorem Tracked.untaken_read {w : World} {type : EventType} (h : Tracked w type)
    (hk : type.kind ≠ .livelinessChanged) {now : Status type.kind}
    (hnow : now.counts = w.counts type) :
    untakenEvents (addChanges (w.endpoint.slots type).stored now) = w.changes type := by
  have hcounts : (addChanges (w.endpoint.slots type).stored now).counts = w.counts type :=
    (counts_addChanges ..).trans hnow
  have hbase : Ahead type.kind (w.base type)
      (addChanges (w.endpoint.slots type).stored now).counts := by
    rw [hcounts]
    exact h.base.trans h.stored
  have h1 := untakenEvents_eq (h.conserved.read (h.notOlder hnow)) h.start hbase hk
  have h2 := h.changes hk
  rw [hcounts] at h1
  omega

theorem Tracked.untaken_le_read {w : World} {type : EventType} (h : Tracked w type)
    (hk : type.kind ≠ .livelinessChanged) {got : Option (Status type.kind)}
    (hgot : ∀ now ∈ got, now.counts = w.counts type) :
    untakenEvents (w.endpoint.slots type).stored ≤
      untakenEvents ((w.endpoint.slots type).readStatus got).1.stored := by
  cases got with
  | none => exact le_rfl
  | some now =>
      calc untakenEvents (w.endpoint.slots type).stored ≤ w.changes type := h.untaken_le hk
        _ = untakenEvents (addChanges (w.endpoint.slots type).stored now) :=
            (h.untaken_read hk (hgot now rfl)).symm

theorem countLe_next {w : World} {type : EventType} (ht : Tracked w type)
    (hk : type.kind ≠ .livelinessChanged) (h : (w.endpoint.slots type).CountLe) {a : Action}
    {e : Endpoint} (hgot : w.GettersCurrent a) (hs : w.endpoint.next a = some e) :
    (e.slots type).CountLe := by
  unfold EventSlot.CountLe at h ⊢
  cases Endpoint.slotStep_of_next type hs with
  | idle _ hslot =>
      rw [hslot]
      exact h
  | @listener status got _ _ hslot =>
      have hread := ht.untaken_le_read hk hgot
      rw [hslot, EventSlot.stored_listener, EventSlot.listener_count _ hk]
      omega
  | @countMatched got _ _ hslot =>
      rw [hslot]
      cases got with
      | none => exact h
      | some now =>
          have hread := ht.untaken_le_read hk hgot
          rw [EventSlot.stored_readMatchedCount]
          by_cases hguard : (w.endpoint.slots type).guard = none
          · rw [((w.endpoint.slots type).readMatchedCount_unguarded now hguard).1,
              EventSlot.readStatus_count]
            omega
          · rw [EventSlot.readMatchedCount_count _ now hguard]
            exact max_le (le_trans h hread) le_rfl
  | @takeFailed got _ _ hnone hslot =>
      cases got with
      | none =>
          rw [hslot]
          exact h
      | some now => cases hnone
  | @take got _ _ _ hsome hslot =>
      cases got with
      | none => cases hsome
      | some now =>
          rw [hslot, EventSlot.takeEvent_some]
          exact Nat.zero_le _
  | createGuard hguard hslot =>
      rw [hslot, EventSlot.stored_createGuard _ hguard, EventSlot.createGuard_count hguard]
      exact h
  | @finishInit id got _ _ hslot =>
      have hread := ht.untaken_le_read hk hgot
      rw [hslot, EventSlot.stored_finishInitialize, EventSlot.finishInitialize_count]
      split <;> omega
  | setCallback hslot =>
      rw [hslot]
      exact h
  | afterSetCallback _ hslot =>
      rw [hslot, EventSlot.stored_afterSetCallback, EventSlot.afterSetCallback_count]
      exact h

theorem countLe_reachable {kind : EndpointKind} {w : World} (h : (system kind).Reachable w)
    {type : EventType} (hk : type.kind ≠ .livelinessChanged) :
    (w.endpoint.slots type).CountLe := by
  refine h.invariant_of (I := fun w => (w.endpoint.slots type).CountLe)
    (J := fun w => Tracked w type) (fun w hw => tracked_reachable hw type) ?_ ?_
  · rintro w rfl
    exact Nat.zero_le _
  · intro w a w' ht ih hs
    cases worldStep_of_next hs with
    | change => exact ih
    | coalesce => exact ih
    | listener _ hgot he => exact countLe_next ht hk ih hgot he
    | act _ hgot he => exact countLe_next ht hk ih hgot he

/-- The counters of an event are in order and its guard says whether anything
is counted. -/
structure Bounded (w : World) (type : EventType) : Prop where
  reported_le : (w.endpoint.slots type).reported ≤ (w.endpoint.slots type).count
  count_le : (w.endpoint.slots type).count ≤ untakenEvents (w.endpoint.slots type).stored
  unreported : subSizeT (w.endpoint.slots type).count (w.endpoint.slots type).reported =
    (w.endpoint.slots type).count - (w.endpoint.slots type).reported
  uncounted : (w.endpoint.slots type).uncountedEvents =
    untakenEvents (w.endpoint.slots type).stored - (w.endpoint.slots type).count
  guard : ∀ b ∈ (w.endpoint.slots type).guard, b = true ↔ (w.endpoint.slots type).count ≠ 0

theorem bounded_reachable {kind : EndpointKind} {w : World} (h : (system kind).Reachable w)
    {type : EventType} (hk : type.kind ≠ .livelinessChanged) : Bounded w type := by
  have htriggered := Endpoint.triggered_reachable (endpoint_reachable h) type
  have hle : (w.endpoint.slots type).CountLe := countLe_reachable h hk
  have hlt := lt_of_le_of_lt hle (untakenEvents_lt _)
  exact ⟨htriggered.reported, hle, htriggered.unreported hlt,
    EventSlot.uncountedEvents_eq _, htriggered.guard⟩

/-! ## The listener of an initialized event -/

/-- The mask about to be installed is the one that would be computed now, and
the installed one has every event whose initialization has installed it. -/
structure Observed (s : Endpoint) : Prop where
  computed : ∀ id type mask, s.inits id = some (type, .maskComputed mask) →
    mask = listenerMask s.kind s.slots
  installed : ∀ id type, s.inits id = some (type, .installed) → eventMask type ⊆ s.installed
  initialized : ∀ type, s.initialized type = true → eventMask type ⊆ s.installed

/-- An initialization starts when no other one is in progress. -/
def Sequential (w : World) : WorldAction → Prop
  | .act (.beginInit ..) => ∀ id, w.endpoint.inits id = none
  | _ => True

theorem observed_create (kind : EndpointKind) : Observed (Endpoint.create kind) where
  computed id type mask h := by cases h
  installed id type h := by cases h
  initialized type h := by cases h

theorem eventMask_subset {s : Endpoint} (h : Endpoint.Guarded s) {type : EventType}
    (hguard : (s.slots type).guard ≠ none) :
    eventMask type ⊆ listenerMask s.kind s.slots := by
  intro status hmem
  exact (Endpoint.mem_listenerMask h status).mpr ⟨type, hguard, hmem⟩

theorem observed_next {s s' : Endpoint} {a : Action} (hguarded : Endpoint.Guarded s)
    (h : Observed s) (hseq : ∀ id type created, a = .beginInit id type created →
      ∀ id, s.inits id = none) (hs : s.next a = some s') : Observed s' := by
  cases Endpoint.initStep_of_next hs with
  | idle hguards hinits hinstalled hinitialized _ hkind =>
      refine ⟨?_, ?_, ?_⟩
      · intro id type mask hid
        rw [hinits] at hid
        rw [Endpoint.listenerMask_congr hkind hguards]
        exact h.computed id type mask hid
      · intro id type hid
        rw [hinits] at hid
        rw [hinstalled]
        exact h.installed id type hid
      · intro type htype
        rw [hinitialized] at htype
        rw [hinstalled]
        exact h.initialized type htype
  | guardFailed => exact ⟨h.computed, h.installed, h.initialized⟩
  | @beginInit id type created slot _ _ hslot =>
      have hnone := hseq id type created rfl
      refine ⟨?_, ?_, h.initialized⟩
      · intro id' type' mask hid'
        rcases Table.update_eq_some hid' with ⟨-, ⟨⟩⟩ | ⟨-, hid'⟩
        rw [hnone id'] at hid'
        cases hid'
      · intro id' type' hid'
        rcases Table.update_eq_some hid' with ⟨-, ⟨⟩⟩ | ⟨-, hid'⟩
        rw [hnone id'] at hid'
        cases hid'
  | @computeMask id type hid =>
      refine ⟨?_, ?_, h.initialized⟩
      · intro id' type' mask hid'
        rcases Table.update_eq_some hid' with ⟨-, ⟨⟩⟩ | ⟨-, hid'⟩
        · rfl
        · exact h.computed id' type' mask hid'
      · intro id' type' hid'
        rcases Table.update_eq_some hid' with ⟨-, ⟨⟩⟩ | ⟨-, hid'⟩
        exact h.installed id' type' hid'
  | @install id type mask hid =>
      obtain rfl := h.computed id type mask hid
      refine ⟨?_, ?_, ?_⟩
      · intro id' type' mask' hid'
        rcases Table.update_eq_some hid' with ⟨-, ⟨⟩⟩ | ⟨-, hid'⟩
        exact h.computed id' type' mask' hid'
      · intro id' type' hid'
        refine eventMask_subset hguarded ?_
        rcases Table.update_eq_some hid' with ⟨-, ⟨⟩⟩ | ⟨-, hid'⟩
        · exact hguarded.started _ _ _ hid
        · exact hguarded.started _ _ _ hid'
      · intro type' htype
        exact eventMask_subset hguarded (hguarded.initialized type' htype)
  | @installFailed id type mask hid =>
      refine ⟨?_, ?_, h.initialized⟩
      · intro id' type' mask' hid'
        rcases Table.update_eq_some hid' with ⟨-, ⟨⟩⟩ | ⟨-, hid'⟩
        exact h.computed id' type' mask' hid'
      · intro id' type' hid'
        rcases Table.update_eq_some hid' with ⟨-, ⟨⟩⟩ | ⟨-, hid'⟩
        exact h.installed id' type' hid'
  | @finishInit id type got hid =>
      have hmask := Endpoint.listenerMask_congr (Endpoint.kind_of_next hs)
        (Endpoint.sameGuards_of_next hs (by simp))
      refine ⟨?_, ?_, ?_⟩
      · intro id' type' mask' hid'
        rw [hmask]
        rcases Table.update_eq_some hid' with ⟨-, ⟨⟩⟩ | ⟨-, hid'⟩
        exact h.computed id' type' mask' hid'
      · intro id' type' hid'
        rcases Table.update_eq_some hid' with ⟨-, ⟨⟩⟩ | ⟨-, hid'⟩
        exact h.installed id' type' hid'
      · intro type' htype
        by_cases hne : type' = type
        · subst hne
          exact h.installed id type' hid
        · simp only [Function.update_of_ne hne] at htype
          exact h.initialized type' htype

theorem observed_reachable {kind : EndpointKind} {w : World}
    (h : ((system kind).restrict Sequential).Reachable w) : Observed w.endpoint := by
  refine h.invariant_of (I := fun w => Observed w.endpoint)
    (J := fun w => Endpoint.Guarded w.endpoint)
    (fun w hw => Endpoint.guarded_reachable (endpoint_reachable hw.of_restrict)) ?_ ?_
  · rintro w rfl
    exact observed_create kind
  · rintro w a w' hguarded ih ⟨hseq, hs⟩
    cases worldStep_of_next hs with
    | change => exact ih
    | coalesce => exact ih
    | listener _ _ he => exact observed_next hguarded ih (by simp) he
    | act _ _ he =>
        refine observed_next hguarded ih ?_ he
        rintro id type created rfl
        exact hseq

/-! ## Exact counts -/

/-- Once an event is initialized, its count is the number of changes since the
last take, if no listener call is owed and no getter has failed. -/
def Exact (w : World) (type : EventType) : Prop :=
  w.endpoint.initialized type = true → w.getterFailed = false →
    (∀ p, (type, p) ∉ w.pending) → (w.endpoint.slots type).count = w.changes type

/-- When an initialization counts, nothing is counted yet, or a listener call
is owed, or the count has all untaken events of the status it reads. -/
def CountsAll (w : World) : WorldAction → Prop
  | .act (.finishInit _ type got) =>
      type.kind ≠ .livelinessChanged → w.getterFailed = false → ∀ now ∈ got,
        (w.endpoint.slots type).count = 0 ∨ (∃ p, (type, p) ∈ w.pending) ∨
          untakenEvents (addChanges (w.endpoint.slots type).stored now) ≤
            (w.endpoint.slots type).count
  | _ => True

theorem of_record_getterFailed {w : World} {a : Action} {e : Endpoint}
    (h : (w.record a e).getterFailed = false) :
    w.getterFailed = false ∧ a.Reads fun _ got => got.isSome = true := by
  simpa [record] using h

/-- A critical section whose getter succeeds makes the count exact, or leaves
it and the changes alone. -/
theorem exact_next {w : World} {type : EventType} (ht : Tracked w type)
    (hk : type.kind ≠ .livelinessChanged) (hle : (w.endpoint.slots type).CountLe)
    (hguarded : Endpoint.Guarded w.endpoint) {a : Action} {e : Endpoint}
    (hgot : w.GettersCurrent a) (hsome : a.Reads fun _ got => got.isSome = true)
    (hcounts : ∀ id now, a = .finishInit id type (some now) →
      (w.endpoint.slots type).count = 0 ∨
        untakenEvents (addChanges (w.endpoint.slots type).stored now) ≤
          (w.endpoint.slots type).count)
    (hs : w.endpoint.next a = some e) (hinit : e.initialized type = true) :
    (e.slots type).count = (w.record a e).changes type ∨
      (∀ status got, a ≠ .listener type status got) ∧ w.endpoint.initialized type = true ∧
        (e.slots type).count = (w.endpoint.slots type).count ∧
          (w.record a e).changes type = w.changes type := by
  have hle' : (w.endpoint.slots type).count ≤ w.changes type :=
    le_trans hle (ht.untaken_le hk)
  cases Endpoint.slotStep_of_next type hs with
  | idle hreader hslot _ _ hinitialized =>
      refine .inr ⟨?_, hinitialized ▸ hinit, by rw [hslot], ?_⟩
      · rintro status got rfl
        exact hreader rfl
      · simp [record, Action.takes_of_reader hreader]
  | @listener status got _ _ hslot =>
      cases got with
      | none => cases hsome
      | some now =>
          refine .inl ?_
          rw [hslot, EventSlot.listener_count _ hk, EventSlot.readStatus_some]
          show max _ (untakenEvents (addChanges _ now)) = w.changes type
          rw [ht.untaken_read hk (hgot now rfl)]
          omega
  | @countMatched got _ _ hslot _ _ hinitialized =>
      rw [hinitialized] at hinit
      have hguard := hguarded.initialized type hinit
      cases got with
      | none => cases hsome
      | some now =>
          refine .inl ?_
          rw [hslot, EventSlot.readMatchedCount_count _ now hguard,
            ht.untaken_read hk (hgot now rfl)]
          show max _ (w.changes type) = w.changes type
          omega
  | @takeFailed got _ _ hnone hslot =>
      cases got with
      | none => cases hsome
      | some now => cases hnone
  | @take got _ _ _ hinfo hslot =>
      cases got with
      | none => cases hinfo
      | some now =>
          refine .inl ?_
          rw [hslot, EventSlot.takeEvent_some]
          simp [record, Action.takes, EventSlot.setTriggerValue]
  | createGuard hguard hslot _ _ hinitialized =>
      refine .inr ⟨by simp, hinitialized ▸ hinit, ?_, rfl⟩
      rw [hslot, EventSlot.createGuard_count hguard]
  | @finishInit id got _ _ hslot =>
      cases got with
      | none => cases hsome
      | some now =>
          refine .inl ?_
          have hread := ht.untaken_read hk (hgot now rfl)
          have hdone := hcounts id now rfl
          rw [hread] at hdone
          rw [hslot, EventSlot.finishInitialize_count, EventSlot.readStatus_some]
          show (if _ then untakenEvents (addChanges _ now) else _) = w.changes type
          rw [hread]
          split <;> omega
  | setCallback hslot _ _ hinitialized =>
      refine .inr ⟨by simp, hinitialized ▸ hinit, ?_, rfl⟩
      rw [hslot]
      rfl
  | afterSetCallback _ hslot _ _ hinitialized =>
      refine .inr ⟨by simp, hinitialized ▸ hinit, ?_, rfl⟩
      rw [hslot, EventSlot.afterSetCallback_count]

theorem exact_create (kind : EndpointKind) (type : EventType) :
    Exact (World.create kind) type := by
  intro hinit
  cases hinit

/-- A listener call owed that is not the one made, or was not coalesced into
another one, is still owed. -/
theorem mem_eraseIdx {pending : List (EventType × (ℤ × ℤ))} {index : Nat}
    {made call : EventType × (ℤ × ℤ)} (hindex : pending[index]? = some made)
    (hmem : call ∈ pending) (hne : call ≠ made) : call ∈ pending.eraseIdx index := by
  obtain ⟨i, hi⟩ := List.mem_iff_getElem?.mp hmem
  refine List.mem_eraseIdx_iff_getElem?.mpr ⟨i, ?_, hi⟩
  rintro rfl
  rw [hindex, Option.some.injEq] at hi
  exact hne hi.symm

theorem exact_step {w w' : World} {type : EventType} {a : WorldAction} (ht : Tracked w type)
    (hk : type.kind ≠ .livelinessChanged) (hle : (w.endpoint.slots type).CountLe)
    (hguarded : Endpoint.Guarded w.endpoint) (hobserved : Observed w.endpoint)
    (h : Exact w type) (hP : CountsAll w a) (hs : w.next a = some w') : Exact w' type := by
  intro hinit hfailed hpending
  cases worldStep_of_next hs with
  | @change type' now _ _ =>
      by_cases hne : type = type'
      · subst hne
        have hmask := hobserved.initialized type hinit
        refine absurd ?_ (hpending now)
        simp [changed, hmask]
      · have hchanges : (w.changed type' now).changes type = w.changes type :=
          Function.update_of_ne hne ..
        rw [hchanges]
        refine h hinit hfailed fun p hp => hpending p ?_
        show (type, p) ∈ if _ then _ else _
        split
        · exact List.mem_append_left _ hp
        · exact hp
  | @coalesce index type' p q hindex hmem =>
      refine h hinit hfailed fun r hr => ?_
      by_cases hne : (type, r) = (type', p)
      · cases hne
        exact hpending q hmem
      · exact hpending r (mem_eraseIdx hindex hr hne)
  | @listener index type' status got e hindex hgot he =>
      obtain ⟨hfailed', hsome⟩ := of_record_getterFailed hfailed
      rcases exact_next ht hk hle hguarded hgot hsome (fun _ _ ha => by cases ha) he hinit
        with hexact | hkeep
      · exact hexact
      · obtain ⟨hother, hinit', hcount, hchanges⟩ := hkeep
        refine hcount.trans ((h hinit' hfailed' fun p hp => ?_).trans hchanges.symm)
        refine hpending p (mem_eraseIdx hindex hp ?_)
        rintro ⟨⟩
        exact hother status got rfl
  | @act a e _ hgot he =>
      obtain ⟨hfailed', hsome⟩ := of_record_getterFailed hfailed
      have hcounts : ∀ id now, a = .finishInit id type (some now) →
          (w.endpoint.slots type).count = 0 ∨
            untakenEvents (addChanges (w.endpoint.slots type).stored now) ≤
              (w.endpoint.slots type).count := by
        rintro id now rfl
        rcases hP hk hfailed' now rfl with hzero | ⟨p, hp⟩ | hall
        · exact .inl hzero
        · exact absurd hp (hpending p)
        · exact .inr hall
      rcases exact_next ht hk hle hguarded hgot hsome hcounts he hinit with hexact | hkeep
      · exact hexact
      · obtain ⟨-, hinit', hcount, hchanges⟩ := hkeep
        exact hcount.trans ((h hinit' hfailed' hpending).trans hchanges.symm)

theorem exact_reachable {kind : EndpointKind} {w : World}
    (h : ((system kind).restrict fun w a => Sequential w a ∧ CountsAll w a).Reachable w)
    {type : EventType} (hk : type.kind ≠ .livelinessChanged) : Exact w type := by
  have hall : ∀ w, ((system kind).restrict fun w a => Sequential w a ∧ CountsAll w a).Reachable w →
      (system kind).Reachable w ∧ Observed w.endpoint := fun w hw =>
    ⟨hw.of_restrict, observed_reachable (hw.mono fun _ _ hP => hP.1)⟩
  refine h.invariant_of (I := fun w => Exact w type) hall ?_ ?_
  · rintro w rfl
    exact exact_create kind type
  · rintro w a w' ⟨hr, hobserved⟩ ih ⟨⟨-, hP⟩, hs⟩
    exact exact_step (tracked_reachable hr type) hk (countLe_reachable hr hk)
      (Endpoint.guarded_reachable (endpoint_reachable hr)) hobserved ih hP hs

/-- An initialization that leaves an untaken event out while no listener call
is owed breaks exactness. -/
theorem not_exact_of_not_countsAll {kind : EndpointKind} {w w' : World} {a : WorldAction}
    (hr : (system kind).Reachable w) (hs : w.next a = some w') (hP : ¬ CountsAll w a) :
    ∃ type, type.kind ≠ .livelinessChanged ∧ ¬ Exact w' type := by
  cases worldStep_of_next hs with
  | change => exact absurd trivial hP
  | coalesce => exact absurd trivial hP
  | listener => exact absurd trivial hP
  | @act a e _ hgot he =>
      cases a with
      | finishInit id type got =>
          simp only [CountsAll, not_forall, not_or, not_exists, not_le] at hP
          obtain ⟨hk, hfailed, now, hnow, hcount, hpending, hlt⟩ := hP
          obtain rfl : got = some now := hnow
          have hread := (tracked_reachable hr type).untaken_read hk (hgot now rfl)
          rw [Endpoint.next, Option.ite_none_right_eq_some, Option.some.injEq] at he
          obtain ⟨-, rfl⟩ := he
          refine ⟨type, hk, fun hexact => ?_⟩
          have hcount' := hexact (Function.update_self ..)
            (by simp [record, hfailed, Action.Reads]) hpending
          rw [record, Endpoint.withSlot_slots_self, EventSlot.finishInitialize_count,
            if_neg hcount] at hcount'
          have hchanges : (w.endpoint.slots type).count = w.changes type := hcount'
          omega
      | _ => exact absurd trivial hP

/-- The counters are bounded in every run.  Once an event is initialized its
count is exact, in every run whose initializations count all events.  An
initialization that does not breaks exactness. -/
theorem event_count_invariant (kind : EndpointKind) :
    (∀ w, ((system kind).restrict Sequential).Reachable w →
      ∀ type : EventType, type.kind ≠ .livelinessChanged → Bounded w type) ∧
    (∀ w, ((system kind).restrict fun w a => Sequential w a ∧ CountsAll w a).Reachable w →
      ∀ type : EventType, type.kind ≠ .livelinessChanged → Exact w type) ∧
    ∀ w a w', ((system kind).restrict Sequential).Reachable w → w.next a = some w' →
      ¬ CountsAll w a → ∃ type, type.kind ≠ .livelinessChanged ∧ ¬ Exact w' type := by
  refine ⟨?_, ?_, ?_⟩
  · intro w h type hk
    exact bounded_reachable h.of_restrict hk
  · intro w h type hk
    exact exact_reachable h hk
  · intro w a w' h hs hP
    exact not_exact_of_not_countsAll h.of_restrict hs hP

/-- One match of an initialized subscription, counted by its listener. -/
theorem event_count_invariant_matched :
    ∃ w : World, Bounded w .subscriptionMatched ∧ Exact w .subscriptionMatched ∧
      w.changes .subscriptionMatched = 1 := by
  let one : MatchedStatus := { totalCount := 1, currentCount := 1 }
  let run : List WorldAction :=
    [.act (.beginInit 0 .subscriptionMatched true), .act (.computeMask 0), .act (.install 0 true)]
  let rest : List WorldAction :=
    [.act (.finishInit 0 .subscriptionMatched (some {})), .change .subscriptionMatched (1, 1),
      .listener 0 .subscriptionMatched one (some one)]
  obtain ⟨w1, hexec1, hcount⟩ : ∃ w1, Transition.exec next (create .subscription) run = some w1 ∧
      (w1.endpoint.slots .subscriptionMatched).count = 0 := ⟨_, rfl, rfl⟩
  obtain ⟨w, hexec, hchanges⟩ : ∃ w, Transition.exec next (create .subscription) (run ++ rest) =
      some w ∧ w.changes .subscriptionMatched = 1 := ⟨_, rfl, rfl⟩
  have hr1 := Transition.reachable_restrict_of_exec_cons
    (P := fun w a => Sequential w a ∧ CountsAll w a)
    (.init rfl) hexec1 ⟨fun _ => rfl, trivial⟩ (by simp [Sequential, CountsAll])
  rw [Transition.exec_append, hexec1] at hexec
  have hr := Transition.reachable_restrict_of_exec_cons hr1 hexec
    ⟨trivial, fun _ _ _ _ => .inl hcount⟩ (by simp [Sequential, CountsAll])
  have hlaws := event_count_invariant .subscription
  exact ⟨w, hlaws.1 w (hr.mono fun _ _ hP => hP.1) _ (by decide), hlaws.2.1 w hr _ (by decide),
    hchanges⟩

/-- A match between the matched count and the listener's installation is never
counted. -/
theorem event_count_misses_change :
    ¬ ∀ (kind : EndpointKind) (w : World), ((system kind).restrict Sequential).Reachable w →
      ∀ type : EventType, type.kind ≠ .livelinessChanged →
        Bounded w type ∧ (w.endpoint.initialized type = true → w.getterFailed = false →
          w.pending = [] → (w.endpoint.slots type).count = w.changes type) := by
  intro hall
  let one : MatchedStatus := { totalCount := 1, currentCount := 1 }
  let two : MatchedStatus := { totalCount := 2, currentCount := 2 }
  let run : List WorldAction :=
    [.act (.beginInit 0 .subscriptionMatched true), .change .subscriptionMatched (1, 1),
      .act (.countMatched .subscriptionMatched (some one)), .change .subscriptionMatched (2, 2),
      .act (.computeMask 0), .act (.install 0 true),
      .act (.finishInit 0 .subscriptionMatched (some two))]
  have hrun : (Transition.exec next (create .subscription) run).map (fun w =>
      (w.endpoint.initialized .subscriptionMatched, w.getterFailed, w.pending.length,
        (w.endpoint.slots .subscriptionMatched).count, w.changes .subscriptionMatched)) =
      some (true, false, 0, 1, 2) := by decide +kernel
  obtain ⟨w, hexec, hw⟩ := Option.map_eq_some_iff.mp hrun
  simp only [Prod.mk.injEq, List.length_eq_zero_iff] at hw
  obtain ⟨hinit, hfailed, hpending, hcount, hchanges⟩ := hw
  have hr := Transition.reachable_restrict_of_exec_cons (P := Sequential) (.init rfl) hexec
    (fun _ => rfl) (by simp [Sequential])
  have hlaw := (hall .subscription w hr .subscriptionMatched (by decide)).2 hinit hfailed hpending
  rw [hcount, hchanges] at hlaw
  cases hlaw

end World

end RmwZzdds.Event
