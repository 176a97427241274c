import RmwZzdds.Library.Table
import RmwZzdds.Event.Counting

/-!
# Initializations and the installed listener

An initialization creates the guard of its event type, computes the status mask
of all types whose guard exists, and installs a listener with that mask.  The
mask is computed in one critical section and installed outside of it, and an
installation replaces the listener as a whole.  So of two initializations the
one with the older mask may install last, and the listener of the other is lost
(`listener_lost`).

*When it holds.*  `InstallsCurrentMask` admits an installation only if its mask
still covers every guard, or if another initialization has yet to install.  In
every run of such installations, once all initializations have returned
`RMW_RET_OK`, the listener installed is the one for every guard that exists
(`listener_complete`).
-/

namespace RmwZzdds.Event

namespace Endpoint

/-! ## What a step does to the initializations -/

/-- Both states have the guards of the same types. -/
def SameGuards (s s' : Endpoint) : Prop :=
  ∀ type, (s'.slots type).guard = none ↔ (s.slots type).guard = none

/-- What one step does to the guards, the initializations and the listener. -/
inductive InitStep (s : Endpoint) : Action → Endpoint → Prop where
  | idle {a : Action} {s' : Endpoint} : SameGuards s s' → s'.inits = s.inits →
      s'.installed = s.installed → s'.initialized = s.initialized →
      s'.initFailed = s.initFailed → s'.kind = s.kind → InitStep s a s'
  | guardFailed {id : CallId} {type : EventType} {created : Bool} :
      InitStep s (.beginInit id type created) { s with initFailed := true }
  | beginInit {id : CallId} {type : EventType} {created : Bool} {slot : EventSlot type.kind} :
      s.kind.supports type = true → s.inits id = none →
      (s.slots type).createGuard created = some slot →
      InitStep s (.beginInit id type created)
        { s.withSlot type slot with
          inits := Function.update s.inits id (some (type, .guardCreated)) }
  | computeMask {id : CallId} {type : EventType} : s.inits id = some (type, .guardCreated) →
      InitStep s (.computeMask id)
        { s with
          inits := Function.update s.inits id
            (some (type, .maskComputed (listenerMask s.kind s.slots))) }
  | install {id : CallId} {type : EventType} {mask : StatusMask} :
      s.inits id = some (type, .maskComputed mask) →
      InitStep s (.install id true)
        { s with
          installed := mask
          inits := Function.update s.inits id (some (type, .installed)) }
  | installFailed {id : CallId} {type : EventType} {mask : StatusMask} :
      s.inits id = some (type, .maskComputed mask) →
      InitStep s (.install id false)
        { s with inits := Function.update s.inits id none, initFailed := true }
  | finishInit {id : CallId} {type : EventType} {got : Option (Status type.kind)} :
      s.inits id = some (type, .installed) →
      InitStep s (.finishInit id type got)
        { s.withSlot type ((s.slots type).finishInitialize got) with
          inits := Function.update s.inits id none
          initialized := Function.update s.initialized type true }

theorem createGuard_guard {k : StatusKind} {slot slot' : EventSlot k} {created : Bool}
    (h : slot.createGuard created = some slot') : slot'.guard ≠ none := by
  unfold EventSlot.createGuard at h
  split at h
  next hguard =>
    cases h
    simp [hguard]
  next =>
    split at h <;> cases h
    simp

theorem afterSetCallback_guard {k : StatusKind} (slot : EventSlot k) :
    slot.afterSetCallback.1.guard = slot.guard := by
  unfold EventSlot.afterSetCallback
  split <;> rfl

/-- Only `beginInit` creates a guard, and nothing destroys one. -/
theorem guard_of_slotStep {type : EventType} {s s' : Endpoint} {a : Action}
    (h : SlotStep type s a s') (ha : ∀ id created, a ≠ .beginInit id type created) :
    (s'.slots type).guard = none ↔ (s.slots type).guard = none := by
  cases h with
  | idle _ hslot => rw [hslot]
  | @listener status got _ _ hslot =>
      obtain ⟨added, hadded⟩ := (s.slots type).listener_counted status got
      rw [hslot, hadded, EventSlot.counted_guard_eq_none, EventSlot.readStatus_guard]
  | @countMatched got _ _ hslot =>
      obtain ⟨added, -, hadded⟩ := (s.slots type).readMatchedCount_counted got
      have hfst := congrArg Prod.fst hadded
      simp only at hfst
      rw [hslot, hfst, EventSlot.counted_guard_eq_none, EventSlot.readStatus_guard]
  | @takeFailed got _ _ hnone hslot =>
      cases got with
      | none => rw [hslot, EventSlot.takeEvent_none]
      | some now => cases hnone
  | @take got _ _ _ hsome hslot =>
      cases got with
      | none => cases hsome
      | some now =>
          rw [hslot, EventSlot.takeEvent_some]
          exact Option.map_eq_none_iff
  | createGuard => exact absurd rfl (ha _ _)
  | finishInit _ hslot =>
      rw [hslot, EventSlot.finishInitialize_guard]
      exact Option.map_eq_none_iff
  | setCallback hslot =>
      rw [hslot]
      rfl
  | afterSetCallback _ hslot => rw [hslot, afterSetCallback_guard]

/-- Every step of the endpoint is one of the initialization steps. -/
theorem initStep_of_next {s s' : Endpoint} {a : Action} (h : s.next a = some s') :
    InitStep s a s' := by
  have hguards : (∀ type id created, a ≠ .beginInit id type created) → SameGuards s s' :=
    fun ha type => guard_of_slotStep (slotStep_of_next type h) (ha type)
  cases a with
  | listener type status got =>
      simp only [next, Option.ite_none_right_eq_some, Option.some.injEq] at h
      obtain ⟨-, rfl⟩ := h
      exact .idle (hguards (by simp)) (by simp [withSlot]) (by simp [withSlot])
        (by simp [withSlot]) (by simp [withSlot]) (by simp [withSlot])
  | takeEvent type got =>
      simp only [next, Option.ite_none_right_eq_some, Option.some.injEq] at h
      obtain ⟨-, rfl⟩ := h
      refine .idle (hguards (by simp)) ?_ ?_ ?_ ?_ ?_ <;>
        cases ((s.slots type).takeEvent type got).2 <;> rfl
  | countMatched type got =>
      simp only [next, Option.ite_none_right_eq_some, Option.some.injEq] at h
      obtain ⟨-, rfl⟩ := h
      exact .idle (hguards (by simp)) (by simp [withSlot]) (by simp [withSlot])
        (by simp [withSlot]) (by simp [withSlot]) (by simp [withSlot])
  | beginInit id type created =>
      simp only [next, Option.ite_none_right_eq_some] at h
      obtain ⟨⟨hkind, hid⟩, h⟩ := h
      cases hslot : (s.slots type).createGuard created with
      | none =>
          rw [hslot] at h
          cases h
          exact .guardFailed
      | some slot =>
          rw [hslot] at h
          cases h
          exact .beginInit hkind hid hslot
  | computeMask id =>
      simp only [next] at h
      split at h
      next type hid =>
        cases h
        exact .computeMask hid
      next => cases h
  | install id ok =>
      simp only [next] at h
      split at h
      next type mask hid =>
        cases ok with
        | true =>
            cases h
            exact .install hid
        | false =>
            cases h
            exact .installFailed hid
      next => cases h
  | finishInit id type got =>
      simp only [next, Option.ite_none_right_eq_some, Option.some.injEq] at h
      obtain ⟨hid, rfl⟩ := h
      exact .finishInit hid
  | setCallback id type callback userData =>
      simp only [next, Option.ite_none_right_eq_some, Option.some.injEq] at h
      obtain ⟨-, rfl⟩ := h
      exact .idle (hguards (by simp)) rfl rfl rfl rfl rfl
  | afterSetCallback id =>
      simp only [next] at h
      split at h
      next type hid =>
        cases h
        exact .idle (hguards (by simp)) (by simp [withSlot]) (by simp [withSlot])
          (by simp [withSlot]) (by simp [withSlot]) (by simp [withSlot])
      next => cases h
  | returnSetCallback id =>
      simp only [next] at h
      split at h
      · split at h <;> cases h
        exact .idle (hguards (by simp)) rfl rfl rfl rfl rfl
      · cases h
  | call index =>
      simp only [next, Option.ite_none_right_eq_some, Option.some.injEq] at h
      obtain ⟨-, rfl⟩ := h
      exact .idle (hguards (by simp)) rfl rfl rfl rfl rfl

/-- A step leaves the kind of the endpoint. -/
theorem kind_of_next {s s' : Endpoint} {a : Action} (h : s.next a = some s') :
    s'.kind = s.kind := by
  cases initStep_of_next h with
  | idle _ _ _ _ _ hkind => exact hkind
  | guardFailed => rfl
  | beginInit => rfl
  | computeMask => rfl
  | install => rfl
  | installFailed => rfl
  | finishInit => rfl

theorem sameGuards_of_next {s s' : Endpoint} {a : Action} (h : s.next a = some s')
    (ha : ∀ type id created, a ≠ .beginInit id type created) : SameGuards s s' :=
  fun type => guard_of_slotStep (slotStep_of_next type h) (ha type)

/-! ## Guards -/

/-- Guards exist for supported types, and for every type whose initialization
has started or has succeeded. -/
structure Guarded (s : Endpoint) : Prop where
  supported : ∀ type, (s.slots type).guard ≠ none → s.kind.supports type = true
  started : ∀ id type stage, s.inits id = some (type, stage) → (s.slots type).guard ≠ none
  initialized : ∀ type, s.initialized type = true → (s.slots type).guard ≠ none

theorem guarded_create (kind : EndpointKind) : Guarded (create kind) where
  supported type h := absurd rfl h
  started id type stage h := by cases h
  initialized type h := by cases h

/-- After `beginInit` the guards are those that were and the one of its type. -/
theorem guard_beginInit {s : Endpoint} {type : EventType} {slot : EventSlot type.kind}
    {created : Bool} (hslot : (s.slots type).createGuard created = some slot)
    (type' : EventType) :
    ((s.withSlot type slot).slots type').guard ≠ none ↔
      type' = type ∨ (s.slots type').guard ≠ none := by
  by_cases hne : type' = type
  · subst hne
    rw [withSlot_slots_self]
    exact iff_of_true (createGuard_guard hslot) (.inl rfl)
  · rw [withSlot_slots_of_ne _ hne]
    simp [hne]

/-- An initialization that moves on, or ends, keeps what is known of all. -/
theorem Guarded.started_update {s : Endpoint} (h : Guarded s) {id : CallId}
    {init : Option (EventType × InitStage)}
    (hinit : ∀ type stage, init = some (type, stage) → (s.slots type).guard ≠ none)
    (id' : CallId) (type : EventType) (stage : InitStage)
    (hid' : Function.update s.inits id init id' = some (type, stage)) :
    (s.slots type).guard ≠ none := by
  rcases Table.update_eq_some hid' with ⟨-, hinit'⟩ | ⟨-, hid'⟩
  · exact hinit type stage hinit'
  · exact h.started id' type stage hid'

theorem guarded_step {s s' : Endpoint} {a : Action} (h : Guarded s) (hs : s.next a = some s') :
    Guarded s' := by
  cases initStep_of_next hs with
  | idle hguards hinits _ hinitialized _ hkind =>
      refine ⟨?_, ?_, ?_⟩
      · intro type hguard
        rw [hkind]
        exact h.supported type (mt (hguards type).mpr hguard)
      · intro id type stage hid
        rw [hinits] at hid
        exact mt (hguards type).mp (h.started id type stage hid)
      · intro type htype
        rw [hinitialized] at htype
        exact mt (hguards type).mp (h.initialized type htype)
  | guardFailed => exact ⟨h.supported, h.started, h.initialized⟩
  | @beginInit id type created slot hkind hid hslot =>
      refine ⟨?_, ?_, ?_⟩
      · intro type' hguard
        rcases (guard_beginInit hslot type').mp hguard with rfl | hguard
        · exact hkind
        · exact h.supported type' hguard
      · intro id' type' stage hid'
        refine (guard_beginInit hslot type').mpr ?_
        rcases Table.update_eq_some hid' with ⟨-, ⟨⟩⟩ | ⟨-, hid'⟩
        · exact .inl rfl
        · exact .inr (h.started id' type' stage hid')
      · intro type' htype
        exact (guard_beginInit hslot type').mpr (.inr (h.initialized type' htype))
  | @computeMask id type hid =>
      refine ⟨h.supported, h.started_update ?_, h.initialized⟩
      rintro _ _ ⟨⟩
      exact h.started id type _ hid
  | @install id type mask hid =>
      refine ⟨h.supported, h.started_update ?_, h.initialized⟩
      rintro _ _ ⟨⟩
      exact h.started id type _ hid
  | installFailed =>
      refine ⟨h.supported, h.started_update ?_, h.initialized⟩
      rintro _ _ ⟨⟩
  | @finishInit id type got hid =>
      have hguards := sameGuards_of_next hs (by simp)
      refine ⟨?_, ?_, ?_⟩
      · intro type' hguard
        exact h.supported type' (mt (hguards type').mpr hguard)
      · intro id' type' stage hid'
        refine mt (hguards type').mp (h.started_update ?_ id' type' stage hid')
        rintro _ _ ⟨⟩
      · intro type' htype
        refine mt (hguards type').mp ?_
        by_cases hne : type' = type
        · subst hne
          exact h.started id type' _ hid
        · simp only [Function.update_of_ne hne] at htype
          exact h.initialized type' htype

theorem guarded_reachable {kind : EndpointKind} {s : Endpoint}
    (h : (system kind).Reachable s) : Guarded s := by
  refine h.invariant (I := Guarded) ?_ ?_
  · rintro s rfl
    exact guarded_create kind
  · intro s a s' ih hs
    exact guarded_step ih hs

/-! ## The listener mask -/

theorem supports_iff (kind : EndpointKind) (type : EventType) :
    kind.supports type = true ↔ type ∈ listenerTypes kind := by
  cases kind <;> cases type <;> decide

theorem mem_foldl_mask (slots : Slots) (status : DdsStatus) (types : List EventType)
    (mask : StatusMask) :
    status ∈ types.foldl (fun mask type =>
        if (slots type).guard ≠ none then mask ∪ eventMask type else mask) mask ↔
      status ∈ mask ∨ ∃ type ∈ types, (slots type).guard ≠ none ∧ status ∈ eventMask type := by
  induction types generalizing mask with
  | nil => simp
  | cons type types ih =>
      rw [List.foldl_cons, ih]
      by_cases hguard : (slots type).guard = none
      · simp [hguard]
      · simp [hguard, or_assoc]

/-- The mask computed is the union of the masks of all types with a guard. -/
theorem mem_listenerMask {s : Endpoint} (h : Guarded s) (status : DdsStatus) :
    status ∈ listenerMask s.kind s.slots ↔
      ∃ type, (s.slots type).guard ≠ none ∧ status ∈ eventMask type := by
  rw [listenerMask, mem_foldl_mask]
  constructor
  · rintro (hmem | ⟨type, -, hguard, hmem⟩)
    · simp at hmem
    · exact ⟨type, hguard, hmem⟩
  · rintro ⟨type, hguard, hmem⟩
    exact .inr ⟨type, (supports_iff _ _).mp (h.supported type hguard), hguard, hmem⟩

theorem listenerMask_congr {s s' : Endpoint} (hkind : s'.kind = s.kind)
    (hguards : SameGuards s s') :
    listenerMask s'.kind s'.slots = listenerMask s.kind s.slots := by
  have hpoint : (fun (mask : StatusMask) type =>
      if (s'.slots type).guard ≠ none then mask ∪ eventMask type else mask) =
      fun mask type => if (s.slots type).guard ≠ none then mask ∪ eventMask type else mask := by
    funext mask type
    simp only [ne_eq, hguards type]
  rw [listenerMask, listenerMask, hkind, hpoint]

/-! ## The installed listener -/

/-- An initialization that has not installed its listener yet. -/
def toInstall (s : Endpoint) (id : CallId) : Bool :=
  match s.inits id with
  | some (_, .guardCreated) => true
  | some (_, .maskComputed _) => true
  | _ => false

theorem toInstall_of_ne {s : Endpoint} {id id' : CallId} (hne : id' ≠ id)
    {init : Option (EventType × InitStage)} :
    toInstall { s with inits := Function.update s.inits id init } id' = s.toInstall id' := by
  simp only [toInstall, Function.update_of_ne hne]

/-- An installation installs the mask that would be computed now, or another
initialization has yet to install. -/
def InstallsCurrentMask (s : Endpoint) : Action → Prop
  | .install id true =>
      (s.inits id).map Prod.snd = some (.maskComputed (listenerMask s.kind s.slots)) ∨
        ∃ id', id' ≠ id ∧ s.toInstall id' = true
  | _ => True

/-- Some initialization has failed or has yet to install, or the listener is
the one for every guard. -/
def Listening (s : Endpoint) : Prop :=
  s.initFailed = true ∨ (∃ id, s.toInstall id = true) ∨
    s.installed = listenerMask s.kind s.slots

theorem listening_step {s s' : Endpoint} {a : Action} (h : Listening s)
    (hP : InstallsCurrentMask s a) (hs : s.next a = some s') : Listening s' := by
  cases initStep_of_next hs with
  | idle hguards hinits hinstalled _ hfailed hkind =>
      simpa only [Listening, toInstall, hfailed, hinits, hinstalled,
        listenerMask_congr hkind hguards] using h
  | guardFailed => exact .inl rfl
  | @beginInit id => exact .inr (.inl ⟨id, by simp [toInstall]⟩)
  | @computeMask id => exact .inr (.inl ⟨id, by simp [toInstall]⟩)
  | @install id type mask hid =>
      rcases hP with hcurrent | ⟨id', hne, hid'⟩
      · rw [hid, Option.map_some, Option.some.injEq, InitStage.maskComputed.injEq] at hcurrent
        exact .inr (.inr hcurrent)
      · exact .inr (.inl ⟨id', by rw [← hid']; exact toInstall_of_ne hne⟩)
  | installFailed => exact .inl rfl
  | @finishInit id type got hid =>
      have hmask := listenerMask_congr (kind_of_next hs) (sameGuards_of_next hs (by simp))
      rcases h with hfailed | ⟨id', hid'⟩ | hinstalled
      · exact .inl hfailed
      · have hne : id' ≠ id := by
          rintro rfl
          simp [toInstall, hid] at hid'
        refine .inr (.inl ⟨id', ?_⟩)
        rw [← hid']
        exact toInstall_of_ne (s := s) hne
      · refine .inr (.inr ?_)
        rw [hmask]
        exact hinstalled

theorem listening_reachable {kind : EndpointKind} {s : Endpoint}
    (h : ((system kind).restrict InstallsCurrentMask).Reachable s) : Listening s := by
  refine h.invariant (I := Listening) ?_ ?_
  · rintro s rfl
    exact .inr (.inr (by cases kind <;> rfl))
  · rintro s a s' ih ⟨hP, hs⟩
    exact listening_step ih hP hs

/-- Once all initializations have returned `RMW_RET_OK`, the listener installed
is the one for every guard that exists. -/
theorem listener_complete {kind : EndpointKind} {s : Endpoint}
    (h : ((system kind).restrict InstallsCurrentMask).Reachable s)
    (hreturned : ∀ id, s.inits id = none) (hok : s.initFailed = false) (status : DdsStatus) :
    status ∈ s.installed ↔ ∃ type, (s.slots type).guard ≠ none ∧ status ∈ eventMask type := by
  rw [← mem_listenerMask (guarded_reachable h.of_restrict)]
  rcases listening_reachable h with hfailed | ⟨id, hid⟩ | hinstalled
  · rw [hok] at hfailed
    cases hfailed
  · simp [toInstall, hreturned id] at hid
  · rw [hinstalled]

/-- Two events of a publisher, initialized one after the other. -/
theorem listener_complete_publisher :
    ∃ s : Endpoint, s.installed = {.publicationMatched, .livelinessLost} ∧
      (DdsStatus.livelinessLost ∈ s.installed ↔
        ∃ type, (s.slots type).guard ≠ none ∧ DdsStatus.livelinessLost ∈ eventMask type) := by
  let current (s : Endpoint) (a : Action) : Prop :=
    ∀ id ∈ (match a with | .install id _ => some id | _ => none),
      (s.inits id).map Prod.snd = some (.maskComputed (listenerMask s.kind s.slots))
  let run : List Action :=
    [.beginInit 0 .publicationMatched true, .computeMask 0, .install 0 true,
      .finishInit 0 .publicationMatched (some {}), .beginInit 1 .livelinessLost true,
      .computeMask 1, .install 1 true, .finishInit 1 .livelinessLost (some {})]
  obtain ⟨s, hexec, hinits, hfailed, hinstalled⟩ : ∃ s,
      Transition.exec (Transition.filterNext current next) (create .publisher) run = some s ∧
        (∀ id, s.inits id = none) ∧ s.initFailed = false ∧
          s.installed = {.publicationMatched, .livelinessLost} := by
    refine ⟨_, rfl, ?_, rfl, by decide⟩
    rintro (_ | _ | id) <;> rfl
  have hr := Transition.reachable_restrict_of_filterNext
    ((Transition.run_of_exec hexec).reachable (.init rfl))
  have hr' : ((system .publisher).restrict InstallsCurrentMask).Reachable s := by
    refine hr.mono ?_
    intro s a h
    cases a with
    | install id ok =>
        cases ok with
        | true => exact .inl (h id rfl)
        | false => trivial
    | _ => trivial
  exact ⟨s, hinstalled, listener_complete hr' hinits hfailed .livelinessLost⟩

/-- Two initializations of one publisher both compute their mask before either
installs it, and the older mask is installed last. -/
theorem listener_lost :
    ¬ ∀ (kind : EndpointKind) (s : Endpoint), (system kind).Reachable s →
      (∀ id, s.inits id = none) → s.initFailed = false →
      ∀ status, status ∈ s.installed ↔
        ∃ type, (s.slots type).guard ≠ none ∧ status ∈ eventMask type := by
  intro hall
  let run : List Action :=
    [.beginInit 0 .publicationMatched true, .computeMask 0, .beginInit 1 .livelinessLost true,
      .computeMask 1, .install 1 true, .install 0 true,
      .finishInit 0 .publicationMatched (some {}), .finishInit 1 .livelinessLost (some {})]
  obtain ⟨s, hexec, hinits, hfailed, hinstalled, hguard⟩ : ∃ s,
      Transition.exec next (create .publisher) run = some s ∧ (∀ id, s.inits id = none) ∧
        s.initFailed = false ∧ DdsStatus.livelinessLost ∉ s.installed ∧
          (s.slots .livelinessLost).guard ≠ none := by
    refine ⟨_, rfl, ?_, rfl, by decide, by decide⟩
    rintro (_ | _ | id) <;> rfl
  have hr := (Transition.run_of_exec hexec).reachable (.init rfl)
  exact hinstalled ((hall .publisher s hr hinits hfailed .livelinessLost).mpr
    ⟨.livelinessLost, hguard, by decide⟩)

end Endpoint

end RmwZzdds.Event
