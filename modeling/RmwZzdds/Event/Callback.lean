import RmwZzdds.Event.Initialization

/-!
# Invocations of cleared callbacks

All three code paths that call a callback read it under `event_mutex` and call
it after the unlock.  Between the two a call of `rmw_event_set_callback` may
clear or replace it and return, so the old callback is called after that
(`called_after_cleared`).

What holds is that no invocation starts any more.  A step that puts an
invocation in flight takes the callback and the user data registered at that
moment (`Launched`), so once others are registered the invocations of the old
ones still to come are among those in flight before (`inflight_of_cleared`).
-/

namespace RmwZzdds.Event

namespace EventSlot

variable {k : StatusKind} (slot : EventSlot k)

/-! ## Registered callbacks -/

/-- The callback registered and its user data. -/
def registered : Option Callback × UserData := (slot.callback, slot.userData)

@[simp] theorem readStatus_registered (got : Option (Status k)) :
    (slot.readStatus got).1.registered = slot.registered := by
  cases got <;> rfl

@[simp] theorem counted_registered (added : Nat) :
    (slot.counted added).1.registered = slot.registered := by
  unfold counted countEventsLocked registered
  split
  · rfl
  · split <;> simp [setTriggerValue, *]

theorem finishInitialize_registered (got : Option (Status k)) :
    (slot.finishInitialize got).registered = slot.registered := by
  rw [← slot.readStatus_registered got]
  simp only [finishInitialize, registered]
  split <;> rfl

theorem afterSetCallback_registered :
    slot.afterSetCallback.1.registered = slot.registered := by
  unfold afterSetCallback registered
  split <;> simp [*]

theorem createGuard_registered {slot slot' : EventSlot k} {created : Bool}
    (h : slot.createGuard created = some slot') : slot'.registered = slot.registered := by
  unfold createGuard at h
  split at h
  · cases h
    rfl
  · split at h <;> cases h
    rfl

/-! ## Launched invocations -/

/-- A notification is for the registered callback and its user data. -/
def Launched (n : Option Notification) : Prop :=
  ∀ m ∈ n, (some m.callback, m.userData) = slot.registered

theorem counted_launched (added : Nat) : slot.Launched (slot.counted added).2 := by
  unfold counted countEventsLocked Launched registered
  split
  · simp
  · split <;> simp [*]

theorem afterSetCallback_launched : slot.Launched slot.afterSetCallback.2 := by
  unfold afterSetCallback Launched registered
  split
  · simp
  · dsimp only
    split <;> simp [*]

end EventSlot

namespace Endpoint

/-- The registered callback changes only through `rmw_event_set_callback`. -/
theorem registered_of_next {type : EventType} {s s' : Endpoint} {a : Action}
    (h : s.next a = some s')
    (ha : ∀ id callback userData, a ≠ .setCallback id type callback userData) :
    (s'.slots type).registered = (s.slots type).registered := by
  cases slotStep_of_next type h with
  | idle _ hslot => rw [hslot]
  | @listener status got _ _ hslot =>
      obtain ⟨added, hadded⟩ := (s.slots type).listener_counted status got
      rw [hslot, hadded, EventSlot.counted_registered, EventSlot.readStatus_registered]
  | @countMatched got _ _ hslot =>
      obtain ⟨added, -, hadded⟩ := (s.slots type).readMatchedCount_counted got
      rw [hslot, congrArg Prod.fst hadded, EventSlot.counted_registered,
        EventSlot.readStatus_registered]
  | @takeFailed got _ _ hnone hslot =>
      cases got with
      | none => rw [hslot, EventSlot.takeEvent_none]
      | some now => cases hnone
  | @take got _ _ _ hinfo hslot =>
      cases got with
      | none => cases hinfo
      | some now =>
          rw [hslot, EventSlot.takeEvent_some]
          rfl
  | createGuard hguard hslot => rw [hslot, EventSlot.createGuard_registered hguard]
  | finishInit _ hslot => rw [hslot, EventSlot.finishInitialize_registered]
  | setCallback => exact absurd rfl (ha _ _ _)
  | afterSetCallback _ hslot => rw [hslot, EventSlot.afterSetCallback_registered]

/-- A step adds at most one invocation, at the end, and one of the callback
registered at that moment. -/
inductive InflightStep (s s' : Endpoint) : Prop where
  | fewer : s'.inflight.Sublist s.inflight → InflightStep s s'
  | launch {type : EventType} {owner : Option CallId} {n : Notification} :
      s'.inflight = s.inflight ++ [⟨type, owner, n⟩] →
      (some n.callback, n.userData) = (s.slots type).registered → InflightStep s s'

theorem inflightStep_tell {s t : Endpoint} {type : EventType} {owner : Option CallId}
    {n : Option Notification} (ht : t.inflight = s.inflight)
    (hn : (s.slots type).Launched n) : InflightStep s (t.tell type owner n) := by
  cases n with
  | none => exact .fewer (by rw [← ht]; exact List.Sublist.refl _)
  | some n => exact .launch (by rw [← ht]; rfl) (hn n rfl)

theorem inflightStep_of_next {s s' : Endpoint} {a : Action} (h : s.next a = some s') :
    InflightStep s s' := by
  cases a with
  | listener type status got =>
      simp only [next, Option.ite_none_right_eq_some, Option.some.injEq] at h
      obtain ⟨-, rfl⟩ := h
      obtain ⟨added, hadded⟩ := (s.slots type).listener_counted status got
      refine inflightStep_tell rfl ?_
      rw [hadded, EventSlot.Launched, ← EventSlot.readStatus_registered _ got]
      exact EventSlot.counted_launched _ added
  | takeEvent type got =>
      simp only [next, Option.ite_none_right_eq_some, Option.some.injEq] at h
      obtain ⟨-, rfl⟩ := h
      refine .fewer ?_
      cases ((s.slots type).takeEvent type got).2 <;> exact List.Sublist.refl _
  | countMatched type got =>
      simp only [next, Option.ite_none_right_eq_some, Option.some.injEq] at h
      obtain ⟨-, rfl⟩ := h
      obtain ⟨added, -, hadded⟩ := (s.slots type).readMatchedCount_counted got
      refine inflightStep_tell rfl ?_
      rw [congrArg Prod.snd hadded, EventSlot.Launched, ← EventSlot.readStatus_registered _ got]
      exact EventSlot.counted_launched _ added
  | beginInit id type created =>
      simp only [next, Option.ite_none_right_eq_some] at h
      obtain ⟨-, h⟩ := h
      split at h <;> cases h <;> exact .fewer (List.Sublist.refl _)
  | computeMask id =>
      simp only [next] at h
      split at h <;> cases h
      exact .fewer (List.Sublist.refl _)
  | install id ok =>
      simp only [next] at h
      split at h
      · split at h <;> cases h <;> exact .fewer (List.Sublist.refl _)
      · cases h
  | finishInit id type got =>
      simp only [next, Option.ite_none_right_eq_some, Option.some.injEq] at h
      obtain ⟨-, rfl⟩ := h
      exact .fewer (List.Sublist.refl _)
  | setCallback id type callback userData =>
      simp only [next, Option.ite_none_right_eq_some, Option.some.injEq] at h
      obtain ⟨-, rfl⟩ := h
      exact .fewer (List.Sublist.refl _)
  | afterSetCallback id =>
      simp only [next] at h
      split at h
      next type hid =>
        cases h
        exact inflightStep_tell rfl (EventSlot.afterSetCallback_launched _)
      next => cases h
  | returnSetCallback id =>
      simp only [next] at h
      split at h
      · split at h <;> cases h
        exact .fewer (List.Sublist.refl _)
      · cases h
  | call index =>
      simp only [next, Option.ite_none_right_eq_some, Option.some.injEq] at h
      obtain ⟨-, rfl⟩ := h
      exact .fewer (List.eraseIdx_sublist ..)

/-! ## Cleared callbacks -/

/-- An invocation of `callback` with `userData` for events of `type`. -/
def Invokes (type : EventType) (callback : Callback) (userData : UserData)
    (call : InFlight) : Bool :=
  call.type = type ∧ call.notification.callback = callback ∧
    call.notification.userData = userData

/-- The invocations of `callback` with `userData` still to come. -/
def invocations (s : Endpoint) (type : EventType) (callback : Callback) (userData : UserData) :
    List InFlight :=
  s.inflight.filter (Invokes type callback userData)

/-- The step registers `callback` with `userData`. -/
def Registers (type : EventType) (callback : Callback) (userData : UserData) (a : Action) :
    Prop :=
  ∃ id, a = .setCallback id type (some callback) userData

section

variable {type : EventType} {callback : Callback} {userData : UserData}

/-- What is not registered stays so until it is registered again. -/
theorem registered_ne_of_next {s s' : Endpoint} {a : Action} (h : s.next a = some s')
    (ha : ¬ Registers type callback userData a)
    (hne : (s.slots type).registered ≠ (some callback, userData)) :
    (s'.slots type).registered ≠ (some callback, userData) := by
  by_cases hset : ∃ id callback' userData', a = .setCallback id type callback' userData'
  · obtain ⟨id, callback', userData', rfl⟩ := hset
    simp only [next, Option.ite_none_right_eq_some, Option.some.injEq] at h
    obtain ⟨-, rfl⟩ := h
    intro hregistered
    simp only [withSlot_slots_self, EventSlot.registered, EventSlot.setCallback,
      Prod.mk.injEq] at hregistered
    obtain ⟨rfl, rfl⟩ := hregistered
    exact ha ⟨id, rfl⟩
  · push Not at hset
    rw [registered_of_next h hset]
    exact hne

theorem invocations_of_next {s s' : Endpoint} {a : Action} (h : s.next a = some s')
    (hne : (s.slots type).registered ≠ (some callback, userData)) :
    (s'.invocations type callback userData).Sublist (s.invocations type callback userData) := by
  cases inflightStep_of_next h with
  | fewer hsub => exact hsub.filter _
  | @launch type' owner n hinflight hregistered =>
      have hother : Invokes type callback userData ⟨type', owner, n⟩ = false := by
        refine decide_eq_false ?_
        rintro ⟨rfl, rfl, rfl⟩
        exact hne hregistered.symm
      rw [invocations, hinflight, List.filter_append, List.filter_cons_of_neg (by simp [hother])]
      simp [invocations]

/-- A run that does not register the callback again launches no invocation of
it. -/
theorem invocations_of_run {kind : EndpointKind} {s s' : Endpoint} {as : List Action}
    (h : (system kind).Run s as s') (has : ∀ a ∈ as, ¬ Registers type callback userData a)
    (hne : (s.slots type).registered ≠ (some callback, userData)) :
    (s'.invocations type callback userData).Sublist (s.invocations type callback userData) := by
  induction h with
  | nil s => exact List.Sublist.refl _
  | @cons s s1 s2 a as hs _ ih =>
      have ha := has a (List.mem_cons_self ..)
      have hrest := ih (fun b hb => has b (List.mem_cons_of_mem _ hb))
        (registered_ne_of_next hs ha hne)
      exact hrest.trans (invocations_of_next hs hne)

/-- From the moment `rmw_event_set_callback` stores another callback or other
user data, until the old ones are registered again, the invocations of the old
callback still to come are among those that were in flight before. -/
theorem inflight_of_cleared {kind : EndpointKind} {s s1 s2 : Endpoint} {id : CallId}
    {callback' : Option Callback} {userData' : UserData} {as : List Action}
    (hset : s.next (.setCallback id type callback' userData') = some s1)
    (hother : (callback', userData') ≠ (some callback, userData))
    (hrun : (system kind).Run s1 as s2)
    (has : ∀ a ∈ as, ¬ Registers type callback userData a) :
    (s2.invocations type callback userData).Sublist (s.invocations type callback userData) ∧
      ∀ index call s3, s2.inflight[index]? = some call → s2.next (.call index) = some s3 →
        Invokes type callback userData call = true → call ∈ s.inflight := by
  simp only [next, Option.ite_none_right_eq_some, Option.some.injEq] at hset
  obtain ⟨-, rfl⟩ := hset
  have hkeep : (s2.invocations type callback userData).Sublist
      (s.invocations type callback userData) := by
    have hne : (((s.withSlot type ((s.slots type).setCallback callback' userData')).slots
        type)).registered ≠ (some callback, userData) := by
      rw [withSlot_slots_self]
      exact hother
    have hsub := invocations_of_run hrun has hne
    exact hsub
  refine ⟨hkeep, ?_⟩
  intro index call s3 hindex _ hinvokes
  have hmem : call ∈ s2.invocations type callback userData :=
    List.mem_filter.mpr ⟨List.mem_of_getElem? hindex, hinvokes⟩
  exact List.mem_of_mem_filter (hkeep.subset hmem)

end

/-- An invocation launched by a listener, with the callback cleared before it
is made. -/
theorem inflight_of_cleared_listener :
    ∃ s s1 : Endpoint,
      (s1.invocations .subscriptionMatched 7 5).Sublist
        (s.invocations .subscriptionMatched 7 5) ∧
      s.invocations .subscriptionMatched 7 5 = [⟨.subscriptionMatched, none, ⟨7, 5, 1⟩⟩] := by
  let run : List Action :=
    [.beginInit 0 .subscriptionMatched true, .computeMask 0, .install 0 true,
      .finishInit 0 .subscriptionMatched (some {}),
      .setCallback 0 .subscriptionMatched (some 7) 5, .afterSetCallback 0, .returnSetCallback 0,
      .listener .subscriptionMatched { totalCount := 1, currentCount := 1 }
        (some { totalCount := 1, currentCount := 1 })]
  obtain ⟨s, -, s1, hs1, hinflight⟩ : ∃ s,
      Transition.exec next (create .subscription) run = some s ∧ ∃ s1,
        s.next (.setCallback 1 .subscriptionMatched none 0) = some s1 ∧
          s.invocations .subscriptionMatched 7 5 =
            [⟨.subscriptionMatched, none, ⟨7, 5, 1⟩⟩] :=
    ⟨_, rfl, _, rfl, by decide +kernel⟩
  have hrun : (system .subscription).Run s1 [] s1 := .nil s1
  exact ⟨s, s1, (inflight_of_cleared hs1 (by simp) hrun (by simp)).1, hinflight⟩

/-- A listener reads the callback, `rmw_event_set_callback` clears it and
returns, and the listener calls it. -/
theorem called_after_cleared :
    ¬ ∀ (kind : EndpointKind) (type : EventType) (callback : Callback) (userData : UserData)
        (s s1 s2 s3 s4 s5 : Endpoint) (id : CallId) (callback' : Option Callback)
        (userData' : UserData) (as bs : List Action) (index : Nat) (call : InFlight),
      (system kind).Reachable s → (s.slots type).registered = (some callback, userData) →
      (callback', userData') ≠ (some callback, userData) →
      s.next (.setCallback id type callback' userData') = some s1 →
      (system kind).Run s1 as s2 → (∀ a ∈ as, ¬ Registers type callback userData a) →
      s2.next (.returnSetCallback id) = some s3 →
      (system kind).Run s3 bs s4 → (∀ b ∈ bs, ¬ Registers type callback userData b) →
      s4.inflight[index]? = some call → s4.next (.call index) = some s5 →
      Invokes type callback userData call = false := by
  intro hall
  let run : List Action :=
    [.beginInit 0 .subscriptionMatched true, .computeMask 0, .install 0 true,
      .finishInit 0 .subscriptionMatched (some {}),
      .setCallback 0 .subscriptionMatched (some 7) 5, .afterSetCallback 0, .returnSetCallback 0,
      .listener .subscriptionMatched { totalCount := 1, currentCount := 1 }
        (some { totalCount := 1, currentCount := 1 })]
  obtain ⟨s, hs, hregistered, s1, hs1, s2, hs2, s3, hs3, s4, hs4, hinflight⟩ : ∃ s,
      Transition.exec next (create .subscription) run = some s ∧
        (s.slots .subscriptionMatched).registered = (some 7, 5) ∧ ∃ s1,
          s.next (.setCallback 1 .subscriptionMatched none 0) = some s1 ∧ ∃ s2,
            s1.next (.afterSetCallback 1) = some s2 ∧ ∃ s3,
              s2.next (.returnSetCallback 1) = some s3 ∧ ∃ s4,
                s3.next (.call 0) = some s4 ∧
                  s3.inflight[0]? = some ⟨.subscriptionMatched, none, ⟨7, 5, 1⟩⟩ :=
    ⟨_, rfl, by decide +kernel, _, rfl, _, rfl, _, rfl, _, rfl, by decide +kernel⟩
  have hr := (Transition.run_of_exec hs).reachable (.init rfl)
  have hlaw := hall .subscription .subscriptionMatched 7 5 s s1 s2 s3 s3 s4 1 none 0
    [.afterSetCallback 1] [] 0 _ hr hregistered (by simp) hs1 (.cons hs2 (.nil s2))
    (by simp [Registers]) hs3 (.nil s3) (by simp) hinflight hs4
  cases hlaw

end Endpoint

end RmwZzdds.Event
