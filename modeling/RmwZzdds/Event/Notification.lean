import RmwZzdds.Event.EventCount

/-!
# Notifications

A counted event should be told to the registered callback once.  The listeners
and the matched count do both in one critical section, and
`rmw_event_set_callback` tells a new callback what no other one was told.  The
events told since the last take are always the count reported
(`told_reachable`), so what is left to show is that the count reported is the
count.

*The gap.*  `finishInitialize` counts and tells nobody.  For the first
initialization of an event no callback is registered yet.  A second one may
read a change before its listener does, while a callback is registered, and
then the listener finds nothing left to count (`counted_without_notification`).
`TellsCounted` is the condition under which this does not happen: nobody is
registered, or the initialization counts nothing, or a call of
`rmw_event_set_callback` has yet to tell.
-/

namespace RmwZzdds.Event

/-! ## Calls of `rmw_event_set_callback` -/

namespace Endpoint

/-- A call that has stored its callback and not told it anything yet stays so
until its second critical section. -/
theorem stored_of_next {s s' : Endpoint} {a : Action} {id : CallId} {type : EventType}
    (hid : s.sets id = some (type, .stored)) (h : s.next a = some s') :
    s'.sets id = some (type, .stored) ∨ a = .afterSetCallback id := by
  have hother : ∀ {id' : CallId} {set : Option (EventType × SetStage)}, id ≠ id' →
      Function.update s.sets id' set id = some (type, .stored) := fun hne => by
    rw [Function.update_of_ne hne, hid]
  cases a with
  | listener type' status got =>
      simp only [next, Option.ite_none_right_eq_some, Option.some.injEq] at h
      obtain ⟨-, rfl⟩ := h
      exact .inl (by simpa [withSlot] using hid)
  | takeEvent type' got =>
      simp only [next, Option.ite_none_right_eq_some, Option.some.injEq] at h
      obtain ⟨-, rfl⟩ := h
      refine .inl ?_
      cases ((s.slots type').takeEvent type' got).2 <;> exact hid
  | countMatched type' got =>
      simp only [next, Option.ite_none_right_eq_some, Option.some.injEq] at h
      obtain ⟨-, rfl⟩ := h
      exact .inl (by simpa [withSlot] using hid)
  | beginInit id' type' created =>
      simp only [next, Option.ite_none_right_eq_some] at h
      obtain ⟨-, h⟩ := h
      split at h <;> cases h <;> exact .inl hid
  | computeMask id' =>
      simp only [next] at h
      split at h <;> cases h
      exact .inl hid
  | install id' ok =>
      simp only [next] at h
      split at h
      · split at h <;> cases h <;> exact .inl hid
      · cases h
  | finishInit id' type' got =>
      simp only [next, Option.ite_none_right_eq_some, Option.some.injEq] at h
      obtain ⟨-, rfl⟩ := h
      exact .inl hid
  | setCallback id' type' callback userData =>
      simp only [next, Option.ite_none_right_eq_some, Option.some.injEq] at h
      obtain ⟨⟨-, hnone⟩, rfl⟩ := h
      refine .inl (hother ?_)
      rintro rfl
      rw [hid] at hnone
      cases hnone
  | afterSetCallback id' =>
      by_cases hne : id = id'
      · exact .inr (by rw [hne])
      · simp only [next] at h
        split at h <;> cases h
        exact .inl (by simpa using hother hne)
  | returnSetCallback id' =>
      simp only [next] at h
      split at h
      next type' hid' =>
        split at h <;> cases h
        refine .inl (hother ?_)
        rintro rfl
        rw [hid] at hid'
        cases hid'
      next => cases h
  | call index =>
      simp only [next, Option.ite_none_right_eq_some, Option.some.injEq] at h
      obtain ⟨-, rfl⟩ := h
      exact .inl hid

/-- Some call has stored a callback for the type and not told it anything
yet. -/
def Telling (s : Endpoint) (type : EventType) : Prop :=
  ∃ id, s.sets id = some (type, .stored)

end Endpoint

/-! ## Reported counts after a critical section -/

namespace EventSlot

variable {k : StatusKind} (slot : EventSlot k)

/-- A registered callback was told everything counted. -/
def Notified : Prop := slot.callback = none ∨ slot.reported = slot.count

theorem createGuard_fields {slot slot' : EventSlot k} {created : Bool}
    (h : slot.createGuard created = some slot') :
    slot'.callback = slot.callback ∧ slot'.reported = slot.reported := by
  unfold createGuard at h
  split at h
  · cases h
    exact ⟨rfl, rfl⟩
  · split at h <;> cases h
    exact ⟨rfl, rfl⟩

theorem afterSetCallback_notified : slot.afterSetCallback.1.Notified := by
  unfold afterSetCallback
  split
  next hnone => exact .inl hnone
  next => exact .inr rfl

/-- Telling a new callback reports what was left to tell. -/
theorem afterSetCallback_reported (h : slot.Triggered) (hcount : slot.count < 2 ^ 64) :
    slot.afterSetCallback.1.reported = slot.reported + events slot.afterSetCallback.2 := by
  unfold afterSetCallback
  split
  · rfl
  · have hle := h.reported
    dsimp only
    rw [h.unreported hcount]
    split
    · exact (Nat.add_sub_cancel' hle).symm
    · dsimp only [events]
      omega

theorem Notified.counted {slot : EventSlot k} (h : slot.Notified) (added : Nat) :
    (slot.counted added).1.Notified := by
  by_cases hcallback : slot.callback = none
  · exact .inl (by rw [counted_callback, hcallback])
  · have hreported := h.resolve_left hcallback
    refine .inr ?_
    rw [counted_reported, counted_count, events_counted _ hcallback, hreported]

end EventSlot

/-! ## Told events -/

namespace World

/-- A critical section keeps the events told and the count reported equal. -/
theorem told_next {w : World} {type : EventType} {s' : Endpoint} {a : Action}
    (hbounded : Bounded w type) (htriggered : (w.endpoint.slots type).Triggered)
    (h : w.endpoint.told type = (w.endpoint.slots type).reported)
    (hs : w.endpoint.next a = some s') : s'.told type = (s'.slots type).reported := by
  cases Endpoint.slotStep_of_next type hs with
  | idle _ hslot _ htold => rw [hslot, htold, h]
  | @listener status got _ _ hslot _ htold =>
      obtain ⟨added, hadded⟩ := (w.endpoint.slots type).listener_counted status got
      rw [hslot, htold, hadded, EventSlot.counted_reported, EventSlot.readStatus_reported, h]
  | @countMatched got _ _ hslot _ htold =>
      obtain ⟨added, -, hadded⟩ := (w.endpoint.slots type).readMatchedCount_counted got
      rw [hslot, htold, congrArg Prod.fst hadded, congrArg Prod.snd hadded,
        EventSlot.counted_reported, EventSlot.readStatus_reported, h]
  | @takeFailed got _ _ hnone hslot _ htold =>
      cases got with
      | none => rw [hslot, htold, h, EventSlot.takeEvent_none]
      | some now => cases hnone
  | @take got _ _ _ hinfo hslot _ htold =>
      cases got with
      | none => cases hinfo
      | some now =>
          rw [hslot, htold, EventSlot.takeEvent_some]
          rfl
  | createGuard hguard hslot _ htold =>
      rw [hslot, htold, h, (EventSlot.createGuard_fields hguard).2]
  | finishInit _ hslot _ htold => rw [hslot, htold, h, EventSlot.finishInitialize_reported]
  | setCallback hslot _ htold =>
      rw [hslot, htold, h]
      rfl
  | afterSetCallback _ hslot _ htold =>
      have hlt := lt_of_le_of_lt hbounded.count_le (untakenEvents_lt _)
      rw [hslot, htold, h, EventSlot.afterSetCallback_reported _ htriggered hlt]

/-- The events told since the last take are the count reported. -/
theorem told_reachable {kind : EndpointKind} {w : World} (h : (system kind).Reachable w)
    {type : EventType} (hk : type.kind ≠ .livelinessChanged) :
    w.endpoint.told type = (w.endpoint.slots type).reported := by
  refine h.invariant_of (I := fun w => w.endpoint.told type = (w.endpoint.slots type).reported)
    (J := (system kind).Reachable) (fun w hw => hw) ?_ ?_
  · rintro w rfl
    rfl
  · intro w a w' hr ih hs
    have hbounded := bounded_reachable hr hk
    have htriggered := Endpoint.triggered_reachable (endpoint_reachable hr) type
    cases worldStep_of_next hs with
    | change => exact ih
    | coalesce => exact ih
    | listener _ _ he => exact told_next hbounded htriggered ih he
    | act _ _ he => exact told_next hbounded htriggered ih he

/-! ## Notified callbacks -/

/-- When an initialization counts events, nobody is registered for them, or a
call of `rmw_event_set_callback` has yet to tell them. -/
def TellsCounted (w : World) : WorldAction → Prop
  | .act (.finishInit _ type got) =>
      type.kind ≠ .livelinessChanged →
        (w.endpoint.slots type).callback = none ∨ (w.endpoint.slots type).count ≠ 0 ∨
          untakenEvents ((w.endpoint.slots type).readStatus got).1.stored = 0 ∨
            w.endpoint.Telling type
  | _ => True

theorem notified_next {type : EventType} {s s' : Endpoint} {a : Action}
    (hcounts : ∀ id got, a = .finishInit id type got →
      (s.slots type).callback = none ∨ (s.slots type).count ≠ 0 ∨
        untakenEvents ((s.slots type).readStatus got).1.stored = 0)
    (hset : ∀ id callback userData, a ≠ .setCallback id type callback userData)
    (h : (s.slots type).Notified) (hs : s.next a = some s') : (s'.slots type).Notified := by
  cases Endpoint.slotStep_of_next type hs with
  | idle _ hslot =>
      rw [hslot]
      exact h
  | @listener status got _ _ hslot =>
      obtain ⟨added, hadded⟩ := (s.slots type).listener_counted status got
      rw [hslot, hadded]
      exact EventSlot.Notified.counted (by simpa [EventSlot.Notified] using h) added
  | @countMatched got _ _ hslot =>
      obtain ⟨added, -, hadded⟩ := (s.slots type).readMatchedCount_counted got
      rw [hslot, congrArg Prod.fst hadded]
      exact EventSlot.Notified.counted (by simpa [EventSlot.Notified] using h) added
  | @takeFailed got _ _ hnone hslot =>
      cases got with
      | none =>
          rw [hslot]
          exact h
      | some now => cases hnone
  | @take got _ _ _ hinfo hslot =>
      cases got with
      | none => cases hinfo
      | some now =>
          rw [hslot, EventSlot.takeEvent_some]
          exact .inr rfl
  | createGuard hguard hslot =>
      obtain ⟨hcallback, hreported⟩ := EventSlot.createGuard_fields hguard
      rw [hslot, EventSlot.Notified, hcallback, hreported, EventSlot.createGuard_count hguard]
      exact h
  | @finishInit id got _ _ hslot =>
      rw [hslot, EventSlot.Notified, EventSlot.finishInitialize_callback,
        EventSlot.finishInitialize_reported, EventSlot.finishInitialize_count]
      rcases hcounts id got rfl with hnone | hcount | huntaken
      · exact .inl hnone
      · rw [if_neg hcount]
        exact h
      · refine h.imp_right fun hreported => ?_
        rw [huntaken, hreported]
        split
        next hzero => exact hzero
        next => rfl
  | setCallback => exact absurd rfl (hset _ _ _)
  | afterSetCallback _ hslot =>
      rw [hslot]
      exact EventSlot.afterSetCallback_notified _

/-- A registered callback was told everything counted, or a call has yet to
tell it. -/
def NotifiedOrTelling (s : Endpoint) (type : EventType) : Prop :=
  s.Telling type ∨ (s.slots type).Notified

theorem notifiedOrTelling_next {type : EventType} {s s' : Endpoint} {a : Action}
    (hcounts : ∀ id got, a = .finishInit id type got →
      (s.slots type).callback = none ∨ (s.slots type).count ≠ 0 ∨
        untakenEvents ((s.slots type).readStatus got).1.stored = 0 ∨ s.Telling type)
    (h : NotifiedOrTelling s type) (hs : s.next a = some s') : NotifiedOrTelling s' type := by
  by_cases hset : ∃ id callback userData, a = .setCallback id type callback userData
  · obtain ⟨id, callback, userData, rfl⟩ := hset
    simp only [Endpoint.next, Option.ite_none_right_eq_some, Option.some.injEq] at hs
    obtain ⟨-, rfl⟩ := hs
    exact .inl ⟨id, Function.update_self ..⟩
  push Not at hset
  have htelling : s.Telling type → NotifiedOrTelling s' type := by
    rintro ⟨id, hid⟩
    rcases Endpoint.stored_of_next hid hs with hid' | rfl
    · exact .inl ⟨id, hid'⟩
    · simp only [Endpoint.next, hid, Option.some.injEq] at hs
      subst hs
      refine .inr ?_
      simp only [Endpoint.tell_slots, Endpoint.withSlot_slots_self]
      exact EventSlot.afterSetCallback_notified _
  by_cases ht : s.Telling type
  · exact htelling ht
  · refine .inr (notified_next ?_ hset (h.resolve_left ht) hs)
    intro id got ha
    rcases hcounts id got ha with hnone | hcount | huntaken | htell
    · exact .inl hnone
    · exact .inr (.inl hcount)
    · exact .inr (.inr huntaken)
    · exact absurd htell ht

theorem notifiedOrTelling_reachable {kind : EndpointKind} {w : World}
    (h : ((system kind).restrict TellsCounted).Reachable w) {type : EventType}
    (hk : type.kind ≠ .livelinessChanged) : NotifiedOrTelling w.endpoint type := by
  refine h.invariant (I := fun w => NotifiedOrTelling w.endpoint type) ?_ ?_
  · rintro w rfl
    exact .inr (.inl rfl)
  · rintro w a w' ih ⟨hP, hs⟩
    cases worldStep_of_next hs with
    | change => exact ih
    | coalesce => exact ih
    | listener _ _ he => exact notifiedOrTelling_next (by simp) ih he
    | act _ _ he =>
        refine notifiedOrTelling_next ?_ ih he
        rintro id got rfl
        exact hP hk

/-- With no call of `rmw_event_set_callback` in progress, a registered callback
was told every event counted since the last take, each of them once. -/
theorem callback_notified {kind : EndpointKind} {w : World}
    (h : ((system kind).restrict TellsCounted).Reachable w) {type : EventType}
    (hk : type.kind ≠ .livelinessChanged)
    (hsets : ∀ id stage, w.endpoint.sets id ≠ some (type, stage))
    (hcallback : (w.endpoint.slots type).callback ≠ none) :
    (w.endpoint.slots type).reported = (w.endpoint.slots type).count ∧
      w.endpoint.told type = (w.endpoint.slots type).count := by
  have hreported : (w.endpoint.slots type).reported = (w.endpoint.slots type).count := by
    rcases notifiedOrTelling_reachable h hk with ⟨id, hid⟩ | hnotified
    · exact absurd hid (hsets id .stored)
    · exact hnotified.resolve_left hcallback
  exact ⟨hreported, (told_reachable h.of_restrict hk).trans hreported⟩

/-- A callback registered before a match is told about it by the listener. -/
theorem callback_notified_matched :
    ∃ w : World, (w.endpoint.slots .subscriptionMatched).count = 1 ∧
      (w.endpoint.slots .subscriptionMatched).reported = 1 ∧
        w.endpoint.told .subscriptionMatched = 1 := by
  let run : List WorldAction :=
    [.act (.beginInit 0 .subscriptionMatched true), .act (.computeMask 0),
      .act (.install 0 true)]
  let rest : List WorldAction :=
    [.act (.finishInit 0 .subscriptionMatched (some {})),
      .act (.setCallback 0 .subscriptionMatched (some 7) 0), .act (.afterSetCallback 0),
      .act (.returnSetCallback 0), .change .subscriptionMatched (1, 1),
      .listener 0 .subscriptionMatched { totalCount := 1, currentCount := 1 }
        (some { totalCount := 1, currentCount := 1 })]
  obtain ⟨w1, hexec1, hnone⟩ : ∃ w1, Transition.exec next (create .subscription) run = some w1 ∧
      (w1.endpoint.slots .subscriptionMatched).callback = none := ⟨_, rfl, rfl⟩
  obtain ⟨w, hexec, hsets, hcallback, hcount⟩ : ∃ w,
      Transition.exec next (create .subscription) (run ++ rest) = some w ∧
        (∀ id, w.endpoint.sets id = none) ∧
          (w.endpoint.slots .subscriptionMatched).callback = some 7 ∧
            (w.endpoint.slots .subscriptionMatched).count = 1 := by
    refine ⟨_, rfl, ?_, by decide +kernel, by decide +kernel⟩
    rintro (_ | id) <;> rfl
  have hr1 := Transition.reachable_restrict_of_exec (P := TellsCounted) (.init rfl) hexec1
    (by simp [run, TellsCounted])
  rw [Transition.exec_append, hexec1] at hexec
  have hr := Transition.reachable_restrict_of_exec_cons hr1 hexec (fun _ => .inl hnone)
    (by simp [TellsCounted])
  have hkind : EventType.subscriptionMatched.kind ≠ .livelinessChanged := by decide
  obtain ⟨hreported, htold⟩ := callback_notified hr hkind (by simp [hsets]) (by simp [hcallback])
  exact ⟨w, hcount, hreported.trans hcount, htold.trans hcount⟩

/-- A second initialization reads a match before its listener does, and counts
it without telling the registered callback. -/
theorem counted_without_notification :
    ¬ ∀ (kind : EndpointKind) (w : World), (system kind).Reachable w →
      (∀ id, w.endpoint.sets id = none) → ∀ type : EventType,
        type.kind ≠ .livelinessChanged → (w.endpoint.slots type).callback ≠ none →
          (w.endpoint.slots type).reported = (w.endpoint.slots type).count := by
  intro hall
  let one : MatchedStatus := { totalCount := 1, currentCount := 1 }
  let run : List WorldAction :=
    [.act (.beginInit 0 .subscriptionMatched true), .act (.computeMask 0),
      .act (.install 0 true), .act (.finishInit 0 .subscriptionMatched (some {})),
      .act (.setCallback 0 .subscriptionMatched (some 7) 0), .act (.afterSetCallback 0),
      .act (.returnSetCallback 0), .change .subscriptionMatched (1, 1),
      .act (.beginInit 1 .subscriptionMatched true), .act (.computeMask 1),
      .act (.install 1 true), .act (.finishInit 1 .subscriptionMatched (some one))]
  obtain ⟨w, hexec, hsets, hcallback, hcount, hreported⟩ : ∃ w,
      Transition.exec next (create .subscription) run = some w ∧
        (∀ id, w.endpoint.sets id = none) ∧
          (w.endpoint.slots .subscriptionMatched).callback = some 7 ∧
            (w.endpoint.slots .subscriptionMatched).count = 1 ∧
              (w.endpoint.slots .subscriptionMatched).reported = 0 := by
    refine ⟨_, rfl, ?_, rfl, by decide +kernel, rfl⟩
    rintro (_ | id) <;> rfl
  have hr := (Transition.run_of_exec hexec).reachable (.init rfl)
  have hlaw := hall .subscription w hr hsets .subscriptionMatched (by decide) (by simp [hcallback])
  rw [hcount, hreported] at hlaw
  cases hlaw

end World

end RmwZzdds.Event
