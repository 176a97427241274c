import RmwZzdds.Event.EventCount

/-!
# Liveliness changed events

Writers that go alive and not alive cancel out in the counts of liveliness
changed, so its events have no exact count.  Its listener counts one event when
the status zzdds passes differs from the one at the last take, which is the
stored status without its untaken changes.

No wake-up is lost nevertheless.  The last change of a run owes a listener call
that passes zzdds's current counts, until that call is made.  If it is made and
the counts differ from those at the last take, it counts an event (`Woken`).

*Assumption.*  `Announced` admits the runs in which every change of an
initialized event is followed by a listener call of its own, and in which the
getter of an initialization succeeds.
-/

namespace RmwZzdds.Event

/-! ## Arithmetic -/

theorem toInt_abs {x : Int32} (h : -2 ^ 31 < x.toInt) : x.abs.toInt = x.toInt.natAbs := by
  refine BitVec.toInt_abs_eq_natAbs_of_ne_intMin fun hmin => ?_
  have hx : x.toInt = (BitVec.intMin 32).toInt := congrArg BitVec.toInt hmin
  rw [hx] at h
  exact absurd h (by decide)

/-- The estimate of untaken liveliness changes is zero only without any. -/
theorem toSizeT_max_abs_ne_zero {a b : Int32} (ha : -2 ^ 31 < a.toInt) (hb : -2 ^ 31 < b.toInt)
    (h : a.toInt ≠ 0 ∨ b.toInt ≠ 0) : toSizeT (max a.abs b.abs) ≠ 0 := by
  have ha' := toInt_abs ha
  have hb' := toInt_abs hb
  have hpos : 0 < (max a.abs b.abs).toInt := by
    show 0 < (if a.abs ≤ b.abs then b.abs else a.abs).toInt
    split
    next hle =>
      rw [Int32.le_iff_toInt_le] at hle
      omega
    next hlt =>
      rw [Int32.le_iff_toInt_le] at hlt
      omega
  have heq := toSizeT_of_nonneg hpos.le
  omega

/-- A count without its change, in the arithmetic of the code. -/
theorem toInt_sub_change {count change : Int32} {base : ℤ} (hbase : base + change.toInt = count.toInt)
    (h1 : 0 ≤ base) (h2 : base < 2 ^ 31) : (count - change).toInt = base := by
  rw [toInt_sub_of_range (by omega) (by omega)]
  omega

/-! ## The listener and the initialization -/

section

variable {stored now : Status .livelinessChanged} {base : ℤ × ℤ}

/-- A status passed that differs from the one at the last take is an event. -/
theorem livelinessChangedEvents_of_ne {slot : EventSlot .livelinessChanged}
    (h : Conserved slot.stored base) {status : Status .livelinessChanged}
    (hne : status.counts ≠ base) : slot.livelinessChangedEvents status = 1 := by
  obtain ⟨⟨h1, h1'⟩, h2, h2'⟩ := h.baseInRange
  have halive : base.1 + (LivelinessChangedStatus.aliveCountChange slot.stored).toInt =
      (LivelinessChangedStatus.aliveCount slot.stored).toInt := congrArg Prod.fst h.total
  have hnotAlive : base.2 + (LivelinessChangedStatus.notAliveCountChange slot.stored).toInt =
      (LivelinessChangedStatus.notAliveCount slot.stored).toInt := congrArg Prod.snd h.total
  unfold EventSlot.livelinessChangedEvents
  refine if_pos ?_
  by_contra hsame
  push Not at hsame
  refine hne (Prod.ext ?_ ?_)
  · show (LivelinessChangedStatus.aliveCount status).toInt = base.1
    rw [hsame.1]
    exact toInt_sub_change halive h1 h1'
  · show (LivelinessChangedStatus.notAliveCount status).toInt = base.2
    rw [hsame.2]
    exact toInt_sub_change hnotAlive h2 h2'

/-- The listener leaves an event counted if there was one or if the counts it
is passed are not those at the last take. -/
theorem listener_count_ne_zero {slot : EventSlot .livelinessChanged}
    (h : Conserved slot.stored base) {status : Status .livelinessChanged}
    {got : Option (Status .livelinessChanged)} (hgot : ∀ now ∈ got, NotOlder slot.stored now)
    (hne : slot.count ≠ 0 ∨ status.counts ≠ base) : (slot.listener status got).1.count ≠ 0 := by
  have hcount : (slot.listener status got).1.count =
      slot.count + (slot.readStatus got).1.livelinessChangedEvents status := by
    rw [EventSlot.listener, EventSlot.onStatus_eq, EventSlot.counted_count,
      EventSlot.readStatus_count]
  rcases hne with hcounted | hne
  · omega
  · rw [hcount, livelinessChangedEvents_of_ne (h.readStatus hgot) hne]
    omega

/-- Changes since the last take that do not cancel out are untaken events. -/
theorem untakenEvents_of_ne (h : Conserved stored base) (hne : stored.counts ≠ base) :
    untakenEvents stored ≠ 0 := by
  obtain ⟨⟨h1, h1'⟩, h2, h2'⟩ := h.baseInRange
  obtain ⟨⟨hc1, hc1'⟩, hc2, hc2'⟩ := h.inRange
  have halive : base.1 + stored.changes.1 = stored.counts.1 := congrArg Prod.fst h.total
  have hnotAlive : base.2 + stored.changes.2 = stored.counts.2 := congrArg Prod.snd h.total
  have hmoved : stored.changes.1 ≠ 0 ∨ stored.changes.2 ≠ 0 := by
    by_contra hsame
    push Not at hsame
    exact hne (Prod.ext (by omega) (by omega))
  exact toSizeT_max_abs_ne_zero (by change _ < stored.changes.1; omega)
    (by change _ < stored.changes.2; omega) hmoved

end

namespace World

/-! ## Wake-ups -/

/-- Every change of an initialized liveliness changed event owes a listener
call, no such call stands in for another one, and the getter of its
initialization succeeds. -/
def Announced (w : World) : WorldAction → Prop
  | .change type _ => type = .livelinessChanged → w.endpoint.initialized type = true →
      eventMask type ⊆ w.endpoint.installed
  | .coalesce index => ∀ p, w.pending[index]? ≠ some (.livelinessChanged, p)
  | .act (.finishInit _ type got) => type = .livelinessChanged → got.isSome = true
  | _ => True

/-- zzdds's counts are those at the last take, or an event is counted, or a
listener call with these counts is owed. -/
def Woken (w : World) : Prop :=
  w.endpoint.initialized .livelinessChanged = true →
    w.counts .livelinessChanged = w.base .livelinessChanged ∨
      (w.endpoint.slots .livelinessChanged).count ≠ 0 ∨
        (.livelinessChanged, w.counts .livelinessChanged) ∈ w.pending

theorem woken_record {w : World} (ht : Tracked w .livelinessChanged) (h : Woken w) {a : Action}
    {e : Endpoint} (hlistener : a.isListener = false) (hgot : w.GettersCurrent a)
    (hP : Announced w (.act a)) (hs : w.endpoint.next a = some e) : Woken (w.record a e) := by
  intro hinit
  -- every step but the take leaves the base, and zzdds's counts stay in all of them
  have hkeep : e.initialized .livelinessChanged = w.endpoint.initialized .livelinessChanged →
      (e.slots .livelinessChanged).count = (w.endpoint.slots .livelinessChanged).count →
      a.takes .livelinessChanged = false →
      w.counts .livelinessChanged = (w.record a e).base .livelinessChanged ∨
        (e.slots .livelinessChanged).count ≠ 0 ∨
          (.livelinessChanged, w.counts .livelinessChanged) ∈ w.pending := by
    intro hinitialized hcount htakes
    have hbase : (w.record a e).base .livelinessChanged = w.base .livelinessChanged := by
      simp [record, htakes]
    rw [hbase, hcount]
    exact h (hinitialized ▸ hinit)
  cases Endpoint.slotStep_of_next .livelinessChanged hs with
  | idle hreader hslot _ _ hinitialized =>
      exact hkeep hinitialized (by rw [hslot]) (Action.takes_of_reader hreader)
  | listener => cases hlistener
  | countMatched hkind =>
      cases hk : w.endpoint.kind <;> simp [hk, EndpointKind.matchedType] at hkind
  | @takeFailed got _ _ hnone hslot _ _ hinitialized =>
      cases got with
      | none => exact hkeep hinitialized (by rw [hslot, EventSlot.takeEvent_none]) rfl
      | some now => cases hnone
  | @take got _ _ _ hinfo =>
      cases got with
      | none => cases hinfo
      | some now => exact .inl (by simp [record, Action.takes])
  | createGuard hguard hslot _ _ hinitialized =>
      exact hkeep hinitialized (by rw [hslot, EventSlot.createGuard_count hguard]) rfl
  | @finishInit id got _ _ hslot =>
      obtain ⟨now, rfl⟩ := Option.isSome_iff_exists.mp (hP rfl)
      have hnow := hgot now rfl
      by_cases hbase : w.counts .livelinessChanged = w.base .livelinessChanged
      · exact .inl hbase
      · refine .inr (.inl ?_)
        show (e.slots .livelinessChanged).count ≠ 0
        rw [hslot, EventSlot.finishInitialize_count, EventSlot.readStatus_some]
        have hread : (addChanges (w.endpoint.slots .livelinessChanged).stored now).counts =
            w.counts .livelinessChanged := (counts_addChanges ..).trans hnow
        split
        next =>
          refine untakenEvents_of_ne (ht.conserved.read (ht.notOlder hnow)) ?_
          exact hread ▸ hbase
        next hcount => exact hcount
  | setCallback hslot _ _ hinitialized => exact hkeep hinitialized (by rw [hslot]; rfl) rfl
  | afterSetCallback _ hslot _ _ hinitialized =>
      exact hkeep hinitialized (by rw [hslot, EventSlot.afterSetCallback_count]) rfl

theorem woken_step {w w' : World} {a : WorldAction} (ht : Tracked w .livelinessChanged)
    (h : Woken w) (hP : Announced w a) (hs : w.next a = some w') : Woken w' := by
  cases worldStep_of_next hs with
  | @change type now _ _ =>
      intro hinit
      by_cases hne : type = .livelinessChanged
      · subst hne
        refine .inr (.inr ?_)
        simp [changed, hP rfl hinit]
      · have hcounts : (w.changed type now).counts .livelinessChanged =
            w.counts .livelinessChanged := Function.update_of_ne (Ne.symm hne) ..
        rw [hcounts]
        refine (h hinit).imp_right (Or.imp_right fun hmem => ?_)
        show _ ∈ if _ then _ else _
        split
        · exact List.mem_append_left _ hmem
        · exact hmem
  | @coalesce index type p q hindex _ =>
      intro hinit
      refine (h hinit).imp_right (Or.imp_right fun hmem => mem_eraseIdx hindex hmem ?_)
      rintro ⟨⟩
      exact hP _ hindex
  | @listener index type status got e hindex hgot he =>
      intro hinit
      cases Endpoint.slotStep_of_next .livelinessChanged he with
      | idle hreader hslot _ _ hinitialized =>
          show w.counts _ = w.base _ ∨ (e.slots .livelinessChanged).count ≠ 0 ∨
            _ ∈ w.pending.eraseIdx index
          rw [hslot]
          refine (h (hinitialized ▸ hinit)).imp_right (Or.imp_right fun hmem => ?_)
          refine mem_eraseIdx hindex hmem fun heq => ?_
          exact hreader (congrArg some (congrArg Prod.fst heq).symm)
      | @listener status got _ _ hslot _ _ hinitialized =>
          show w.counts _ = w.base _ ∨ (e.slots .livelinessChanged).count ≠ 0 ∨
            _ ∈ w.pending.eraseIdx index
          rw [hslot]
          have hnotOlder : ∀ now ∈ got, NotOlder (w.endpoint.slots .livelinessChanged).stored now :=
            fun now hnow => ht.notOlder (hgot now hnow)
          rcases h (hinitialized ▸ hinit) with hbase | hcount | hmem
          · exact .inl hbase
          · exact .inr (.inl (listener_count_ne_zero ht.conserved hnotOlder (.inl hcount)))
          · by_cases hlast : status.counts = w.counts .livelinessChanged
            · -- the call of the last change
              by_cases hbase : w.counts .livelinessChanged = w.base .livelinessChanged
              · exact .inl hbase
              · refine .inr (.inl (listener_count_ne_zero ht.conserved hnotOlder (.inr ?_)))
                exact hlast ▸ hbase
            · refine .inr (.inr (mem_eraseIdx hindex hmem ?_))
              intro heq
              exact hlast (congrArg Prod.snd heq).symm
  | act hlistener hgot he => exact woken_record ht h hlistener hgot hP he

theorem woken_reachable {kind : EndpointKind} {w : World}
    (h : ((system kind).restrict Announced).Reachable w) : Woken w := by
  refine h.invariant_of (I := Woken) (J := fun w => Tracked w .livelinessChanged)
    (fun w hw => tracked_reachable hw.of_restrict _) ?_ ?_
  · rintro w rfl hinit
    cases hinit
  · rintro w a w' ht ih ⟨hP, hs⟩
    exact woken_step ht ih hP hs

/-- With no listener call owed, an initialized liveliness changed event is
counted and triggered whenever zzdds's counts differ from those at the last
take.  At any time the stored counts without their changes are the counts at
the last take. -/
theorem liveliness_changed_woken {w : World}
    (h : ((system .subscription).restrict Announced).Reachable w) :
    (w.endpoint.initialized .livelinessChanged = true →
      (∀ p, (.livelinessChanged, p) ∉ w.pending) →
      w.counts .livelinessChanged ≠ w.base .livelinessChanged →
      1 ≤ (w.endpoint.slots .livelinessChanged).count ∧
        (w.endpoint.slots .livelinessChanged).guard = some true) ∧
    (w.endpoint.slots .livelinessChanged).stored.counts -
        (w.endpoint.slots .livelinessChanged).stored.changes = w.base .livelinessChanged := by
  refine ⟨?_, (tracked_reachable h.of_restrict .livelinessChanged).conserved.balanced⟩
  intro hinit hpending hne
  have hr := endpoint_reachable h.of_restrict
  have hcount : (w.endpoint.slots .livelinessChanged).count ≠ 0 := by
    rcases woken_reachable h hinit with hbase | hcount | hmem
    · exact absurd hbase hne
    · exact hcount
    · exact absurd hmem (hpending _)
  refine ⟨by omega, ?_⟩
  have hguard := (Endpoint.guarded_reachable hr).initialized _ hinit
  obtain ⟨b, hb⟩ := Option.ne_none_iff_exists'.mp hguard
  have htriggered := (Endpoint.triggered_reachable hr .livelinessChanged).guard b hb
  rw [hb, htriggered.mpr hcount]

/-- A writer goes alive after the initialization, and its listener is called. -/
theorem liveliness_changed_woken_alive :
    ∃ w : World, w.counts .livelinessChanged = (1, 0) ∧ w.base .livelinessChanged = (0, 0) ∧
      1 ≤ (w.endpoint.slots .livelinessChanged).count ∧
        (w.endpoint.slots .livelinessChanged).guard = some true := by
  let run : List WorldAction :=
    [.act (.beginInit 0 .livelinessChanged true), .act (.computeMask 0), .act (.install 0 true),
      .act (.finishInit 0 .livelinessChanged (some {}))]
  let rest : List WorldAction :=
    [.change .livelinessChanged (1, 0),
      .listener 0 .livelinessChanged { aliveCount := 1 } (some { aliveCount := 1 })]
  obtain ⟨w1, hexec1, hmask⟩ : ∃ w1, Transition.exec next (create .subscription) run = some w1 ∧
      eventMask .livelinessChanged ⊆ w1.endpoint.installed := ⟨_, rfl, by decide +kernel⟩
  obtain ⟨w, hexec, hinit, hcounts, hbase, hpending⟩ : ∃ w,
      Transition.exec next (create .subscription) (run ++ rest) = some w ∧
        w.endpoint.initialized .livelinessChanged = true ∧
          w.counts .livelinessChanged = (1, 0) ∧ w.base .livelinessChanged = (0, 0) ∧
            w.pending = [] :=
    ⟨_, rfl, by decide +kernel, rfl, rfl, rfl⟩
  have hrun : ∀ a ∈ run, ∀ w, Announced w a := by
    simp [run, Announced]
    exact fun _ => rfl
  have hr1 := Transition.reachable_restrict_of_exec (.init rfl) hexec1 hrun
  rw [Transition.exec_append, hexec1] at hexec
  have hr := Transition.reachable_restrict_of_exec_cons hr1 hexec (fun _ _ => hmask)
    (by simp [Announced])
  have hwoken := (liveliness_changed_woken hr).1 hinit (by simp [hpending])
    (by rw [hcounts, hbase]; decide)
  exact ⟨w, hcounts, hbase, hwoken⟩

end World

end RmwZzdds.Event
