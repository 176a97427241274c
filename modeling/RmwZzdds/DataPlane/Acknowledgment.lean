import RmwZzdds.DataPlane.ActualQos
import RmwZzdds.Library.Wrapping
import RmwZzdds.Lifecycle.Context

/-!
# Timeouts

A timeout of `rmw_wait` and one of `rmw_publisher_wait_for_all_acked` become a
`DDS_Duration_t` in two functions of their own, that check the range in
different orders.  Both compute `durationOf` of the time, on the naturals.  Only
the second knows `RMW_DURATION_INFINITE`, which is out of range for the first.
-/

namespace RmwZzdds.DataPlane

open Lifecycle (identifier)
open Qos (RmwQosProfile infiniteTime)
open Wait (RmwTime DdsDuration WaitResult toDdsDuration)

/-! ## Waiting for acknowledgments -/

section

variable {Writer : Type*}

/-- The fields of `PublisherImpl` that `rmw_publisher_wait_for_all_acked` reads. -/
structure PublisherImpl (Writer : Type*) where
  writer : Writer
  qos : RmwQosProfile

/-- `rmw_publisher_t`. -/
structure RmwPublisher (Writer : Type*) where
  implementationIdentifier : Option String
  data : Option (PublisherImpl Writer)

/-- `validate_publisher`. -/
def validatePublisher : Option (RmwPublisher Writer) → Except Ret (PublisherImpl Writer)
  | none | some ⟨_, none⟩ => .error .invalidArgument
  | some ⟨implementationIdentifier, some impl⟩ =>
      if implementationIdentifier ≠ some identifier then .error .incorrectRmwImplementation
      else .ok impl

/-- The conversion of the timeout in `rmw_publisher_wait_for_all_acked`. -/
def acknowledgmentDuration (waitTimeout : RmwTime) : Option DdsDuration :=
  let billion : UInt64 := 1000000000
  if waitTimeout.sec = 9223372036 ∧ waitTimeout.nsec = 854775807 then some .infinite
  else
    let extraSeconds := waitTimeout.nsec / billion
    if waitTimeout.sec > UInt64.ofNat (2 ^ 31 - 1) ∨
        extraSeconds > UInt64.ofNat (2 ^ 31 - 1) - waitTimeout.sec then none
    else
      some (.finite (waitTimeout.sec + extraSeconds).toUInt32.toInt32
        (waitTimeout.nsec % billion).toUInt32)

/-- `rmw_publisher_wait_for_all_acked`, over `DDS_DataWriter_wait_for_acknowledgments`. -/
def rmwPublisherWaitForAllAcked (waitForAcknowledgments : Writer → DdsDuration → WaitResult)
    (publisher : Option (RmwPublisher Writer)) (waitTimeout : RmwTime) : Ret :=
  match validatePublisher publisher with
  | .error ret => ret
  | .ok impl =>
      if impl.qos.reliability = .bestEffort then .ok
      else
        match acknowledgmentDuration waitTimeout with
        | none => .invalidArgument
        | some duration =>
            match waitForAcknowledgments impl.writer duration with
            | .timeout => .timeout
            | .error => .error
            | .ok => .ok

end

/-! ## The arithmetic of the conversions -/

/-- `to_dds_duration` of a time, watched for wrapping. -/
def watchedToDdsDuration (timeout : RmwTime) : Watched (Option DdsDuration) :=
  let billion : UInt64 := 1000000000
  let extraSeconds := timeout.nsec / billion
  (Watched.sub (UInt64.ofNat (2 ^ 64 - 1)) extraSeconds).bind fun room =>
    if timeout.sec > room then .pure none
    else
      (Watched.add timeout.sec extraSeconds).bind fun seconds =>
        if seconds > UInt64.ofNat (2 ^ 31 - 1) then .pure none
        else
          .pure (some (.finite seconds.toUInt32.toInt32 (timeout.nsec % billion).toUInt32))

/-- The same of the conversion in `rmw_publisher_wait_for_all_acked`.  The
difference is evaluated only if the seconds are in range. -/
def watchedAcknowledgmentDuration (waitTimeout : RmwTime) : Watched (Option DdsDuration) :=
  let billion : UInt64 := 1000000000
  if waitTimeout.sec = 9223372036 ∧ waitTimeout.nsec = 854775807 then .pure (some .infinite)
  else
    let extraSeconds := waitTimeout.nsec / billion
    if waitTimeout.sec > UInt64.ofNat (2 ^ 31 - 1) then .pure none
    else
      (Watched.sub (UInt64.ofNat (2 ^ 31 - 1)) waitTimeout.sec).bind fun room =>
        if extraSeconds > room then .pure none
        else
          (Watched.add waitTimeout.sec extraSeconds).bind fun seconds =>
            .pure (some (.finite seconds.toUInt32.toInt32 (waitTimeout.nsec % billion).toUInt32))

theorem value_watchedToDdsDuration (t : RmwTime) :
    (watchedToDdsDuration t).value = toDdsDuration (some t) := by
  rw [watchedToDdsDuration, Watched.value_bind, Watched.value_sub, Watched.value_ite,
    Watched.value_pure, Watched.value_bind, Watched.value_add, Watched.value_ite,
    Watched.value_pure, Watched.value_pure, toDdsDuration]

theorem value_watchedAcknowledgmentDuration (t : RmwTime) :
    (watchedAcknowledgmentDuration t).value = acknowledgmentDuration t := by
  rw [watchedAcknowledgmentDuration, Watched.value_ite, Watched.value_pure, Watched.value_ite,
    Watched.value_pure, Watched.value_bind, Watched.value_sub, Watched.value_ite,
    Watched.value_pure, Watched.value_bind, Watched.value_add, Watched.value_pure,
    acknowledgmentDuration, ite_or]

theorem toNat_extraSeconds (nsec : UInt64) :
    (nsec / 1000000000).toNat = nsec.toNat / 10 ^ 9 := UInt64.toNat_div ..

theorem toNat_maxUInt64 : (UInt64.ofNat (2 ^ 64 - 1)).toNat = 2 ^ 64 - 1 :=
  UInt64.toNat_ofNat_of_lt' (by norm_num)

theorem toNat_maxInt32 : (UInt64.ofNat (2 ^ 31 - 1)).toNat = 2 ^ 31 - 1 :=
  UInt64.toNat_ofNat_of_lt' (by norm_num)

theorem exact_watchedToDdsDuration (t : RmwTime) : (watchedToDdsDuration t).Exact := by
  have hextra := toNat_extraSeconds t.nsec
  have hnsec := t.nsec.toNat_lt
  have hsub : (Watched.sub (UInt64.ofNat (2 ^ 64 - 1)) (t.nsec / 1000000000)).Exact := by
    rw [Watched.exact_sub, toNat_maxUInt64]
    omega
  have hroom := Watched.toNat_sub_of_exact hsub
  rw [toNat_maxUInt64] at hroom
  unfold watchedToDdsDuration
  refine hsub.bind (Watched.Exact.ite (fun _ => Watched.exact_pure _) fun hle => ?_)
  refine Watched.Exact.bind (Watched.exact_add.mpr ?_)
    (Watched.Exact.ite (fun _ => Watched.exact_pure _) fun _ => Watched.exact_pure _)
  rw [Watched.value_sub, gt_iff_lt, UInt64.lt_iff_toNat_lt, hroom, Nat.not_lt] at hle
  omega

theorem exact_watchedAcknowledgmentDuration (t : RmwTime) :
    (watchedAcknowledgmentDuration t).Exact := by
  unfold watchedAcknowledgmentDuration
  refine Watched.Exact.ite (fun _ => Watched.exact_pure _) fun _ =>
    Watched.Exact.ite (fun _ => Watched.exact_pure _) fun hsec => ?_
  rw [gt_iff_lt, UInt64.lt_iff_toNat_lt, toNat_maxInt32, Nat.not_lt] at hsec
  have hsub : (Watched.sub (UInt64.ofNat (2 ^ 31 - 1)) t.sec).Exact := by
    rw [Watched.exact_sub, toNat_maxInt32]
    exact hsec
  have hroom := Watched.toNat_sub_of_exact hsub
  rw [toNat_maxInt32] at hroom
  refine hsub.bind (Watched.Exact.ite (fun _ => Watched.exact_pure _) fun hextra => ?_)
  refine Watched.Exact.bind (Watched.exact_add.mpr ?_) (Watched.exact_pure _)
  rw [Watched.value_sub, gt_iff_lt, UInt64.lt_iff_toNat_lt, hroom, Nat.not_lt] at hextra
  omega

/-! ## What they compute -/

/-- The seconds of a time with those of its nanoseconds. -/
def wholeSeconds (t : RmwTime) : ℕ := t.sec.toNat + t.nsec.toNat / 10 ^ 9

/-- The duration of a time, if zzdds can express it. -/
def durationOf (t : RmwTime) : Option DdsDuration :=
  if wholeSeconds t < 2 ^ 31 then
    some (.finite (Int32.ofNat (wholeSeconds t)) (UInt32.ofNat (t.nsec.toNat % 10 ^ 9)))
  else none

theorem toNat_seconds {t : RmwTime} (h : wholeSeconds t < 2 ^ 64) :
    (t.sec + t.nsec / 1000000000).toNat = wholeSeconds t := by
  have hexact : (Watched.add t.sec (t.nsec / 1000000000)).Exact := by
    rw [Watched.exact_add, toNat_extraSeconds]
    exact h
  rw [Watched.toNat_add_of_exact hexact, toNat_extraSeconds, wholeSeconds]

/-- The words of a time in range. -/
theorem finite_eq {t : RmwTime} (h : wholeSeconds t < 2 ^ 31) :
    DdsDuration.finite (t.sec + t.nsec / 1000000000).toUInt32.toInt32
        (t.nsec % 1000000000).toUInt32 =
      .finite (Int32.ofNat (wholeSeconds t)) (UInt32.ofNat (t.nsec.toNat % 10 ^ 9)) := by
  have hsum := toNat_seconds (h.trans (by norm_num))
  have hrest : (t.nsec % 1000000000).toNat = t.nsec.toNat % 10 ^ 9 := UInt64.toNat_mod ..
  rw [← UInt32.toInt32_ofNat', ← hsum, ← hrest]
  rfl

/-- The limits of `to_dds_duration` hold just in range. -/
theorem toDdsDuration_some (t : RmwTime) : toDdsDuration (some t) = durationOf t := by
  have hnsec := t.nsec.toNat_lt
  have hextra := toNat_extraSeconds t.nsec
  have hroom : t.sec > UInt64.ofNat (2 ^ 64 - 1) - t.nsec / 1000000000 ↔
      2 ^ 64 ≤ wholeSeconds t := by
    rw [gt_iff_lt, UInt64.lt_iff_toNat_lt, UInt64.toNat_sub, toNat_maxUInt64, hextra,
      wholeSeconds]
    omega
  have hseconds (h : wholeSeconds t < 2 ^ 64) :
      t.sec + t.nsec / 1000000000 > UInt64.ofNat (2 ^ 31 - 1) ↔ ¬ wholeSeconds t < 2 ^ 31 := by
    rw [gt_iff_lt, UInt64.lt_iff_toNat_lt, toNat_seconds h, toNat_maxInt32]
    omega
  rw [toDdsDuration, durationOf]
  by_cases hwraps : 2 ^ 64 ≤ wholeSeconds t
  · rw [if_pos (hroom.mpr hwraps), if_neg (by omega)]
  · rw [if_neg (hroom.not.mpr hwraps)]
    have hfits : wholeSeconds t < 2 ^ 64 := Nat.not_le.mp hwraps
    by_cases hrange : wholeSeconds t < 2 ^ 31
    · rw [if_neg ((hseconds hfits).not.mpr (not_not.mpr hrange)), if_pos hrange,
        finite_eq hrange]
    · rw [if_pos ((hseconds hfits).mpr hrange), if_neg hrange]

theorem acknowledgmentDuration_infiniteTime :
    acknowledgmentDuration infiniteTime = some .infinite := rfl

theorem toDdsDuration_infiniteTime : toDdsDuration (some infiniteTime) = none := by
  have hrange : ¬ wholeSeconds infiniteTime < 2 ^ 31 := by decide
  rw [toDdsDuration_some, durationOf, if_neg hrange]

theorem acknowledgmentDuration_of_ne {t : RmwTime} (h : t ≠ infiniteTime) :
    acknowledgmentDuration t = durationOf t := by
  have hfields : ¬ (t.sec = 9223372036 ∧ t.nsec = 854775807) := by
    rintro ⟨hsec, hnsec⟩
    apply h
    rw [infiniteTime, ← hsec, ← hnsec]
  have hsum : t.sec > UInt64.ofNat (2 ^ 31 - 1) ∨
      t.nsec / 1000000000 > UInt64.ofNat (2 ^ 31 - 1) - t.sec ↔ ¬ wholeSeconds t < 2 ^ 31 := by
    rw [gt_iff_lt, gt_iff_lt, UInt64.lt_iff_toNat_lt, UInt64.lt_iff_toNat_lt, UInt64.toNat_sub,
      toNat_maxInt32, toNat_extraSeconds, wholeSeconds]
    have hsec := t.sec.toNat_lt
    omega
  rw [acknowledgmentDuration, if_neg hfields, durationOf]
  by_cases hrange : wholeSeconds t < 2 ^ 31
  · rw [if_neg (hsum.not.mpr (not_not.mpr hrange)), if_pos hrange, finite_eq hrange]
  · rw [if_pos (hsum.mpr hrange), if_neg hrange]

/-! ## What a duration says -/

section

variable (infinite : Int32 × UInt32)

/-- The fields of a `DDS_Duration_t`, with those of `DDS_DURATION_INFINITE`. -/
def durationFields : DdsDuration → Int32 × UInt32
  | .infinite => infinite
  | .finite sec nanosec => (sec, nanosec)

/-- The duration is the time, and no other than a finite one. -/
structure IsExactly (t : RmwTime) (duration : DdsDuration) : Prop where
  exact : (durationFields infinite duration).1.toInt * 10 ^ 9 +
    (durationFields infinite duration).2.toNat = t.sec.toNat * 10 ^ 9 + t.nsec.toNat
  nanosec_lt : (durationFields infinite duration).2.toNat < 10 ^ 9
  sec_le : (durationFields infinite duration).1.toInt ≤ 2 ^ 31 - 1
  finite : durationFields infinite duration ≠ infinite

variable {infinite}

theorem isExactly_durationOf (hinfinite : 10 ^ 9 ≤ infinite.2.toNat) {t : RmwTime}
    {duration : DdsDuration} (h : durationOf t = some duration) :
    IsExactly infinite t duration := by
  obtain ⟨hrange, hsome⟩ := Option.ite_none_right_eq_some.mp h
  obtain rfl := Option.some.inj hsome
  have hsec : (Int32.ofNat (wholeSeconds t)).toInt = wholeSeconds t :=
    Int32.toInt_ofNat_of_lt hrange
  have hlt : t.nsec.toNat % 10 ^ 9 < 10 ^ 9 := Nat.mod_lt _ (by norm_num)
  have hnanosec : (UInt32.ofNat (t.nsec.toNat % 10 ^ 9)).toNat = t.nsec.toNat % 10 ^ 9 :=
    UInt32.toNat_ofNat_of_lt' (hlt.trans (by norm_num))
  have hnanosec_lt : (UInt32.ofNat (t.nsec.toNat % 10 ^ 9)).toNat < 10 ^ 9 := by
    rw [hnanosec]
    exact hlt
  refine ⟨?_, ?_, ?_, ?_⟩
  · show (Int32.ofNat (wholeSeconds t)).toInt * 10 ^ 9 +
      (UInt32.ofNat (t.nsec.toNat % 10 ^ 9)).toNat = _
    rw [hsec, hnanosec, wholeSeconds]
    have hdiv := Nat.div_add_mod t.nsec.toNat (10 ^ 9)
    push_cast
    omega
  · exact hnanosec_lt
  · show (Int32.ofNat (wholeSeconds t)).toInt ≤ _
    omega
  · intro heq
    rw [← heq] at hinfinite
    exact absurd hnanosec_lt (Nat.not_lt.mpr hinfinite)

variable (infinite) in
/-- What is expected of the two conversions of a time. -/
structure ConversionsAgree (t : RmwTime) : Prop where
  same : toDdsDuration (some t) = acknowledgmentDuration t
  exact : t ≠ infiniteTime → ∀ duration, toDdsDuration (some t) = some duration ∨
    acknowledgmentDuration t = some duration → IsExactly infinite t duration
  watched : (watchedToDdsDuration t).value = toDdsDuration (some t) ∧
    (watchedAcknowledgmentDuration t).value = acknowledgmentDuration t
  unwrapped : (watchedToDdsDuration t).Exact ∧ (watchedAcknowledgmentDuration t).Exact
  accepted : t ≠ infiniteTime → t.sec.toNat * 10 ^ 9 + t.nsec.toNat < 2 ^ 31 * 10 ^ 9 →
    (toDdsDuration (some t)).isSome ∧ (acknowledgmentDuration t).isSome

/-- The conversions agree on every time but the infinite one. -/
theorem conversions_agree_iff (hinfinite : 10 ^ 9 ≤ infinite.2.toNat) (t : RmwTime) :
    ConversionsAgree infinite t ↔ t ≠ infiniteTime := by
  constructor
  · rintro h rfl
    have hsame := h.same
    rw [toDdsDuration_infiniteTime, acknowledgmentDuration_infiniteTime] at hsame
    cases hsame
  · intro h
    have hsame : toDdsDuration (some t) = acknowledgmentDuration t := by
      rw [toDdsDuration_some, acknowledgmentDuration_of_ne h]
    refine ⟨hsame, fun _ duration hduration => ?_, ⟨value_watchedToDdsDuration t,
      value_watchedAcknowledgmentDuration t⟩, ⟨exact_watchedToDdsDuration t,
      exact_watchedAcknowledgmentDuration t⟩, fun _ htotal => ?_⟩
    · rw [← hsame, or_self, toDdsDuration_some] at hduration
      exact isExactly_durationOf hinfinite hduration
    · have hrange : wholeSeconds t < 2 ^ 31 := by
        rw [wholeSeconds]
        omega
      rw [← hsame, and_self, toDdsDuration_some, durationOf, if_pos hrange]
      rfl

end

/-- A second and a half, given in nanoseconds. -/
def oneAndHalf : RmwTime := ⟨0, 1500000000⟩

/-- It is the same duration to both. -/
theorem one_and_half_agrees : ConversionsAgree (2 ^ 31 - 1, 2 ^ 31 - 1) oneAndHalf :=
  (conversions_agree_iff (by decide) oneAndHalf).mpr fun h =>
    absurd (congrArg RmwTime.sec h) (by decide)

/-- A wait for acknowledgments may be endless, and one on a wait set may not. -/
theorem infinite_time_refused :
    ¬ ∀ t : RmwTime, toDdsDuration (some t) = acknowledgmentDuration t := by
  intro h
  have hsame := h infiniteTime
  rw [toDdsDuration_infiniteTime, acknowledgmentDuration_infiniteTime] at hsame
  cases hsame

/-! ## The calls -/

section

variable {Writer Guard Other : Type*}

/-- A wait for acknowledgments refuses the times that do not convert. -/
theorem rmwPublisherWaitForAllAcked_refuses
    (waitForAcknowledgments : Writer → DdsDuration → WaitResult) {impl : PublisherImpl Writer}
    (hreliable : impl.qos.reliability ≠ .bestEffort) (t : RmwTime) :
    rmwPublisherWaitForAllAcked waitForAcknowledgments (some ⟨some identifier, some impl⟩) t =
      .invalidArgument ↔ acknowledgmentDuration t = none := by
  have hvalid : validatePublisher (some ⟨some identifier, some impl⟩) = .ok impl := rfl
  rw [rmwPublisherWaitForAllAcked, hvalid]
  dsimp only
  rw [if_neg hreliable]
  cases acknowledgmentDuration t with
  | none => simp
  | some duration =>
      dsimp only
      cases waitForAcknowledgments impl.writer duration with
      | ok => simp
      | timeout => simp
      | error => simp

/-- The two calls refuse the same times, apart from the infinite one. -/
theorem calls_refuse_alike
    (waitForAcknowledgments : Writer → DdsDuration → WaitResult) {impl : PublisherImpl Writer}
    (hreliable : impl.qos.reliability ≠ .bestEffort) {arrays : Wait.Arrays Guard Other}
    {maxConditions : ℕ} (hvalid : arrays.valid = true) (hfits : arrays.fits maxConditions = true)
    {t : RmwTime} (ht : t ≠ infiniteTime) :
    Wait.waitChecks maxConditions arrays (some t) true = some .invalidArgument ↔
      rmwPublisherWaitForAllAcked waitForAcknowledgments (some ⟨some identifier, some impl⟩) t =
        .invalidArgument := by
  rw [rmwPublisherWaitForAllAcked_refuses _ hreliable, acknowledgmentDuration_of_ne ht,
    ← toDdsDuration_some]
  cases htime : toDdsDuration (some t) with
  | none => simp [Wait.waitChecks, hvalid, hfits, htime]
  | some duration => simp [Wait.waitChecks, hvalid, hfits, htime]

end

end RmwZzdds.DataPlane
