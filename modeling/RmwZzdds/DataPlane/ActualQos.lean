import Mathlib.Algebra.Group.Int.Defs
import RmwZzdds.Wait.WaitSet

/-!
# The actual QoS of an endpoint

Creation of an endpoint translates the requested profile into the QoS that zzdds
gets (`apply_qos`), and that QoS back into the profile reported as actual
(`resolved_qos`).  The two translations cover the same four policies.  Deadline,
lifespan and liveliness lease duration stay as they are in the default QoS of
DDS on the way there, and as they were requested on the way back.
-/

namespace RmwZzdds.DataPlane.Qos

open Wait (RmwTime DdsDuration)

/-! ## Policies -/

inductive RmwReliability where
  | systemDefault
  | reliable
  | bestEffort
  | unknown
  | bestAvailable
deriving DecidableEq

inductive RmwDurability where
  | systemDefault
  | transientLocal
  | volatile
  | unknown
  | bestAvailable
deriving DecidableEq

inductive RmwHistory where
  | systemDefault
  | keepLast
  | keepAll
  | unknown
deriving DecidableEq

inductive RmwLiveliness where
  | systemDefault
  | automatic
  | manualByTopic
  | unknown
  | bestAvailable
deriving DecidableEq

/-- The policies of `rmw_qos_profile_t`. -/
structure RmwQosProfile where
  history : RmwHistory
  depth : UInt64
  reliability : RmwReliability
  durability : RmwDurability
  deadline : RmwTime
  lifespan : RmwTime
  liveliness : RmwLiveliness
  livelinessLeaseDuration : RmwTime

inductive DdsReliability where
  | bestEffort
  | reliable
deriving DecidableEq

inductive DdsDurability where
  | volatile
  | transientLocal
  | transient
  | persistent
deriving DecidableEq

inductive DdsHistory where
  | keepLast
  | keepAll
deriving DecidableEq

inductive DdsLiveliness where
  | automatic
  | manualByParticipant
  | manualByTopic
deriving DecidableEq

/-- The same policies in `DDS_DataWriterQos` and `DDS_DataReaderQos`.  A reader
has no lifespan. -/
structure DdsQos where
  reliability : DdsReliability
  durability : DdsDurability
  history : DdsHistory
  depth : Int32
  deadline : DdsDuration
  lifespan : Option DdsDuration
  liveliness : DdsLiveliness
  leaseDuration : DdsDuration

/-! ## Translations -/

/-! `apply_qos` is one switch for each of four policies. -/

def applyReliability (source : RmwReliability) (target : DdsReliability) : Option DdsReliability :=
  match source with
  | .systemDefault => some target
  | .reliable => some .reliable
  | .bestEffort => some .bestEffort
  | .unknown | .bestAvailable => none

def applyDurability (source : RmwDurability) (target : DdsDurability) : Option DdsDurability :=
  match source with
  | .systemDefault => some target
  | .volatile => some .volatile
  | .transientLocal => some .transientLocal
  | .unknown | .bestAvailable => none

def applyHistory (source : RmwHistory) (sourceDepth : UInt64) (target : DdsHistory)
    (targetDepth : Int32) : Option (DdsHistory × Int32) :=
  match source with
  | .systemDefault => some (target, targetDepth)
  | .keepAll => some (.keepAll, targetDepth)
  | .keepLast =>
      if sourceDepth > UInt64.ofNat (2 ^ 31 - 1) then none
      else some (.keepLast, sourceDepth.toUInt32.toInt32)
  | .unknown => none

def applyLiveliness (source : RmwLiveliness) : Option DdsLiveliness :=
  match source with
  | .systemDefault | .automatic => some .automatic
  | .manualByTopic => some .manualByTopic
  | .unknown | .bestAvailable => none

/-- `apply_qos`. -/
def applyQos (source : RmwQosProfile) (target : DdsQos) : Option DdsQos := do
  let reliability ← applyReliability source.reliability target.reliability
  let durability ← applyDurability source.durability target.durability
  let (history, depth) ← applyHistory source.history source.depth target.history target.depth
  let liveliness ← applyLiveliness source.liveliness
  return { target with
    reliability := reliability
    durability := durability
    history := history
    depth := depth
    liveliness := liveliness }

/-- The depth of `resolved_qos`. -/
def reportedDepth (depth : Int32) : UInt64 :=
  if depth < 0 then 0 else UInt64.ofNat depth.toInt.toNat

/-- `resolved_qos`. -/
def resolvedQos (requested : RmwQosProfile) (applied : DdsQos) : RmwQosProfile :=
  let result : RmwQosProfile := { requested with
    reliability := if applied.reliability = .reliable then .reliable else .bestEffort
    durability := if applied.durability = .transientLocal then .transientLocal else .volatile
    liveliness := if applied.liveliness = .manualByTopic then .manualByTopic else .automatic }
  if applied.history = .keepAll then { result with
    history := .keepAll
    depth := 0 }
  else { result with
    history := .keepLast
    depth := reportedDepth applied.depth }

/-- The QoS that zzdds gets for an endpoint, and the profile its implementation
keeps. -/
structure EndpointQos where
  dds : DdsQos
  qos : RmwQosProfile

/-- The QoS of `rmw_create_publisher` and `rmw_create_subscription`, over the
default of DDS. -/
def endpointQos (requested : RmwQosProfile) (default : DdsQos) : Option EndpointQos := do
  let applied ← applyQos requested default
  return ⟨applied, resolvedQos requested applied⟩

/-- `rmw_publisher_get_actual_qos` and `rmw_subscription_get_actual_qos`. -/
def EndpointQos.actualQos (endpoint : EndpointQos) : RmwQosProfile := endpoint.qos

/-! ## The QoS in effect -/

/-- The two durations are the same.  `RMW_DURATION_INFINITE` stands for the
infinite one. -/
def SameDuration (t : RmwTime) : DdsDuration → Prop
  | .infinite => t.sec = 9223372036 ∧ t.nsec = 854775807
  | .finite sec nanosec =>
      (t.sec.toNat * 10 ^ 9 + t.nsec.toNat : Int) = sec.toInt * 10 ^ 9 + nanosec.toNat

/-- A policy the entity does not have may only be reported as unspecified. -/
def SameOptional (t : RmwTime) : Option DdsDuration → Prop
  | none => t.sec = 0 ∧ t.nsec = 0
  | some d => SameDuration t d

/-- The profile is what is in effect, policy by policy. -/
structure InEffect (reported : RmwQosProfile) (dds : DdsQos) : Prop where
  reliability : (reported.reliability = .reliable ∧ dds.reliability = .reliable) ∨
    (reported.reliability = .bestEffort ∧ dds.reliability = .bestEffort)
  durability : (reported.durability = .volatile ∧ dds.durability = .volatile) ∨
    (reported.durability = .transientLocal ∧ dds.durability = .transientLocal)
  history : (reported.history = .keepLast ∧ dds.history = .keepLast) ∨
    (reported.history = .keepAll ∧ dds.history = .keepAll)
  depth : dds.history = .keepLast → (reported.depth.toNat : Int) = dds.depth.toInt
  liveliness : (reported.liveliness = .automatic ∧ dds.liveliness = .automatic) ∨
    (reported.liveliness = .manualByTopic ∧ dds.liveliness = .manualByTopic)
  livelinessLeaseDuration : SameDuration reported.livelinessLeaseDuration dds.leaseDuration
  deadline : SameDuration reported.deadline dds.deadline
  lifespan : SameOptional reported.lifespan dds.lifespan

/-- What is asked for besides the four translated policies is the default of
DDS, and where the default decides on one of the four, the profile has a word
for it. -/
structure AsksForDefaults (requested : RmwQosProfile) (default : DdsQos) : Prop where
  durability : requested.durability = .systemDefault →
    default.durability = .volatile ∨ default.durability = .transientLocal
  depth : requested.history = .systemDefault → default.history = .keepLast → 0 ≤ default.depth
  livelinessLeaseDuration : SameDuration requested.livelinessLeaseDuration default.leaseDuration
  deadline : SameDuration requested.deadline default.deadline
  lifespan : SameOptional requested.lifespan default.lifespan

/-! ## Depths -/

/-- A depth that `apply_qos` accepts, as DDS represents it. -/
theorem toInt_depth {depth : UInt64} (h : ¬ depth > UInt64.ofNat (2 ^ 31 - 1)) :
    depth.toUInt32.toInt32.toInt = depth.toNat := by
  have hlt : depth.toNat < 2 ^ 31 := Nat.lt_succ_of_le (UInt64.not_lt.mp h)
  have hword : depth.toUInt32 = UInt32.ofNat depth.toNat := by
    rw [← UInt64.toUInt32_ofNat', UInt64.ofNat_toNat]
  rw [hword, UInt32.toInt32_ofNat', Int32.toInt_ofNat_of_lt hlt]

theorem reportedDepth_iff (depth : Int32) :
    ((reportedDepth depth).toNat : Int) = depth.toInt ↔ 0 ≤ depth := by
  have hlt := depth.toInt_lt
  have hnonneg : 0 ≤ depth ↔ 0 ≤ depth.toInt := Int32.le_iff_toInt_le
  rw [reportedDepth]
  split
  next hneg =>
    have hneg' : depth.toInt < 0 := Int32.lt_iff_toInt_lt.mp hneg
    rw [hnonneg, UInt64.toNat_zero]
    omega
  next hge =>
    have hge' : 0 ≤ depth.toInt := hnonneg.mp (Int32.not_lt.mp hge)
    have hsize : depth.toInt.toNat < 2 ^ 64 := by omega
    have hdepth : (UInt64.ofNat depth.toInt.toNat).toNat = depth.toInt.toNat :=
      UInt64.toNat_ofNat_of_lt hsize
    rw [hdepth, hnonneg, Int.toNat_of_nonneg hge']
    simp [hge']

/-! ## What is reported -/

/-- What `apply_qos` sets. -/
structure Applies (source : RmwQosProfile) (target applied : DdsQos) : Prop where
  durability : applied.durability = .volatile ∨ applied.durability = .transientLocal ↔
    (source.durability = .systemDefault →
      target.durability = .volatile ∨ target.durability = .transientLocal)
  depth : (applied.history = .keepLast → 0 ≤ applied.depth) ↔
    (source.history = .systemDefault → target.history = .keepLast → 0 ≤ target.depth)
  liveliness : applied.liveliness = .automatic ∨ applied.liveliness = .manualByTopic
  deadline : applied.deadline = target.deadline
  lifespan : applied.lifespan = target.lifespan
  leaseDuration : applied.leaseDuration = target.leaseDuration

theorem applyDurability_iff {source : RmwDurability} {target applied : DdsDurability}
    (h : applyDurability source target = some applied) :
    (applied = .volatile ∨ applied = .transientLocal) ↔
      (source = .systemDefault → target = .volatile ∨ target = .transientLocal) := by
  cases source <;> cases h <;> simp

theorem applyHistory_iff {source : RmwHistory} {sourceDepth : UInt64} {target : DdsHistory}
    {targetDepth : Int32} {applied : DdsHistory × Int32}
    (h : applyHistory source sourceDepth target targetDepth = some applied) :
    (applied.1 = .keepLast → 0 ≤ applied.2) ↔
      (source = .systemDefault → target = .keepLast → 0 ≤ targetDepth) := by
  cases source with
  | systemDefault =>
      cases h
      simp
  | keepAll =>
      cases h
      simp
  | keepLast =>
      simp only [applyHistory, Option.ite_none_left_eq_some, Option.some.injEq] at h
      obtain ⟨hdepth, rfl⟩ := h
      have hnonneg : 0 ≤ sourceDepth.toUInt32.toInt32 := by
        rw [Int32.le_iff_toInt_le, toInt_depth hdepth]
        exact Int.natCast_nonneg _
      simp [hnonneg]
  | unknown => cases h

theorem applyLiveliness_kinds {source : RmwLiveliness} {applied : DdsLiveliness}
    (h : applyLiveliness source = some applied) :
    applied = .automatic ∨ applied = .manualByTopic := by
  cases source <;> cases h <;> simp

theorem applyQos_applies {source : RmwQosProfile} {target applied : DdsQos}
    (h : applyQos source target = some applied) : Applies source target applied := by
  simp only [applyQos, bind, Option.bind_eq_some_iff, pure, Option.some.injEq] at h
  obtain ⟨reliability, -, durability, hdurability, history, hhistory, liveliness, hliveliness,
    rfl⟩ := h
  exact ⟨applyDurability_iff hdurability, applyHistory_iff hhistory,
    applyLiveliness_kinds hliveliness, rfl, rfl, rfl⟩

theorem resolvedQos_reliability (requested : RmwQosProfile) (dds : DdsQos) :
    ((resolvedQos requested dds).reliability = .reliable ∧ dds.reliability = .reliable) ∨
      ((resolvedQos requested dds).reliability = .bestEffort ∧ dds.reliability = .bestEffort) := by
  rw [resolvedQos]
  cases hdds : dds.reliability <;> split <;> simp

theorem resolvedQos_durability (requested : RmwQosProfile) (dds : DdsQos) :
    (((resolvedQos requested dds).durability = .volatile ∧ dds.durability = .volatile) ∨
      ((resolvedQos requested dds).durability = .transientLocal ∧
        dds.durability = .transientLocal)) ↔
    dds.durability = .volatile ∨ dds.durability = .transientLocal := by
  rw [resolvedQos]
  cases hdds : dds.durability <;> split <;> simp

theorem resolvedQos_liveliness (requested : RmwQosProfile) {dds : DdsQos}
    (h : dds.liveliness = .automatic ∨ dds.liveliness = .manualByTopic) :
    ((resolvedQos requested dds).liveliness = .automatic ∧ dds.liveliness = .automatic) ∨
      ((resolvedQos requested dds).liveliness = .manualByTopic ∧
        dds.liveliness = .manualByTopic) := by
  rw [resolvedQos]
  rcases h with h | h <;> rw [h] <;> split <;> simp

theorem resolvedQos_history (requested : RmwQosProfile) (dds : DdsQos) :
    ((resolvedQos requested dds).history = .keepLast ∧ dds.history = .keepLast) ∨
      ((resolvedQos requested dds).history = .keepAll ∧ dds.history = .keepAll) := by
  rw [resolvedQos]
  cases hdds : dds.history <;> simp

theorem resolvedQos_depth (requested : RmwQosProfile) (dds : DdsQos) :
    (dds.history = .keepLast →
      ((resolvedQos requested dds).depth.toNat : Int) = dds.depth.toInt) ↔
    (dds.history = .keepLast → 0 ≤ dds.depth) := by
  rw [resolvedQos]
  cases hdds : dds.history with
  | keepLast => simpa using reportedDepth_iff dds.depth
  | keepAll => simp

/-- The durations are reported as they were requested. -/
theorem resolvedQos_durations (requested : RmwQosProfile) (dds : DdsQos) :
    (resolvedQos requested dds).livelinessLeaseDuration = requested.livelinessLeaseDuration ∧
      (resolvedQos requested dds).deadline = requested.deadline ∧
      (resolvedQos requested dds).lifespan = requested.lifespan := by
  rw [resolvedQos]
  split <;> exact ⟨rfl, rfl, rfl⟩

/-- The profile that is reported is the QoS in effect just if all that is not
translated was asked for as DDS has it by default. -/
theorem actual_qos_in_effect (requested : RmwQosProfile) (default : DdsQos)
    {endpoint : EndpointQos} (h : endpointQos requested default = some endpoint) :
    InEffect endpoint.actualQos endpoint.dds ↔ AsksForDefaults requested default := by
  simp only [endpointQos, bind, Option.bind_eq_some_iff, pure, Option.some.injEq] at h
  obtain ⟨applied, happlied, rfl⟩ := h
  have hap := applyQos_applies happlied
  obtain ⟨hlease, hdeadline, hlifespan⟩ := resolvedQos_durations requested applied
  have hdurability := (resolvedQos_durability requested applied).trans hap.durability
  have hdepth := (resolvedQos_depth requested applied).trans hap.depth
  constructor
  · intro heffect
    refine ⟨hdurability.mp heffect.durability, hdepth.mp heffect.depth, ?_, ?_, ?_⟩
    · exact hlease ▸ hap.leaseDuration ▸ heffect.livelinessLeaseDuration
    · exact hdeadline ▸ hap.deadline ▸ heffect.deadline
    · exact hlifespan ▸ hap.lifespan ▸ heffect.lifespan
  · intro hasks
    refine ⟨resolvedQos_reliability requested applied, hdurability.mpr hasks.durability,
      resolvedQos_history requested applied, hdepth.mpr hasks.depth,
      resolvedQos_liveliness requested hap.liveliness, ?_, ?_, ?_⟩
    · exact hlease.symm ▸ hap.leaseDuration.symm ▸ hasks.livelinessLeaseDuration
    · exact hdeadline.symm ▸ hap.deadline.symm ▸ hasks.deadline
    · exact hlifespan.symm ▸ hap.lifespan.symm ▸ hasks.lifespan

/-! ## A writer with and without a deadline -/

/-- A writer's QoS as DDS has it by default. -/
def writerDefault : DdsQos where
  reliability := .reliable
  durability := .volatile
  history := .keepLast
  depth := 1
  deadline := .infinite
  lifespan := some .infinite
  liveliness := .automatic
  leaseDuration := .infinite

/-- `RMW_DURATION_INFINITE`. -/
def infiniteTime : RmwTime := ⟨9223372036, 854775807⟩

def requestedQos (deadline : RmwTime) : RmwQosProfile where
  history := .keepLast
  depth := 10
  reliability := .reliable
  durability := .transientLocal
  deadline := deadline
  lifespan := infiniteTime
  liveliness := .systemDefault
  livelinessLeaseDuration := infiniteTime

/-- A deadline of a second is reported, and DDS has none. -/
theorem deadline_not_in_effect :
    ¬ ∀ (requested : RmwQosProfile) (default : DdsQos) (endpoint : EndpointQos),
      endpointQos requested default = some endpoint →
        InEffect endpoint.actualQos endpoint.dds := by
  intro h
  have hdeadline := (h (requestedQos ⟨1, 0⟩) writerDefault _ rfl).deadline
  exact absurd hdeadline.1 (by decide)

theorem infinite_in_effect :
    ∃ endpoint, endpointQos (requestedQos infiniteTime) writerDefault = some endpoint ∧
      (InEffect endpoint.actualQos endpoint.dds ↔
        AsksForDefaults (requestedQos infiniteTime) writerDefault) ∧
      AsksForDefaults (requestedQos infiniteTime) writerDefault :=
  ⟨_, rfl, actual_qos_in_effect (requestedQos infiniteTime) writerDefault rfl,
    ⟨nofun, nofun, ⟨rfl, rfl⟩, ⟨rfl, rfl⟩, ⟨rfl, rfl⟩⟩⟩

end RmwZzdds.DataPlane.Qos
