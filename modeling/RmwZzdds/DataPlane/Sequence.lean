import RmwZzdds.DataPlane.Delivery

/-!
# Taking a sequence

`rmw_take_sequence` counts the samples it has taken while it goes on, but sets
the sizes of the sequences at its end only.  A sample that fails makes it return
before that, and the sequences keep the sizes that they had.
-/

namespace RmwZzdds.DataPlane

/-! ## The call -/

/-- The sizes of the message sequence and of the sequence of message infos. -/
structure Sizes where
  messages : ℕ
  infos : ℕ
deriving DecidableEq

/-- What a call of `rmw_take_sequence` leaves. -/
structure SequenceTake (M Handle : Type*) where
  ret : Ret
  /-- What it leaves in the elements that it came to. -/
  results : List (TakeResult M × MessageInfo)
  taken : ℕ
  sizes : Sizes
  queue : List (RawTake Handle)

section

variable {M Handle : Type*} (s : Subscription M Handle)

/-- `rmw_take_sequence` for sequences of the given sizes. -/
def takeSequence (count : ℕ) (slots : List (Slot M)) (sizes : Sizes)
    (queue : List (RawTake Handle)) : SequenceTake M Handle :=
  let (ret, results, queue) := rmwTakeSequence s count slots queue
  let taken := results.countP (·.1.taken)
  ⟨ret, results, taken, if ret = .ok then ⟨taken, taken⟩ else sizes, queue⟩

/-! ## Deliverable samples -/

/-- The deliverable sample that a call of `DDS_DataReader_take_raw` finds, if any. -/
def deliverable (raw : RawTake Handle) : Option (Sample Handle) :=
  match raw.result, raw.payloads, raw.infos with
  | .ok, [payload], [info] =>
      if info.validData && !s.skips info then some ⟨payload, info⟩ else none
  | _, _, _ => none

/-- The deliverable samples of a queue, in its order. -/
def deliverables (queue : List (RawTake Handle)) : List (Sample Handle) :=
  queue.filterMap (deliverable s)

/-- An element has the message and the message info of the sample. -/
structure Slot.Shows (slot : Slot M) (one : TakeResult M × MessageInfo) (x : Sample Handle) :
    Prop where
  message : one.1.message = (s.decode x.payload slot.message).2
  messageInfo : one.2 = (fillMessageInfo s slot.now x.info).2

/-- The first elements are the first deliverable samples of the queue. -/
def ShowsFirst (slots : List (Slot M)) (results : List (TakeResult M × MessageInfo)) (taken : ℕ)
    (queue : List (RawTake Handle)) : Prop :=
  ∀ i < taken, ∃ slot one x, slots[i]? = some slot ∧ results[i]? = some one ∧
    (deliverables s queue)[i]? = some x ∧ slot.Shows s one x

/-- The caller sees all samples that the call has taken. -/
structure SequenceTake.Accounts (count : ℕ) (slots : List (Slot M))
    (queue : List (RawTake Handle)) (t : SequenceTake M Handle) : Prop where
  sizes : t.sizes = ⟨t.taken, t.taken⟩
  taken_le : t.taken ≤ count
  shows : ShowsFirst s slots t.results t.taken queue

/-! ## What the call comes to -/

/-- The slots with what is found for them: the samples that are not skipped, and an empty
take behind the end of the queue. -/
def encounters : List (Slot M) → List (RawTake Handle) → List (Slot M × RawTake Handle)
  | [], _ => []
  | slot :: slots, [] => (slot, ⟨.ok, [], []⟩) :: encounters slots []
  | slot :: slots, raw :: visible => (slot, raw) :: encounters slots visible

/-- A sample that is taken: it has data that decodes, and its writer is matched. -/
def Slot.takes (slot : Slot M) (raw : RawTake Handle) : Bool :=
  match raw.visible slot.returned with
  | .error _ => false
  | .ok (payload, info) => info.validData && (s.decode payload slot.message).1 &&
      (s.publicationGuid info.publicationHandle).isSome

/-- A sample that fails: the reader has an error, the data does not decode, or the writer
is not matched any more. -/
def Slot.fails (slot : Slot M) (raw : RawTake Handle) : Bool :=
  match raw.visible slot.returned with
  | .error code => code ≠ .noData
  | .ok (payload, info) => info.validData && !((s.decode payload slot.message).1 &&
      (s.publicationGuid info.publicationHandle).isSome)

/-- How many samples are taken one after the other. -/
def samplesTaken (found : List (Slot M × RawTake Handle)) : ℕ :=
  (found.takeWhile fun x => x.1.takes s x.2).length

/-- The sample behind them fails. -/
def failureFollows (found : List (Slot M × RawTake Handle)) : Bool :=
  found[samplesTaken s found]?.any fun x => x.1.fails s x.2

/-- No sample fails, or the sizes were the number of the samples before it. -/
def SizesRight (slots : List (Slot M)) (sizes : Sizes) (queue : List (RawTake Handle)) : Prop :=
  let found := encounters slots (queue.filter fun raw => !s.passes raw)
  failureFollows s found = false ∨ sizes = ⟨samplesTaken s found, samplesTaken s found⟩

/-! ## One sample -/

variable {s} {slot : Slot M} {raw : RawTake Handle}

theorem deliverable_of_passes (h : s.passes raw = true) : deliverable s raw = none := by
  obtain ⟨result, payloads, infos⟩ := raw
  match result, payloads, infos with
  | .ok, [payload], [info] =>
      have hskips : s.skips info = true := by simpa [Subscription.passes] using h
      simp [deliverable, hskips]
  | .noData, [_], [_] | .error, [_], [_] => rfl
  | _, [], _ | _, _ :: _ :: _, _ | _, [_], [] | _, [_], _ :: _ :: _ =>
      simp [Subscription.passes] at h

/-- What the call finds first, and the queue behind it. -/
theorem takeVisibleSample_filter (returned : ReturnCode) {queue visible : List (RawTake Handle)}
    (h : (queue.filter fun raw => !s.passes raw) = raw :: visible) :
    s.passes raw = false ∧ ∃ rest, s.takeVisibleSample returned queue = (raw.visible returned, rest) ∧
      (rest.filter fun raw => !s.passes raw) = visible ∧
      deliverables s queue = (deliverable s raw).toList ++ deliverables s rest := by
  induction queue with
  | nil => cases h
  | cons first queue ih =>
      cases hpasses : s.passes first with
      | true =>
          rw [List.filter_cons, hpasses] at h
          obtain ⟨hraw, rest, hvisible, hrest, hdeliverables⟩ := ih h
          refine ⟨hraw, rest, ?_, hrest, ?_⟩
          · rw [Subscription.takeVisibleSample, if_pos hpasses, hvisible]
          · rw [deliverables, List.filterMap_cons_none (deliverable_of_passes hpasses)]
            exact hdeliverables
      | false =>
          rw [List.filter_cons, hpasses] at h
          obtain ⟨rfl, rfl⟩ := List.cons.inj h
          refine ⟨hpasses, queue, ?_, rfl, ?_⟩
          · rw [Subscription.takeVisibleSample, if_neg (Bool.eq_false_iff.mp hpasses)]
          · cases hdeliverable : deliverable s first with
            | none => exact List.filterMap_cons_none hdeliverable
            | some x => exact List.filterMap_cons_some hdeliverable

/-- Behind the end of the queue there is nothing. -/
theorem takeVisibleSample_end (returned : ReturnCode) {queue : List (RawTake Handle)}
    (h : (queue.filter fun raw => !s.passes raw) = []) :
    s.takeVisibleSample returned queue = ((⟨.ok, [], []⟩ : RawTake Handle).visible returned, []) := by
  induction queue with
  | nil => simp [Subscription.takeVisibleSample, RawTake.visible]
  | cons first queue ih =>
      rw [List.filter_eq_nil_iff] at h
      have hpasses : s.passes first = true := by simpa using h first (List.mem_cons_self ..)
      rw [Subscription.takeVisibleSample, if_pos hpasses]
      exact ih (List.filter_eq_nil_iff.mpr fun x hx => h x (List.mem_cons_of_mem _ hx))

/-- A sample that is taken is deliverable, and the element shows it. -/
theorem takeSample_of_takes (hpasses : s.passes raw = false) (h : slot.takes s raw = true) :
    let one := takeSampleWithInfo s slot.now slot.message slot.messageInfo (raw.visible slot.returned)
    one.1.ret = .ok ∧ one.1.taken = true ∧
      ∃ x, deliverable s raw = some x ∧ slot.Shows s one x := by
  intro one
  cases hvisible : raw.visible slot.returned with
  | error code => simp [Slot.takes, hvisible] at h
  | ok sample =>
      obtain ⟨payload, info⟩ := sample
      simp only [Slot.takes, hvisible, Bool.and_eq_true] at h
      obtain ⟨⟨hvalid, hdecoded⟩, hguid⟩ := h
      obtain rfl := visible_eq_ok.mp hvisible
      have hskips : s.skips info = false := by simpa [Subscription.passes] using hpasses
      have hfilled : (fillMessageInfo s slot.now info).1 = true := hguid
      have hone : one = (⟨.ok, (s.decode payload slot.message).2, true⟩,
          (fillMessageInfo s slot.now info).2) := by
        simp [one, hvisible, takeSampleWithInfo, hvalid, hdecoded, hfilled]
      rw [hone]
      exact ⟨rfl, rfl, ⟨payload, info⟩, by simp [deliverable, hvalid, hskips], rfl, rfl⟩

theorem takeSample_of_fails (h : slot.fails s raw = true) :
    let one := takeSampleWithInfo s slot.now slot.message slot.messageInfo (raw.visible slot.returned)
    one.1.ret ≠ .ok ∧ one.1.taken = false := by
  cases hvisible : raw.visible slot.returned with
  | error code =>
      cases code with
      | noData => simp [Slot.fails, hvisible] at h
      | ok | error => exact ⟨nofun, rfl⟩
  | ok sample =>
      obtain ⟨payload, info⟩ := sample
      simp only [Slot.fails, hvisible, Bool.and_eq_true] at h
      obtain ⟨hvalid, hfails⟩ := h
      have hfilled : (fillMessageInfo s slot.now info).1 =
          (s.publicationGuid info.publicationHandle).isSome := rfl
      cases hdecoded : (s.decode payload slot.message).1 with
      | false => simp [takeSampleWithInfo, hvalid, hdecoded]
      | true =>
          rw [hdecoded, Bool.true_and, Bool.not_eq_true'] at hfails
          simp [takeSampleWithInfo, hvalid, hdecoded, hfilled.trans hfails]

theorem takeSample_of_empty (htakes : slot.takes s raw = false) (hfails : slot.fails s raw = false) :
    let one := takeSampleWithInfo s slot.now slot.message slot.messageInfo (raw.visible slot.returned)
    one.1.ret = .ok ∧ one.1.taken = false := by
  cases hvisible : raw.visible slot.returned with
  | error code =>
      cases code with
      | noData => exact ⟨rfl, rfl⟩
      | ok | error => simp [Slot.fails, hvisible] at hfails
  | ok sample =>
      obtain ⟨payload, info⟩ := sample
      simp only [Slot.takes, Slot.fails, hvisible] at htakes hfails
      have hvalid : info.validData = false := by
        by_contra hvalid
        rw [Bool.not_eq_false] at hvalid
        rw [hvalid, Bool.true_and] at htakes hfails
        rw [htakes] at hfails
        exact Bool.false_ne_true hfails.symm
      simp [takeSampleWithInfo, hvalid]

/-! ## The loop -/

theorem samplesTaken_cons (found : List (Slot M × RawTake Handle)) :
    samplesTaken s ((slot, raw) :: found) =
      if slot.takes s raw then samplesTaken s found + 1 else 0 := by
  cases htakes : slot.takes s raw <;> simp [samplesTaken, htakes]

theorem failureFollows_cons (found : List (Slot M × RawTake Handle)) :
    failureFollows s ((slot, raw) :: found) =
      if slot.takes s raw then failureFollows s found else slot.fails s raw := by
  cases htakes : slot.takes s raw <;> simp [failureFollows, samplesTaken_cons, htakes]

theorem ShowsFirst.cons {slots : List (Slot M)} {results : List (TakeResult M × MessageInfo)}
    {one : TakeResult M × MessageInfo} {taken : ℕ} {queue rest : List (RawTake Handle)}
    {x : Sample Handle} (hqueue : deliverables s queue = x :: deliverables s rest)
    (hone : slot.Shows s one x) (h : ShowsFirst s slots results taken rest) :
    ShowsFirst s (slot :: slots) (one :: results) (taken + 1) queue := by
  intro i hi
  cases i with
  | zero => exact ⟨slot, one, x, rfl, rfl, by rw [hqueue]; rfl, hone⟩
  | succ i =>
      obtain ⟨slot', one', x', hslot, hone', hx, hshows⟩ := h i (Nat.lt_of_succ_lt_succ hi)
      exact ⟨slot', one', x', hslot, hone', by rw [hqueue]; exact hx, hshows⟩

/-- What the loop returns and takes can be read off what it comes to. -/
structure LoopSpec (s : Subscription M Handle) (slots : List (Slot M))
    (found : List (Slot M × RawTake Handle)) (queue : List (RawTake Handle)) : Prop where
  ret : (takeEach s slots queue).1 = .ok ↔ failureFollows s found = false
  taken : (takeEach s slots queue).2.1.countP (·.1.taken) = samplesTaken s found
  shows : ShowsFirst s slots (takeEach s slots queue).2.1 (samplesTaken s found) queue

/-- One iteration that finds `raw`. -/
theorem LoopSpec.cons {slots : List (Slot M)} {found : List (Slot M × RawTake Handle)}
    {queue rest : List (RawTake Handle)} (hpasses : s.passes raw = false)
    (hvisible : s.takeVisibleSample slot.returned queue = (raw.visible slot.returned, rest))
    (hdeliverables : deliverables s queue = (deliverable s raw).toList ++ deliverables s rest)
    (ih : LoopSpec s slots found rest) : LoopSpec s (slot :: slots) ((slot, raw) :: found) queue := by
  let one := takeSampleWithInfo s slot.now slot.message slot.messageInfo (raw.visible slot.returned)
  have hresults : takeEach s (slot :: slots) queue =
      if one.1.ret ≠ .ok then (one.1.ret, [one], rest)
      else if !one.1.taken then (.ok, [one], rest)
      else
        ((takeEach s slots rest).1, one :: (takeEach s slots rest).2.1,
          (takeEach s slots rest).2.2) := by
    simp only [takeEach, rmwTakeWithInfo, hvisible, one]
  cases htakes : slot.takes s raw with
  | false =>
      have hshows : ∀ results, ShowsFirst s (slot :: slots) results
          (samplesTaken s ((slot, raw) :: found)) queue := by
        intro results i hi
        rw [samplesTaken_cons, htakes] at hi
        exact absurd hi (Nat.not_lt_zero i)
      cases hfails : slot.fails s raw with
      | true =>
          obtain ⟨hret, htaken⟩ := takeSample_of_fails hfails
          rw [if_pos hret] at hresults
          refine ⟨?_, ?_, hshows _⟩
          · rw [hresults, failureFollows_cons, htakes, hfails]
            exact iff_of_false hret Bool.true_eq_false.mp
          · rw [hresults, samplesTaken_cons, htakes]
            simpa using htaken
      | false =>
          obtain ⟨hret, htaken⟩ := takeSample_of_empty htakes hfails
          rw [if_neg (not_not_intro hret), htaken] at hresults
          refine ⟨?_, ?_, hshows _⟩
          · rw [hresults, failureFollows_cons, htakes, hfails]
            exact iff_of_true rfl rfl
          · rw [hresults, samplesTaken_cons, htakes]
            simpa using htaken
  | true =>
      obtain ⟨hret, htaken, x, hx, hone⟩ := takeSample_of_takes hpasses htakes
      rw [if_neg (not_not_intro hret), htaken] at hresults
      rw [hx] at hdeliverables
      constructor
      · rw [hresults, failureFollows_cons, htakes]
        exact ih.ret
      · rw [hresults, samplesTaken_cons, htakes]
        simpa [one, htaken] using ih.taken
      · rw [hresults, samplesTaken_cons, htakes]
        exact .cons hdeliverables hone ih.shows

theorem takeEach_spec (slots : List (Slot M)) (queue : List (RawTake Handle)) :
    LoopSpec s slots (encounters slots (queue.filter fun raw => !s.passes raw)) queue := by
  induction slots generalizing queue with
  | nil => exact ⟨iff_of_true rfl rfl, rfl, nofun⟩
  | cons slot slots ih =>
      cases hfilter : queue.filter fun raw => !s.passes raw with
      | nil =>
          have hvisible := takeVisibleSample_end slot.returned hfilter
          have hdeliverables : deliverables s queue = [] := by
            rw [deliverables, List.filterMap_eq_nil_iff]
            intro raw hraw
            rw [List.filter_eq_nil_iff] at hfilter
            exact deliverable_of_passes (by simpa using hfilter raw hraw)
          exact .cons rfl hvisible hdeliverables (ih [])
      | cons raw visible =>
          obtain ⟨hpasses, rest, hvisible, rfl, hdeliverables⟩ :=
            takeVisibleSample_filter slot.returned hfilter
          exact .cons hpasses hvisible hdeliverables (ih rest)

theorem length_encounters (slots : List (Slot M)) (visible : List (RawTake Handle)) :
    (encounters slots visible).length = slots.length := by
  induction slots generalizing visible with
  | nil => rfl
  | cons slot slots ih =>
      cases visible with
      | nil => exact congrArg (· + 1) (ih [])
      | cons raw visible => exact congrArg (· + 1) (ih visible)

/-- The caller sees what was taken just if no sample fails behind it, or the sizes happened
to be right. -/
theorem sequence_accounts {count : ℕ} {slots : List (Slot M)} (hcount : count ≠ 0)
    (hcapacity : count ≤ slots.length) (sizes : Sizes) (queue : List (RawTake Handle)) :
    (takeSequence s count slots sizes queue).Accounts s count slots queue ↔
      SizesRight s (slots.take count) sizes queue := by
  have hspec := takeEach_spec (s := s) (slots.take count) queue
  let each := takeEach s (slots.take count) queue
  let taken := samplesTaken s
    (encounters (slots.take count) (queue.filter fun raw => !s.passes raw))
  have hle : taken ≤ count := by
    refine (List.takeWhile_prefix _).length_le.trans ?_
    rw [length_encounters, List.length_take]
    exact Nat.min_le_left ..
  have htake : takeSequence s count slots sizes queue =
      ⟨each.1, each.2.1, taken, if each.1 = .ok then ⟨taken, taken⟩ else sizes, each.2.2⟩ := by
    have hchecks : ¬ (count = 0 ∨ slots.length < count) := by omega
    rw [takeSequence, rmwTakeSequence, if_neg hchecks]
    simp only [each, taken, ← hspec.taken]
  have hshows : ShowsFirst s slots each.2.1 taken queue := by
    intro i hi
    obtain ⟨slot, one, x, hslot, hone, hx, hshows⟩ := hspec.shows i hi
    rw [List.getElem?_take_of_lt (hi.trans_le hle)] at hslot
    exact ⟨slot, one, x, hslot, hone, hx, hshows⟩
  rw [htake, SizesRight, ← hspec.ret]
  constructor
  · intro haccounts
    by_cases hret : each.1 = .ok
    · exact .inl hret
    · have hsizes := haccounts.sizes
      rw [if_neg hret] at hsizes
      exact .inr hsizes
  · intro hright
    refine ⟨?_, hle, hshows⟩
    by_cases hret : each.1 = .ok
    · rw [if_pos hret]
    · rw [if_neg hret]
      exact hright.resolve_left hret

end

/-! ## A sample that does not decode -/

/-- A subscription for messages that decode if their last octet is not zero. -/
def picky : Subscription UInt8 Unit where
  callbacks :=
    { hasKey := false
      getSerializedSize := fun _ => 5
      serialize := fun message _ => (true, [0, 1, 0, 0, message])
      deserialize := fun payload message =>
        let last := payload.getLastD 0
        (last != 0, if last = 0 then message else last) }
  ignoreLocalPublications := false
  localPublicationGuids := ∅
  publicationGuid _ := some (writerGuid true)
  readerInit _ := true

def octetSample (octet : UInt8) : RawTake Unit := ⟨.ok, [[0, 1, 0, 0, octet]], [⟨true, (), 0, 0⟩]⟩

def emptySlot : Slot UInt8 := ⟨0, ⟨0, 0, 0, 0, none, false⟩, .ok, none⟩

/-- The sequences have sizes from before, and the last sample is left. -/
theorem two_samples_accounted :
    (takeSequence picky 2 [emptySlot, emptySlot] ⟨7, 7⟩
      [octetSample 1, octetSample 2, octetSample 3]).Accounts picky 2 [emptySlot, emptySlot]
      [octetSample 1, octetSample 2, octetSample 3] := by
  refine (sequence_accounts (by decide) (Nat.le_refl 2) _ _).mpr (.inl ?_)
  decide

/-- The second sample does not decode, and the caller is not told of the first. -/
theorem first_sample_lost :
    ¬ (takeSequence picky 2 [emptySlot, emptySlot] ⟨0, 0⟩
      [octetSample 1, octetSample 0]).Accounts picky 2 [emptySlot, emptySlot]
      [octetSample 1, octetSample 0] := by
  intro h
  have hsizes := h.sizes
  have htaken : (takeSequence picky 2 [emptySlot, emptySlot] ⟨0, 0⟩
      [octetSample 1, octetSample 0]).taken = 1 := by decide
  rw [htaken] at hsizes
  exact absurd hsizes (by decide)

end RmwZzdds.DataPlane
