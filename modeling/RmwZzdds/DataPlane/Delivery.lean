import RmwZzdds.DataPlane.Agreement
import RmwZzdds.DataPlane.Locality

/-!
# What a take delivers

A sample is deliverable if it has data and is not skipped as a local one.  The
loop of `take_visible_sample` goes on behind a skipped sample, but a sample
without data ends it and the call.  So a call that finds one in front says that
nothing was taken, whatever is behind it.
-/

namespace RmwZzdds.DataPlane

open Service (Guid)

/-! ## Samples -/

/-- A sample in the queue of a reader. -/
structure Sample (Handle : Type*) where
  payload : List UInt8
  info : SampleInfo Handle

/-- What `DDS_DataReader_take_raw` gives for the sample. -/
def Sample.raw {Handle : Type*} (x : Sample Handle) : RawTake Handle := ⟨.ok, [x.payload], [x.info]⟩

section

variable {α : Type*} {p : α → Prop}

/-- The list before and behind the first element with a property. -/
theorem exists_first {l : List α} (h : ∃ x ∈ l, p x) :
    ∃ before x after, l = before ++ x :: after ∧ (∀ y ∈ before, ¬ p y) ∧ p x := by
  induction l with
  | nil => exact absurd h nofun
  | cons a l ih =>
      by_cases ha : p a
      · exact ⟨[], a, l, rfl, nofun, ha⟩
      · have hrest : ∃ x ∈ l, p x := by simpa [ha] using h
        obtain ⟨before, x, after, rfl, hbefore, hx⟩ := ih hrest
        exact ⟨a :: before, x, after, rfl, List.forall_mem_cons.mpr ⟨ha, hbefore⟩, hx⟩

/-- There is one first element with a property. -/
theorem first_unique {before before' after after' : List α} {x x' : α}
    (h : before ++ x :: after = before' ++ x' :: after') (hbefore : ∀ y ∈ before, ¬ p y)
    (hbefore' : ∀ y ∈ before', ¬ p y) (hx : p x) (hx' : p x') : x = x' ∧ after = after' := by
  induction before generalizing before' with
  | nil =>
      cases before' with
      | nil => exact List.cons.inj h
      | cons y before' =>
          obtain ⟨rfl, -⟩ := List.cons.inj h
          exact absurd hx (hbefore' x (List.mem_cons_self ..))
  | cons y before ih =>
      cases before' with
      | nil =>
          obtain ⟨rfl, -⟩ := List.cons.inj h
          exact absurd hx' (hbefore y (List.mem_cons_self ..))
      | cons y' before' =>
          obtain ⟨-, h⟩ := List.cons.inj h
          exact ih h (fun z hz => hbefore z (List.mem_cons_of_mem _ hz))
            fun z hz => hbefore' z (List.mem_cons_of_mem _ hz)

end

section

variable {M Handle : Type*} (s : Subscription M Handle)

/-- The sample has data, and the subscription does not skip it. -/
def Subscription.Deliverable (x : Sample Handle) : Prop :=
  x.info.validData = true ∧ s.skips x.info = false

/-! ## Calls -/

namespace Call

/-- What the call returns. -/
def ret [Rcutils] (queue : List (RawTake Handle)) : Call M → Ret
  | take returned message => (rmwTake s returned message queue).1.ret
  | takeWithInfo returned now message messageInfo =>
      (rmwTakeWithInfo s returned now message messageInfo queue).1.1.ret
  | takeSerializedMessage returned memory m =>
      (rmwTakeSerializedMessage s returned memory m queue).1.ret
  | takeSerializedMessageWithInfo returned now memory m messageInfo =>
      (rmwTakeSerializedMessageWithInfo s returned now memory m messageInfo queue).1.1.ret
  | takeLoanedMessage returned created recorded =>
      (rmwTakeLoanedMessage s returned created recorded queue).1.ret
  | takeLoanedMessageWithInfo returned now created recorded messageInfo =>
      (rmwTakeLoanedMessageWithInfo s returned now created recorded messageInfo queue).1.1.ret

/-- What the call leaves in its message and its message info is that of the sample. -/
def Returns [Rcutils] (queue : List (RawTake Handle)) (x : Sample Handle) : Call M → Prop
  | take returned message =>
      (rmwTake s returned message queue).1.message = (s.decode x.payload message).2
  | takeWithInfo returned now message messageInfo =>
      let (result, info) := (rmwTakeWithInfo s returned now message messageInfo queue).1
      result.message = (s.decode x.payload message).2 ∧ info = (fillMessageInfo s now x.info).2
  | takeSerializedMessage returned memory m =>
      (rmwTakeSerializedMessage s returned memory m queue).1.message.content = x.payload
  | takeSerializedMessageWithInfo returned now memory m messageInfo =>
      let (result, info) :=
        (rmwTakeSerializedMessageWithInfo s returned now memory m messageInfo queue).1
      result.message.content = x.payload ∧ info = (fillMessageInfo s now x.info).2
  | takeLoanedMessage returned created recorded =>
      (rmwTakeLoanedMessage s returned created recorded queue).1.message =
        created.map fun message => (s.decode x.payload message).2
  | takeLoanedMessageWithInfo returned now created recorded messageInfo =>
      let (result, info) :=
        (rmwTakeLoanedMessageWithInfo s returned now created recorded messageInfo queue).1
      result.message = created.map (fun message => (s.decode x.payload message).2) ∧
        info = some (fillMessageInfo s now x.info).2

/-- The loan is returned, and what the call allocates is there. -/
def Succeeds : Call M → Prop
  | take returned _ | takeWithInfo returned _ _ _ => returned = .ok
  | takeSerializedMessage returned memory m
  | takeSerializedMessageWithInfo returned _ memory m _ =>
      returned = .ok ∧ memory.isSome = true ∧ m.valid = true
  | takeLoanedMessage returned created recorded
  | takeLoanedMessageWithInfo returned _ created recorded _ =>
      returned = .ok ∧ created.isSome = true ∧ recorded = true

/-- The call takes the queue up to the first deliverable sample and returns that, and
without one it returns nothing. -/
structure TakesFirst [Rcutils] (queue : List (Sample Handle)) (call : Call M) : Prop where
  found : ∀ before x after, queue = before ++ x :: after → (∀ y ∈ before, ¬ s.Deliverable y) →
    s.Deliverable x → call.ret s (queue.map Sample.raw) = .ok ∧
      call.run s (queue.map Sample.raw) = (true, after.map Sample.raw) ∧
      call.Returns s (queue.map Sample.raw) x
  nothing : call.ret s (queue.map Sample.raw) = .ok →
    (call.run s (queue.map Sample.raw)).1 = false → ∀ x ∈ queue, ¬ s.Deliverable x

end Call

/-- The first sample that is not skipped has data, or nothing behind it is deliverable. -/
def Subscription.Unobstructed (queue : List (Sample Handle)) : Prop :=
  ∀ before x after, queue = before ++ x :: after → (∀ y ∈ before, s.skips y.info = true) →
    s.skips x.info = false → x.info.validData = true ∨ ∀ y ∈ after, ¬ s.Deliverable y

/-! ## The loop -/

theorem passes_raw (x : Sample Handle) : s.passes x.raw = s.skips x.info := by
  simp [Subscription.passes, Sample.raw]

/-- The loop goes on behind skipped samples. -/
theorem takeVisibleSample_skipped {before : List (Sample Handle)}
    (hbefore : ∀ y ∈ before, s.skips y.info = true) (queue : List (RawTake Handle)) :
    s.takeVisibleSample .ok (before.map Sample.raw ++ queue) = s.takeVisibleSample .ok queue := by
  induction before with
  | nil => rfl
  | cons y before ih =>
      have hskipped := (passes_raw s y).trans (hbefore y (List.mem_cons_self ..))
      rw [List.map_cons, List.cons_append, Subscription.takeVisibleSample, if_pos hskipped]
      exact ih fun z hz => hbefore z (List.mem_cons_of_mem _ hz)

theorem takeVisibleSample_split {before : List (Sample Handle)} (after : List (Sample Handle))
    {x : Sample Handle}
    (hbefore : ∀ y ∈ before, s.skips y.info = true) (hx : s.skips x.info = false) :
    s.takeVisibleSample .ok ((before ++ x :: after).map Sample.raw) =
      (.ok (x.payload, x.info), after.map Sample.raw) := by
  have hvisible : s.passes x.raw = false := (passes_raw s x).trans hx
  rw [List.map_append, takeVisibleSample_skipped s hbefore, List.map_cons,
    Subscription.takeVisibleSample, if_neg (Bool.eq_false_iff.mp hvisible)]
  rfl

/-- The queue before and behind the first sample that is not skipped. -/
theorem exists_visible (queue : List (Sample Handle)) :
    (∀ y ∈ queue, s.skips y.info = true) ∨ ∃ before x after, queue = before ++ x :: after ∧
      (∀ y ∈ before, s.skips y.info = true) ∧ s.skips x.info = false := by
  by_cases h : ∃ y ∈ queue, s.skips y.info = false
  · obtain ⟨before, x, after, hqueue, hbefore, hx⟩ := exists_first h
    exact .inr ⟨before, x, after, hqueue, fun y hy => Bool.eq_true_of_not_eq_false (hbefore y hy), hx⟩
  · refine .inl fun y hy => Bool.eq_true_of_not_eq_false fun hskipped => h ⟨y, hy, hskipped⟩

/-! ## One call -/

/-- A valid buffer has the sample after a take, which fails still if its writer is not
matched. -/
theorem takeSampleSerializedWithInfo_valid [Rcutils] (payload : List UInt8)
    {info : SampleInfo Handle} (hvalid : info.validData = true) {m : SerializedMessage}
    (hm : m.valid = true) (now : Option Int) (memory : List UInt8) (messageInfo : MessageInfo) :
    ∃ m', takeSampleSerializedWithInfo s now (some memory) m messageInfo (.ok (payload, info)) =
        (if (s.publicationGuid info.publicationHandle).isSome then ⟨.ok, m', true⟩
          else ⟨.error, m', false⟩, (fillMessageInfo s now info).2) ∧
      m'.valid = true ∧ m'.content = payload := by
  obtain ⟨m', htaken, hm', hcontent, -⟩ := takeSampleSerialized_valid payload hvalid hm memory
  refine ⟨m', ?_, hm', hcontent⟩
  rw [takeSampleSerialized, if_pos hvalid] at htaken
  rw [takeSampleSerializedWithInfo, if_pos hvalid]
  by_cases hgrow : m.bufferCapacity < payload.length
  · rw [if_pos hgrow, Rcutils.uint8ArrayResize_of_lt hgrow] at htaken ⊢
    cases htaken
    rfl
  · rw [if_neg hgrow] at htaken ⊢
    cases htaken
    rfl

namespace Call

variable {s}

/-- A call that finds a sample reports whether it has data, and returns it then. -/
theorem run_of_visible [Rcutils] {call : Call M} (hcall : call.Succeeds)
    {queue rest : List (RawTake Handle)} {x : Sample Handle}
    (hdecodes : x.info.validData = true → ∀ message, (s.decode x.payload message).1 = true)
    (hguid : (s.publicationGuid x.info.publicationHandle).isSome = true)
    (hvisible : s.takeVisibleSample .ok queue = (.ok (x.payload, x.info), rest)) :
    call.ret s queue = .ok ∧ call.run s queue = (x.info.validData, rest) ∧
      (x.info.validData = true → call.Returns s queue x) := by
  have hfilled : ∀ now, (fillMessageInfo s now x.info).1 = true := fun _ => hguid
  cases hvalid : x.info.validData with
  | false =>
      cases call with
      | take returned message | takeWithInfo returned now message messageInfo =>
          obtain rfl := hcall
          simp [ret, run, rmwTake, rmwTakeWithInfo, hvisible, takeSample, takeSampleWithInfo, hvalid]
      | takeSerializedMessage returned memory m
      | takeSerializedMessageWithInfo returned now memory m messageInfo =>
          obtain ⟨rfl, -, -⟩ := hcall
          simp [ret, run, rmwTakeSerializedMessage, rmwTakeSerializedMessageWithInfo, hvisible,
            takeSampleSerialized, takeSampleSerializedWithInfo, hvalid]
      | takeLoanedMessage returned created recorded
      | takeLoanedMessageWithInfo returned now created recorded messageInfo =>
          obtain ⟨rfl, hcreated, rfl⟩ := hcall
          obtain ⟨message, rfl⟩ := Option.isSome_iff_exists.mp hcreated
          simp [ret, run, rmwTakeLoanedMessage, rmwTakeLoanedMessageWithInfo, takeCompatibilityLoan,
            hvisible, takeSampleLoaned, hvalid]
  | true =>
      have hdecoded := hdecodes hvalid
      cases call with
      | take returned message =>
          obtain rfl := hcall
          simp [ret, run, Returns, rmwTake, hvisible, takeSample, hvalid, hdecoded]
      | takeWithInfo returned now message messageInfo =>
          obtain rfl := hcall
          simp [ret, run, Returns, rmwTakeWithInfo, hvisible, takeSampleWithInfo, hvalid, hdecoded,
            hfilled]
      | takeSerializedMessage returned memory m =>
          obtain ⟨rfl, hmemory, hm⟩ := hcall
          obtain ⟨memory, rfl⟩ := Option.isSome_iff_exists.mp hmemory
          obtain ⟨m', htaken, -, hcontent, -⟩ :=
            takeSampleSerialized_valid x.payload hvalid hm memory
          simp [ret, run, Returns, rmwTakeSerializedMessage, hvisible, htaken, hcontent]
      | takeSerializedMessageWithInfo returned now memory m messageInfo =>
          obtain ⟨rfl, hmemory, hm⟩ := hcall
          obtain ⟨memory, rfl⟩ := Option.isSome_iff_exists.mp hmemory
          obtain ⟨m', htaken, -, hcontent⟩ := takeSampleSerializedWithInfo_valid s
            x.payload hvalid hm now memory messageInfo
          rw [if_pos hguid] at htaken
          simp [ret, run, Returns, rmwTakeSerializedMessageWithInfo, hvisible, htaken, hcontent]
      | takeLoanedMessage returned created recorded
      | takeLoanedMessageWithInfo returned now created recorded messageInfo =>
          obtain ⟨rfl, hcreated, rfl⟩ := hcall
          obtain ⟨message, rfl⟩ := Option.isSome_iff_exists.mp hcreated
          simp [ret, run, Returns, rmwTakeLoanedMessage, rmwTakeLoanedMessageWithInfo,
            takeCompatibilityLoan, hvisible, takeSampleLoaned, hvalid, hdecoded, hfilled]

end Call

/-! ## The first deliverable sample -/

variable {s}

theorem not_deliverable_of_skips {x : Sample Handle} (h : s.skips x.info = true) :
    ¬ s.Deliverable x :=
  fun hx => Bool.false_ne_true (hx.2.symm.trans h)

/-- A call takes the first deliverable sample just if no sample without data is in
its way. -/
theorem takes_first_deliverable [Rcutils] {queue : List (Sample Handle)} {call : Call M}
    (hcall : call.Succeeds)
    (hdecodes : ∀ x ∈ queue, x.info.validData = true →
      ∀ message, (s.decode x.payload message).1 = true)
    (hguids : ∀ x ∈ queue, (s.publicationGuid x.info.publicationHandle).isSome = true) :
    call.TakesFirst s queue ↔ s.Unobstructed queue := by
  have hsplit : ∀ before x after, queue = before ++ x :: after →
      (∀ y ∈ before, s.skips y.info = true) → s.skips x.info = false →
      call.ret s (queue.map Sample.raw) = .ok ∧
        call.run s (queue.map Sample.raw) = (x.info.validData, after.map Sample.raw) ∧
        (x.info.validData = true → call.Returns s (queue.map Sample.raw) x) := by
    intro before x after hqueue hbefore hx
    have hmem : x ∈ queue := by simp [hqueue]
    have hvisible := takeVisibleSample_split s after hbefore hx
    rw [← hqueue] at hvisible
    exact Call.run_of_visible hcall (hdecodes x hmem) (hguids x hmem) hvisible
  constructor
  · intro htakes before x after hqueue hbefore hx
    by_contra hobstructed
    simp only [not_or, Bool.not_eq_true, not_forall, not_not] at hobstructed
    obtain ⟨hinvalid, y, hy, hdeliverable⟩ := hobstructed
    have hsome : ∃ y ∈ queue, s.Deliverable y := ⟨y, by simp [hqueue, hy], hdeliverable⟩
    obtain ⟨before', y', after', hqueue', hbefore', hy'⟩ := exists_first hsome
    have hrun := (htakes.found before' y' after' hqueue' hbefore' hy').2.1
    have hrun' := (hsplit before x after hqueue hbefore hx).2.1
    rw [hrun, hinvalid] at hrun'
    exact Bool.false_ne_true (congrArg Prod.fst hrun').symm
  · intro hfree
    obtain hall | ⟨before, x, after, hqueue, hbefore, hx⟩ := exists_visible s queue
    · have hnone : ∀ y ∈ queue, ¬ s.Deliverable y := fun y hy => not_deliverable_of_skips (hall y hy)
      constructor
      · intro before x after hqueue _ hx
        exact absurd hx (hnone x (by simp [hqueue]))
      · exact fun _ _ => hnone
    · obtain ⟨hret, hrun, hreturns⟩ := hsplit before x after hqueue hbefore hx
      have hskipped : ∀ y ∈ before, ¬ s.Deliverable y := fun y hy =>
        not_deliverable_of_skips (hbefore y hy)
      cases hvalid : x.info.validData with
      | true =>
          constructor
          · intro before' x' after' hqueue' hbefore' hx'
            obtain ⟨rfl, rfl⟩ := first_unique (hqueue.symm.trans hqueue') hskipped hbefore'
              ⟨hvalid, hx⟩ hx'
            exact ⟨hret, hvalid ▸ hrun, hreturns hvalid⟩
          · intro _ huntaken
            rw [hrun, hvalid] at huntaken
            exact absurd huntaken.symm Bool.false_ne_true
      | false =>
          have hafter := (hfree before x after hqueue hbefore hx).resolve_left
            (Bool.eq_false_iff.mp hvalid)
          have hnone : ∀ y ∈ queue, ¬ s.Deliverable y := by
            rw [hqueue]
            intro y hy
            obtain hy | hy := List.mem_append.mp hy
            · exact hskipped y hy
            · obtain rfl | hy := List.mem_cons.mp hy
              · exact fun hdeliverable => Bool.false_ne_true (hvalid.symm.trans hdeliverable.1)
              · exact hafter y hy
          constructor
          · intro before' x' after' hqueue' _ hx'
            exact absurd hx' (hnone x' (by simp [hqueue']))
          · exact fun _ _ => hnone

end

/-! ## A departed writer -/

attribute [local instance] Rcutils.documented

/-- A subscription that skips the samples of the writer `true`. -/
def skipping : Subscription Unit Bool where
  toSubscriptionImpl := ignoring
  localPublicationGuids := {writerGuid true}
  publicationGuid handle := some (writerGuid handle)
  readerInit _ := true

/-- A sample of a writer, or what says that the writer has departed. -/
def sampleFrom (handle validData : Bool) : Sample Bool :=
  ⟨[0, 1, 0, 0], ⟨validData, handle, 0, 0⟩⟩

theorem skips_sampleFrom (handle validData : Bool) :
    skipping.skips (sampleFrom handle validData).info = handle := by
  cases handle <;> cases validData <;> decide

/-- A sample behind a skipped one is taken. -/
theorem takes_behind_skipped :
    (Call.take .ok ()).TakesFirst skipping [sampleFrom true true, sampleFrom false true] := by
  have hcall : (Call.take .ok ()).Succeeds := rfl
  refine (takes_first_deliverable hcall (fun _ _ _ _ => rfl) fun _ _ => rfl).mpr ?_
  intro before x after hqueue _ _
  have hmem : x ∈ [sampleFrom true true, sampleFrom false true] := by simp [hqueue]
  obtain rfl | hmem := List.mem_cons.mp hmem
  · exact .inl rfl
  · obtain rfl := List.mem_singleton.mp hmem
    exact .inl rfl

/-- A sample behind one without data is not. -/
theorem take_obstructed :
    ¬ (Call.take .ok ()).TakesFirst skipping [sampleFrom false false, sampleFrom false true] := by
  intro h
  have hrun := (h.found [sampleFrom false false] (sampleFrom false true) [] rfl
    (fun y hy hdeliverable => by
      obtain rfl := List.mem_singleton.mp hy
      exact Bool.false_ne_true hdeliverable.1)
    ⟨rfl, skips_sampleFrom false true⟩).2.1
  exact Bool.false_ne_true (congrArg Prod.fst hrun)

end RmwZzdds.DataPlane
