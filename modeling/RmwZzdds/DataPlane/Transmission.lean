import RmwZzdds.DataPlane.Agreement
import RmwZzdds.DataPlane.Locality
import RmwZzdds.DataPlane.Publish

/-!
# From a publisher to a subscription

Any number of publishers in either language publish messages of one type, in any
of the three ways, and a subscription in either language takes them in any of
the seven.  zzdds hands over a payload as it was written, but it may reorder,
repeat and lose samples.

Whatever a take function returns is then the value of a message that was
published before, and its message info names the publisher of that
(`taken_was_published`).
-/

namespace RmwZzdds.DataPlane

open Codec (Language Members TypeSupport ZidlCdr)
open Publishing
open Service (Guid)
open Transition

variable {z : ZidlCdr} {members : Members} {language : Language} {Handle : Type*}

/-! ## Runs -/

/-- The world, and what was published in it. -/
structure Exchange (members : Members) (Handle : Type*) where
  world : World Handle
  /-- The publishers and the values of all messages published so far. -/
  published : List (Handle × members.Value)

/-- A publication, or another step of the world. -/
inductive ExchangeAction (z : ZidlCdr) (members : Members) (M Handle : Type*) where
  /-- `taken` says whether zzdds takes the sample. -/
  | publish (handle : Handle) {language : Language} (publisher : Option (Publisher z language members))
      (publication : Publication language members) (taken : Bool)
  | other (action : Action M Handle)

/-- What is written is in the world from now on. -/
def World.write (w : World Handle) (handle : Handle) : Option Written → World Handle
  | none => w
  | some sent => { w with written := (handle, sent.payload) :: w.written }

/-- All samples are written by publications. -/
def Action.IsPublish {M : Type*} : Action M Handle → Prop
  | .publish _ _ => True
  | .createPublisher _ | .destroyPublisher _ | .transport _ _ | .take _ => False

section

variable (support : TypeSupport z language members) (ignoreLocalPublications : Bool)
  (e : Surroundings Handle)

/-- The subscription has a generated type support. -/
def generated : SubscriptionImpl (language.Message members) where
  callbacks := support.toCallbacks
  ignoreLocalPublications := ignoreLocalPublications

inductive ExchangeStep [Rcutils] (x : Exchange members Handle) :
    ExchangeAction z members (language.Message members) Handle → Exchange members Handle → Prop
    where
  | publish {handle : Handle} {language : Language}
      {publisher : Option (Publisher z language members)}
      {publication : Publication language members} {taken : Bool} {ret : Ret}
      {sample : Option Written} :
      e.writer handle ∈ x.world.localPublicationGuids ∨ e.writer handle ∈ e.remote →
      publication.run publisher taken = (ret, sample) →
      ExchangeStep x (.publish handle publisher publication taken)
        { world := x.world.write handle sample
          published :=
            if ret = .ok then
              (handle, language.value members publication.message) :: x.published
            else x.published }
  | other {action : Action (language.Message members) Handle} {w : World Handle} :
      ¬ action.IsPublish →
      Step (generated support ignoreLocalPublications) (readable z) e x.world action w →
      ExchangeStep x (.other action) { x with world := w }

def exchange [Rcutils] : System (Exchange members Handle)
    (ExchangeAction z members (language.Message members) Handle) where
  init x := x = ⟨.start, []⟩
  step := ExchangeStep support ignoreLocalPublications e

end

/-! ## What a call returns -/

section

variable {M : Type*} (s : Subscription M Handle)

/-- Every reading of the payload gives the value. -/
def Subscription.Reads {V : Type*} (value : M → V) (payload : List UInt8) (v : V) : Prop :=
  s.readerInit payload = true ∧ ∀ old, (s.callbacks.deserialize payload old).1 = true ∧
    value (s.callbacks.deserialize payload old).2 = v

/-- The message deserializes to the value. -/
def Subscription.Holds {V : Type*} (value : M → V) (m : SerializedMessage) (v : V) : Prop :=
  ∀ old, ∃ new, rmwDeserialize s.readerInit m (some s.callbacks) (some old) = (.ok, some new) ∧
    value new = v

/-- The call returns the value.  A serialized message is valid before. -/
def Call.Yields [Rcutils] {V : Type*} (value : M → V) (queue : List (RawTake Handle)) (v : V) :
    Call M → Prop
  | .take returned message => value (rmwTake s returned message queue).1.message = v
  | .takeWithInfo returned now message messageInfo =>
      value (rmwTakeWithInfo s returned now message messageInfo queue).1.1.message = v
  | .takeSerializedMessage returned memory m => m.valid = true →
      s.Holds value (rmwTakeSerializedMessage s returned memory m queue).1.message v
  | .takeSerializedMessageWithInfo returned now memory m messageInfo => m.valid = true →
      s.Holds value
        (rmwTakeSerializedMessageWithInfo s returned now memory m messageInfo queue).1.1.message v
  | .takeLoanedMessage returned created recorded =>
      (rmwTakeLoanedMessage s returned created recorded queue).1.message.map value = some v
  | .takeLoanedMessageWithInfo returned now created recorded messageInfo =>
      (rmwTakeLoanedMessageWithInfo s returned now created recorded messageInfo
        queue).1.1.message.map value = some v

/-- The message info, if there is one, has the GID. -/
def Call.Names [Rcutils] (queue : List (RawTake Handle)) (guid : Guid) : Call M → Prop
  | .takeWithInfo returned now message messageInfo =>
      (rmwTakeWithInfo s returned now message messageInfo queue).1.2.publisherGid = some guid
  | .takeSerializedMessageWithInfo returned now memory m messageInfo =>
      (rmwTakeSerializedMessageWithInfo s returned now memory m messageInfo
        queue).1.2.publisherGid = some guid
  | .takeLoanedMessageWithInfo returned now created recorded messageInfo =>
      (rmwTakeLoanedMessageWithInfo s returned now created recorded messageInfo
        queue).1.2.map MessageInfo.publisherGid = some (some guid)
  | .take _ _ | .takeSerializedMessage _ _ _ | .takeLoanedMessage _ _ _ => True

end

section

variable {M V : Type*} {s : Subscription M Handle} {value : M → V} {payload : List UInt8}
  {info : SampleInfo Handle} {v : V}

/-- A buffer that has the payload deserializes to what the payload reads as. -/
theorem Subscription.Reads.holds (h : s.Reads value payload v)
    (hshort : payload.length < 4 → s.readerInit payload = false) {m : SerializedMessage}
    (hm : m.valid = true ∧ m.content = payload ∧ m.bufferLength = payload.length) :
    s.Holds value m v := by
  intro old
  have hdecode : s.decode payload old = s.callbacks.deserialize payload old := by
    rw [Subscription.decode, if_pos h.1]
  have hdeserialized := rmwDeserialize_content s hm.1 hm.2.1 hm.2.2 hshort old
  rw [hdecode, if_pos (h.2 old).1] at hdeserialized
  exact ⟨_, hdeserialized, (h.2 old).2⟩

theorem Subscription.Reads.decode (h : s.Reads value payload v) (old : M) :
    value (s.decode payload old).2 = v := by
  rw [Subscription.decode, if_pos h.1]
  exact (h.2 old).2

theorem takeSample_message (hvalid : info.validData = true) (returned : ReturnCode) (message : M) :
    (takeSample s returned message (.ok (payload, info))).message =
      (s.decode payload message).2 := by
  simp only [takeSample, hvalid, if_true]
  split
  · rfl
  · split <;> rfl

theorem takeSampleWithInfo_taken {now : Option Int} {message : M} {messageInfo : MessageInfo}
    (hvalid : info.validData = true)
    (h : (takeSampleWithInfo s now message messageInfo (.ok (payload, info))).1.taken = true) :
    takeSampleWithInfo s now message messageInfo (.ok (payload, info)) =
        (⟨.ok, (s.decode payload message).2, true⟩, (fillMessageInfo s now info).2) ∧
      (s.publicationGuid info.publicationHandle).isSome = true := by
  have hguid : (fillMessageInfo s now info).1 = (s.publicationGuid info.publicationHandle).isSome :=
    rfl
  simp only [takeSampleWithInfo, hvalid, if_true, hguid] at h ⊢
  split at h
  · cases h
  · next hdecoded =>
      rw [if_neg hdecoded]
      split at h
      · next hsome => exact ⟨by rw [if_pos hsome], hsome⟩
      · cases h

/-- A buffer that was taken into has the payload. -/
theorem takeSampleSerialized_taken [Rcutils] {memory : Option (List UInt8)} {m : SerializedMessage}
    (hvalid : info.validData = true) (hm : m.valid = true)
    (h : (takeSampleSerialized memory m (.ok (payload, info))).taken = true) :
    let m' := (takeSampleSerialized memory m (.ok (payload, info))).message
    m'.valid = true ∧ m'.content = payload ∧ m'.bufferLength = payload.length := by
  cases memory with
  | some memory =>
      obtain ⟨m', heq, hm', hcontent, hlength⟩ :=
        takeSampleSerialized_valid payload hvalid hm memory
      rw [heq]
      exact ⟨hm', hcontent, hlength⟩
  | none =>
      by_cases hgrow : m.bufferCapacity < payload.length
      · rw [takeSampleSerialized, if_pos hvalid, if_pos hgrow,
          Rcutils.uint8ArrayResize_of_lt hgrow] at h
        cases h
      · rw [takeSampleSerialized, if_pos hvalid, if_neg hgrow]
        obtain ⟨hfilled, hcontent⟩ := content_fill hm (Nat.le_of_not_lt hgrow)
        exact ⟨hfilled, hcontent, rfl⟩

/-- With a message info the same is left in the buffer. -/
theorem takeSampleSerializedWithInfo_taken [Rcutils] {now : Option Int}
    {memory : Option (List UInt8)} {m : SerializedMessage} {messageInfo : MessageInfo}
    (hvalid : info.validData = true)
    (h : (takeSampleSerializedWithInfo s now memory m messageInfo
      (.ok (payload, info))).1.taken = true) :
    takeSampleSerializedWithInfo s now memory m messageInfo (.ok (payload, info)) =
        (takeSampleSerialized memory m (.ok (payload, info)), (fillMessageInfo s now info).2) ∧
      (s.publicationGuid info.publicationHandle).isSome = true := by
  have hfill : ∀ m, (fillSerializedWithInfo s now m payload info).1.taken = true →
      fillSerializedWithInfo s now m payload info =
          (⟨.ok, SerializedMessage.fill payload m, true⟩, (fillMessageInfo s now info).2) ∧
        (s.publicationGuid info.publicationHandle).isSome = true := by
    intro m hfilled
    have hguid : (fillMessageInfo s now info).1 =
        (s.publicationGuid info.publicationHandle).isSome := rfl
    simp only [fillSerializedWithInfo, hguid] at hfilled ⊢
    split at hfilled
    · next hsome => exact ⟨by rw [if_pos hsome], hsome⟩
    · cases hfilled
  rw [takeSampleSerializedWithInfo, if_pos hvalid] at h ⊢
  rw [takeSampleSerialized, if_pos hvalid]
  by_cases hgrow : m.bufferCapacity < payload.length
  · rw [if_pos hgrow, Rcutils.uint8ArrayResize_of_lt hgrow] at h ⊢
    rw [if_pos hgrow]
    cases memory with
    | none => cases h
    | some memory => exact hfill _ h
  · rw [if_neg hgrow] at h ⊢
    rw [if_neg hgrow]
    exact hfill m h

theorem takeSampleLoaned_taken {returned : ReturnCode} {now : Option Int} {recorded : Bool}
    {message : M} (messageInfo : Option MessageInfo) (hvalid : info.validData = true)
    (h : (takeSampleLoaned s returned now recorded message messageInfo
      (.ok (payload, info))).1.taken = true) :
    takeSampleLoaned s returned now recorded message messageInfo (.ok (payload, info)) =
        (⟨.ok, some (s.decode payload message).2, true⟩,
          messageInfo.map fun _ => (fillMessageInfo s now info).2) ∧
      (messageInfo.isSome = true → (s.publicationGuid info.publicationHandle).isSome = true) := by
  have hguid : (fillMessageInfo s now info).1 = (s.publicationGuid info.publicationHandle).isSome :=
    rfl
  simp only [takeSampleLoaned, hvalid, if_true, hguid] at h ⊢
  split at h
  · cases h
  · next hreturned =>
      rw [if_neg hreturned]
      split at h
      · cases h
      · next hdecoded =>
          rw [if_neg hdecoded]
          split at h
          · cases h
          · split at h
            · cases h
            · next hrecorded =>
                rw [if_neg hrecorded]
                cases messageInfo with
                | none => simp
                | some messageInfo =>
                    simp only at h ⊢
                    split at h
                    · next hsome => simp [hsome]
                    · cases h

/-- A call that takes has found a sample with data. -/
theorem Call.found [Rcutils] {queue : List (RawTake Handle)} {call : Call M}
    (htaken : (call.run s queue).1 = true) :
    ∃ payload info rest, s.takeVisibleSample call.returned queue = (.ok (payload, info), rest) ∧
      (⟨.ok, [payload], [info]⟩ : RawTake Handle) ∈ queue ∧ info.validData = true ∧
      call.takes s (.ok (payload, info)) = true := by
  rw [Call.run_taken] at htaken
  cases hvisible : (s.takeVisibleSample call.returned queue).1 with
  | error code =>
      rw [hvisible, Call.takes_error] at htaken
      cases htaken
  | ok sample =>
      obtain ⟨payload, info⟩ := sample
      rw [hvisible] at htaken
      obtain ⟨before, after, hqueue, -, -⟩ := takeVisibleSample_eq_ok.mp hvisible
      have hmem : (⟨.ok, [payload], [info]⟩ : RawTake Handle) ∈ queue := by
        rw [hqueue]
        exact List.mem_append_right _ (List.mem_cons_self ..)
      exact ⟨payload, info, _, Prod.ext hvisible rfl, hmem, Call.takes_valid htaken, htaken⟩

section

variable {queue rest : List (RawTake Handle)} {call : Call M}

/-- It returns what the payload reads as. -/
theorem Call.yields [Rcutils]
    (hvisible : s.takeVisibleSample call.returned queue = (.ok (payload, info), rest))
    (hvalid : info.validData = true) (htakes : call.takes s (.ok (payload, info)) = true)
    (hreads : s.Reads value payload v) (hshort : payload.length < 4 → s.readerInit payload = false) :
    call.Yields s value queue v := by
  cases call with
  | take returned message =>
      simp only [Call.Yields, Call.returned, rmwTake] at hvisible ⊢
      rw [hvisible, takeSample_message hvalid]
      exact hreads.decode message
  | takeWithInfo returned now message messageInfo =>
      have heq := (takeSampleWithInfo_taken hvalid htakes).1
      simp only [Call.Yields, Call.returned, rmwTakeWithInfo] at hvisible ⊢
      rw [hvisible, heq]
      exact hreads.decode message
  | takeSerializedMessage returned memory m =>
      intro hm
      simp only [Call.returned, rmwTakeSerializedMessage] at hvisible ⊢
      rw [hvisible]
      exact hreads.holds hshort (takeSampleSerialized_taken hvalid hm htakes)
  | takeSerializedMessageWithInfo returned now memory m messageInfo =>
      intro hm
      have heq := (takeSampleSerializedWithInfo_taken hvalid htakes).1
      have hplain : (takeSampleSerialized memory m (.ok (payload, info))).taken = true :=
        (congrArg (fun result => result.1.taken) heq).symm.trans htakes
      simp only [Call.returned, rmwTakeSerializedMessageWithInfo] at hvisible ⊢
      rw [hvisible, heq]
      exact hreads.holds hshort (takeSampleSerialized_taken hvalid hm hplain)
  | takeLoanedMessage returned created recorded =>
      cases created with
      | none => cases htakes
      | some message =>
          have heq := (takeSampleLoaned_taken none hvalid htakes).1
          simp only [Call.Yields, Call.returned, rmwTakeLoanedMessage, takeCompatibilityLoan]
            at hvisible ⊢
          rw [hvisible, heq]
          exact congrArg some (hreads.decode message)
  | takeLoanedMessageWithInfo returned now created recorded messageInfo =>
      cases created with
      | none => cases htakes
      | some message =>
          have heq := (takeSampleLoaned_taken (some messageInfo) hvalid htakes).1
          simp only [Call.Yields, Call.returned, rmwTakeLoanedMessageWithInfo,
            takeCompatibilityLoan] at hvisible ⊢
          rw [hvisible, heq]
          exact congrArg some (hreads.decode message)

/-- Its message info names the writer of the sample. -/
theorem Call.names [Rcutils]
    (hvisible : s.takeVisibleSample call.returned queue = (.ok (payload, info), rest))
    (hvalid : info.validData = true) (htakes : call.takes s (.ok (payload, info)) = true)
    {guid : Guid}
    (hguid : ∀ guid', s.publicationGuid info.publicationHandle = some guid' → guid' = guid) :
    call.Names s queue guid := by
  have hfilled : ∀ now, (s.publicationGuid info.publicationHandle).isSome = true →
      (fillMessageInfo s now info).2.publisherGid = some guid := by
    intro now hsome
    obtain ⟨guid', hguid'⟩ := Option.isSome_iff_exists.mp hsome
    show s.publicationGuid info.publicationHandle = some guid
    rw [hguid', hguid guid' hguid']
  cases call with
  | take | takeSerializedMessage | takeLoanedMessage => trivial
  | takeWithInfo returned now message messageInfo =>
      obtain ⟨heq, hsome⟩ := takeSampleWithInfo_taken hvalid htakes
      simp only [Call.Names, Call.returned, rmwTakeWithInfo] at hvisible ⊢
      rw [hvisible, heq]
      exact hfilled now hsome
  | takeSerializedMessageWithInfo returned now memory m messageInfo =>
      obtain ⟨heq, hsome⟩ := takeSampleSerializedWithInfo_taken hvalid htakes
      simp only [Call.Names, Call.returned, rmwTakeSerializedMessageWithInfo] at hvisible ⊢
      rw [hvisible, heq]
      exact hfilled now hsome
  | takeLoanedMessageWithInfo returned now created recorded messageInfo =>
      cases created with
      | none => cases htakes
      | some message =>
          obtain ⟨heq, hsome⟩ := takeSampleLoaned_taken (some messageInfo) hvalid htakes
          simp only [Call.Names, Call.returned, rmwTakeLoanedMessageWithInfo,
            takeCompatibilityLoan] at hvisible ⊢
          rw [hvisible, heq]
          exact congrArg some (hfilled now (hsome rfl))

end

end

/-! ## Every run -/

section

variable {support : TypeSupport z language members} {ignoreLocalPublications : Bool}
  {e : Surroundings Handle} {x x' : Exchange members Handle}

/-- Every payload in the queue was written, and every payload written encodes a
message that was published. -/
structure Exchange.Sound (z : ZidlCdr) (x : Exchange members Handle) : Prop where
  written : ∀ handle payload, (handle, payload) ∈ x.world.written →
    ∃ value, (handle, value) ∈ x.published ∧ Encodes z members value payload
  queue : ∀ payload info, (⟨.ok, [payload], [info]⟩ : RawTake Handle) ∈ x.world.queue →
    info.validData = true → (info.publicationHandle, payload) ∈ x.world.written

theorem sound_empty : (⟨.start, []⟩ : Exchange members Handle).Sound z where
  written _ _ h := absurd h List.not_mem_nil
  queue _ _ h := absurd h List.not_mem_nil

/-- A publication is written with what it encodes, or not at all. -/
theorem Exchange.Sound.publish [Rcutils] (hempty : StartsEmpty z) (h : x.Sound z) {handle : Handle}
    {language : Language} {publisher : Option (Publisher z language members)}
    {publication : Publication language members} {taken : Bool} {ret : Ret}
    {sample : Option Written} (hrun : publication.run publisher taken = (ret, sample)) :
    Exchange.Sound z
      { world := x.world.write handle sample
        published :=
          if ret = .ok then (handle, language.value members publication.message) :: x.published
          else x.published } := by
  cases sample with
  | none =>
      refine ⟨fun other payload hwritten => ?_, h.queue⟩
      obtain ⟨value, hpublished, hencodes⟩ := h.written other payload hwritten
      refine ⟨value, ?_, hencodes⟩
      show (other, value) ∈ if ret = .ok then _ else x.published
      split
      · exact List.mem_cons_of_mem _ hpublished
      · exact hpublished
  | some sent =>
      obtain rfl := publication_some hrun
      obtain ⟨sent', hsent, hencodes, -⟩ := publication_encodes hempty hrun
      obtain rfl := Option.some.inj hsent
      constructor
      · intro other payload hwritten
        obtain hnew | hold := List.mem_cons.mp hwritten
        · obtain ⟨rfl, rfl⟩ := Prod.mk.inj hnew
          exact ⟨_, List.mem_cons_self .., hencodes⟩
        · obtain ⟨value, hpublished, hold⟩ := h.written other payload hold
          exact ⟨value, List.mem_cons_of_mem _ hpublished, hold⟩
      · intro payload info hmem hvalid
        exact List.mem_cons_of_mem _ (h.queue payload info hmem hvalid)

theorem Exchange.Sound.step [Rcutils] (hempty : StartsEmpty z) (h : x.Sound z)
    {a : ExchangeAction z members (language.Message members) Handle}
    (hstep : ExchangeStep support ignoreLocalPublications e x a x') : x'.Sound z := by
  cases hstep with
  | publish _ hrun => exact h.publish hempty hrun
  | other hnot hworld =>
      cases hworld with
      | createPublisher => exact ⟨h.written, h.queue⟩
      | destroyPublisher => exact ⟨h.written, h.queue⟩
      | publish => exact absurd trivial hnot
      | transport harrives _ =>
          refine ⟨h.written, fun payload info hmem hvalid => ?_⟩
          obtain hold | hnew := harrives _ hmem
          · exact h.queue payload info hold hvalid
          · obtain ⟨payload', hpayload, hwritten⟩ :=
              (hnew info (List.mem_singleton_self info)).2 hvalid
            obtain rfl := List.singleton_inj.mp hpayload
            exact hwritten
      | take call =>
          exact ⟨h.written, fun payload info hmem => h.queue payload info (Call.mem_run hmem)⟩

theorem sound_exchange [Rcutils] (hempty : StartsEmpty z)
    (h : (exchange support ignoreLocalPublications e).Reachable x) : x.Sound z := by
  refine h.invariant ?_ fun _ _ _ hsound hstep => hsound.step hempty hstep
  rintro x rfl
  exact sound_empty

/-- Publications are steps of the world. -/
theorem world_reachable [Rcutils] (h : (exchange support ignoreLocalPublications e).Reachable x) :
    (system (generated support ignoreLocalPublications) (readable z) e).Reachable x.world := by
  refine h.invariant (I := fun x => (system _ _ e).Reachable x.world) ?_ ?_
  · rintro x rfl
    exact .init rfl
  · intro x a x' hreach hstep
    cases hstep with
    | @publish _ _ _ _ _ _ sample hwriter _ =>
        cases sample with
        | none => exact hreach
        | some sent => exact hreach.step (.publish hwriter)
    | other _ hworld => exact hreach.step hworld

/-- What the take functions see. -/
def Exchange.subscription (support : TypeSupport z language members)
    (ignoreLocalPublications : Bool) (x : Exchange members Handle) :
    Subscription (language.Message members) Handle :=
  x.world.subscription (generated support ignoreLocalPublications) (readable z)

/-- A call that takes returns the value of a message published before, and names its
publisher. -/
theorem call_was_published [Rcutils] (hz : z.Lawful) (hempty : StartsEmpty z)
    (hshort : ∀ payload : List UInt8, payload.length < 4 → z.readerInit payload = none)
    (h : (exchange support ignoreLocalPublications e).Reachable x)
    (call : Call (language.Message members))
    (htaken : (call.run (x.subscription support ignoreLocalPublications) x.world.queue).1 = true) :
    ∃ handle value, (handle, value) ∈ x.published ∧
      call.Yields (x.subscription support ignoreLocalPublications) (language.value members)
        x.world.queue value ∧
      call.Names (x.subscription support ignoreLocalPublications) x.world.queue
        (e.writer handle) := by
  have hsound := sound_exchange hempty h
  obtain ⟨payload, info, rest, hvisible, hmem, hvalid, htakes⟩ := Call.found htaken
  obtain ⟨value, hpublished, hencodes⟩ :=
    hsound.written _ _ (hsound.queue payload info hmem hvalid)
  have hinit : payload.length < 4 → readable z payload = false := fun hlt =>
    Option.isSome_eq_false_iff.mpr (Option.isNone_iff_eq_none.mpr (hshort payload hlt))
  refine ⟨info.publicationHandle, value, hpublished, ?_, ?_⟩
  · exact Call.yields hvisible hvalid htakes (hencodes.reads hz support) hinit
  · exact Call.names hvisible hvalid htakes
      ((sound_reachable (world_reachable h)).resolved info.publicationHandle)

/-- So do the calls that `rmw_take_sequence` makes. -/
theorem sequence_was_published [Rcutils] (hz : z.Lawful) (hempty : StartsEmpty z)
    (hshort : ∀ payload : List UInt8, payload.length < 4 → z.readerInit payload = none)
    (h : (exchange support ignoreLocalPublications e).Reachable x)
    (slots : List (Slot (language.Message members))) :
    ∀ one ∈ (takeEach (x.subscription support ignoreLocalPublications) slots x.world.queue).2.1,
      one.1.taken = true → ∃ handle value, (handle, value) ∈ x.published ∧
        language.value members one.1.message = value ∧
        one.2.publisherGid = some (e.writer handle) := by
  induction slots generalizing x with
  | nil => exact fun one hmem => absurd hmem List.not_mem_nil
  | cons slot slots ih =>
      let s := x.subscription support ignoreLocalPublications
      let call : Call (language.Message members) :=
        .takeWithInfo slot.returned slot.now slot.message slot.messageInfo
      let first := rmwTakeWithInfo s slot.returned slot.now slot.message slot.messageInfo
        x.world.queue
      have hfirst : first.1.1.taken = true → ∃ handle value, (handle, value) ∈ x.published ∧
          language.value members first.1.1.message = value ∧
          first.1.2.publisherGid = some (e.writer handle) := fun htaken =>
        call_was_published hz hempty hshort h call htaken
      have hresults : takeEach s (slot :: slots) x.world.queue =
          if first.1.1.ret ≠ .ok then (first.1.1.ret, [first.1], first.2)
          else if !first.1.1.taken then (.ok, [first.1], first.2)
          else
            ((takeEach s slots first.2).1, first.1 :: (takeEach s slots first.2).2.1,
              (takeEach s slots first.2).2.2) := rfl
      intro one hmem htaken
      have hrest : one ∈ (takeEach s slots first.2).2.1 → ∃ handle value,
          (handle, value) ∈ x.published ∧ language.value members one.1.message = value ∧
            one.2.publisherGid = some (e.writer handle) := by
        intro hmem
        have hnot : ¬ (Action.take call : Action _ Handle).IsPublish := fun hpublish => hpublish
        have hnext := h.step (ExchangeStep.other hnot (Step.take call))
        exact ih hnext one hmem htaken
      rw [show takeEach (x.subscription support ignoreLocalPublications) (slot :: slots)
        x.world.queue = _ from hresults] at hmem
      have hone : one = first.1 ∨ one ∈ (takeEach s slots first.2).2.1 := by
        split at hmem
        · exact .inl (List.mem_singleton.mp hmem)
        · split at hmem
          · exact .inl (List.mem_singleton.mp hmem)
          · exact List.mem_cons.mp hmem
      obtain rfl | hmem := hone
      · exact hfirst htaken
      · exact hrest hmem

/-- Whatever is taken was published, and was published by the publisher that the
message info names. -/
theorem taken_was_published [Rcutils] (hz : z.Lawful) (hempty : StartsEmpty z)
    (hshort : ∀ payload : List UInt8, payload.length < 4 → z.readerInit payload = none)
    (support : TypeSupport z language members) (ignoreLocalPublications : Bool)
    (e : Surroundings Handle) {x : Exchange members Handle}
    (h : (exchange support ignoreLocalPublications e).Reachable x) :
    let s := x.subscription support ignoreLocalPublications
    (∀ call : Call (language.Message members), (call.run s x.world.queue).1 = true →
      ∃ handle value, (handle, value) ∈ x.published ∧
        call.Yields s (language.value members) x.world.queue value ∧
        call.Names s x.world.queue (e.writer handle)) ∧
    ∀ count slots, ∀ one ∈ (rmwTakeSequence s count slots x.world.queue).2.1,
      one.1.taken = true → ∃ handle value, (handle, value) ∈ x.published ∧
        language.value members one.1.message = value ∧
        one.2.publisherGid = some (e.writer handle) := by
  intro s
  constructor
  · exact fun call htaken => call_was_published hz hempty hshort h call htaken
  · intro count slots one hmem
    rw [rmwTakeSequence] at hmem
    split at hmem
    · exact absurd hmem List.not_mem_nil
    · exact sequence_was_published hz hempty hshort h (slots.take count) one hmem

end

/-! ## A message of one octet -/

attribute [local instance] Rcutils.documented

/-- A publisher of the octet. -/
def octetPublisher : Publisher Codec.xcdr1 .cpp octetRecord where
  implementationIdentifier := Lifecycle.identifier
  data := some (octetSupports .cpp)

/-- The octet was published elsewhere and has arrived. -/
def octetExchange : Exchange octetRecord Bool where
  world :=
    { World.start with
      written := [(false, [0, 1, 0, 0, 7])]
      publicationGuid := fun handle => some (writerGuid handle)
      queue := [⟨.ok, [[0, 1, 0, 0, 7]], [⟨true, false, 0, 0⟩]⟩] }
  published := [(false, (7 : UInt8))]

theorem reachable_octetExchange :
    (exchange octetSupport false twoWriters).Reachable octetExchange := by
  have hrun : (Publication.publish (7 : UInt8) : Publication .cpp octetRecord).run
      (some octetPublisher) true = (.ok, some ⟨List.replicate 16 0, [0, 1, 0, 0, 7]⟩) := rfl
  have hstart : (exchange octetSupport false twoWriters).Reachable ⟨World.start, []⟩ := .init rfl
  have hremote : twoWriters.writer false ∈ twoWriters.remote := rfl
  have hpublished := hstart.step (.publish (.inr hremote) hrun)
  have harrives : Step (generated octetSupport false) (readable Codec.xcdr1) twoWriters
      (World.start.write false (some ⟨List.replicate 16 0, [0, 1, 0, 0, 7]⟩))
      (.transport octetExchange.world.queue octetExchange.world.publicationGuid)
      octetExchange.world := by
    refine .transport ?_ ?_
    · intro raw hraw
      obtain rfl := List.mem_singleton.mp hraw
      refine .inr fun info hinfo => ?_
      obtain rfl := List.mem_singleton.mp hinfo
      exact ⟨.inr rfl, fun _ => ⟨_, rfl, List.mem_singleton_self _⟩⟩
    · exact fun handle guid hguid => (Option.some.inj hguid).symm
  have hnot : ¬ (Action.transport octetExchange.world.queue octetExchange.world.publicationGuid :
      Action UInt8 Bool).IsPublish := fun hpublish => hpublish
  exact hpublished.step (.other hnot harrives)

theorem readerInit_short {payload : List UInt8} (h : payload.length < 4) :
    Codec.xcdr1.readerInit payload = none := by
  rcases payload with - | ⟨first, - | ⟨second, - | ⟨third, - | ⟨fourth, rest⟩⟩⟩⟩
  · rfl
  · simp [Codec.xcdr1]
  · simp [Codec.xcdr1]
  · simp [Codec.xcdr1]
  · simp only [List.length_cons] at h
    omega

/-- The octet is taken over another one, with the GUID of its publisher. -/
theorem octet_was_published :
    ∃ handle value, (handle, value) ∈ octetExchange.published ∧
      (rmwTakeWithInfo (octetExchange.subscription octetSupport false) .ok none (0 : UInt8)
        ⟨0, 0, 0, 0, none, false⟩ octetExchange.world.queue).1.1.message = value ∧
      (rmwTakeWithInfo (octetExchange.subscription octetSupport false) .ok none (0 : UInt8)
        ⟨0, 0, 0, 0, none, false⟩ octetExchange.world.queue).1.2.publisherGid =
          some (twoWriters.writer handle) := by
  have hempty : StartsEmpty Codec.xcdr1 := by
    intro w hw
    obtain rfl := Option.some.inj hw
    exact ⟨rfl, rfl⟩
  have htaken := (taken_was_published Codec.xcdr1_lawful hempty (fun _ => readerInit_short)
    octetSupport false twoWriters reachable_octetExchange).1
  exact htaken (.takeWithInfo .ok none (0 : UInt8) ⟨0, 0, 0, 0, none, false⟩) rfl

end RmwZzdds.DataPlane
