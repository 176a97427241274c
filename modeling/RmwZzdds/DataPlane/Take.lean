import Mathlib.Data.Finset.Basic
import Mathlib.Data.UInt
import RmwZzdds.Serialization
import RmwZzdds.Service.Wire

/-!
# Taking samples

Every take function of a subscription begins with `take_visible_sample`, which
takes samples from the reader until it finds one to return.  What a function
does with that sample is a definition of its own (`takeSample` and its
siblings), so that the functions differ in that only.

The reader is given as the list of what successive calls of
`DDS_DataReader_take_raw` find.  Behind its end the reader is empty.  A loan is
returned several times, but at most once with a result that matters, so a call
has one `returned` for it.
-/

namespace RmwZzdds.DataPlane

open Service (Guid)

/-! ## The reader -/

/-- `DDS_ReturnCode_t`.  The codes of failures are not told apart. -/
inductive ReturnCode where
  | ok
  | noData
  | error
deriving DecidableEq, Repr

/-- The fields of `DDS_SampleInfo` that the take functions read. -/
structure SampleInfo (Handle : Type*) where
  validData : Bool
  publicationHandle : Handle
  sourceSec : Int32
  sourceNanosec : UInt32

/-- What a call of `DDS_DataReader_take_raw` for one sample gives. -/
structure RawTake (Handle : Type*) where
  result : ReturnCode
  payloads : List (List UInt8)
  infos : List (SampleInfo Handle)

/-- The sample that `take_visible_sample` leaves in the loan, or its result if that
is not `DDS_RETCODE_OK`. -/
abbrev Visible (Handle : Type*) := Except ReturnCode (List UInt8 × SampleInfo Handle)

/-- What `take_visible_sample` makes of a sample that it does not skip. -/
def RawTake.visible {Handle : Type*} (returned : ReturnCode) (raw : RawTake Handle) :
    Visible Handle :=
  if raw.result ≠ .ok then .error raw.result
  else
    match raw.payloads, raw.infos with
    | [], [] => .error (if returned = .ok then .noData else returned)
    | [payload], [info] => .ok (payload, info)
    | _, _ => .error .error

/-- The fields of `SubscriptionImpl` that the take functions read. -/
structure SubscriptionImpl (M : Type*) where
  callbacks : Callbacks M
  ignoreLocalPublications : Bool

/-- What the take functions see of a subscription, its context and its reader. -/
structure Subscription (M Handle : Type*) extends SubscriptionImpl M where
  localPublicationGuids : Finset Guid
  /-- `guid_from_publication`. -/
  publicationGuid : Handle → Option Guid
  /-- The success of `zidl_cdr_reader_init`. -/
  readerInit : List UInt8 → Bool

namespace Subscription

variable {M Handle : Type*} (s : Subscription M Handle)

/-- `is_local_publication`. -/
def isLocalPublication (handle : Handle) : Bool :=
  match s.publicationGuid handle with
  | none => false
  | some guid => guid ∈ s.localPublicationGuids

/-- The sample is not returned. -/
def skips (info : SampleInfo Handle) : Bool :=
  s.ignoreLocalPublications && s.isLocalPublication info.publicationHandle

/-- The loop of `take_visible_sample` goes on behind such a sample. -/
def passes (raw : RawTake Handle) : Bool :=
  match raw.payloads, raw.infos with
  | [_], [info] => raw.result = .ok && s.skips info
  | _, _ => false

/-- `take_visible_sample`. -/
def takeVisibleSample (returned : ReturnCode) :
    List (RawTake Handle) → Visible Handle × List (RawTake Handle)
  | [] => (.error (if returned = .ok then .noData else returned), [])
  | raw :: queue =>
      if s.passes raw then takeVisibleSample returned queue else (raw.visible returned, queue)

/-! ## Messages -/

/-- The payload is read into the message. -/
def decode (payload : List UInt8) (message : M) : Bool × M :=
  if s.readerInit payload then s.callbacks.deserialize payload message else (false, message)

end Subscription

/-- What a take function leaves: its result, the destination and the taken
flag. -/
structure TakeResult (M : Type*) where
  ret : Ret
  message : M
  taken : Bool

section Taking

variable {M Handle : Type*} (s : Subscription M Handle)

/-- What `rmw_take` does with a sample. -/
def takeSample (returned : ReturnCode) (message : M) : Visible Handle → TakeResult M
  | .error .noData => ⟨.ok, message, false⟩
  | .error _ => ⟨.error, message, false⟩
  | .ok (payload, info) =>
      let (decoded, message) :=
        if info.validData then s.decode payload message else (false, message)
      if returned ≠ .ok then ⟨.error, message, false⟩
      else if info.validData && !decoded then ⟨.error, message, false⟩
      else ⟨.ok, message, info.validData⟩

/-- `rmw_take`. -/
def rmwTake (returned : ReturnCode) (message : M) (queue : List (RawTake Handle)) :
    TakeResult M × List (RawTake Handle) :=
  let (visible, queue) := s.takeVisibleSample returned queue
  (takeSample s returned message visible, queue)

/-! ## Message infos -/

/-- `rmw_message_info_t`.  A zero-initialized GID is `none`. -/
structure MessageInfo where
  sourceTimestamp : Int
  receivedTimestamp : Int
  publicationSequenceNumber : UInt64
  receptionSequenceNumber : UInt64
  publisherGid : Option Guid
  fromIntraProcess : Bool

/-- `RMW_MESSAGE_INFO_SEQUENCE_NUMBER_UNSUPPORTED`. -/
def sequenceNumberUnsupported : UInt64 := 2 ^ 64 - 1

/-- `fill_message_info`.  `now` is what `rcutils_system_time_now` finds. -/
def fillMessageInfo (now : Option Int) (info : SampleInfo Handle) : Bool × MessageInfo :=
  let publisherGid := s.publicationGuid info.publicationHandle
  (publisherGid.isSome,
    { sourceTimestamp := info.sourceSec.toInt * 1000000000 + info.sourceNanosec.toNat
      receivedTimestamp := now.getD 0
      publicationSequenceNumber := sequenceNumberUnsupported
      receptionSequenceNumber := sequenceNumberUnsupported
      publisherGid := publisherGid
      fromIntraProcess := false })

/-- What `rmw_take_with_info` does with a sample. -/
def takeSampleWithInfo (now : Option Int) (message : M) (messageInfo : MessageInfo) :
    Visible Handle → TakeResult M × MessageInfo
  | .error .noData => (⟨.ok, message, false⟩, messageInfo)
  | .error _ => (⟨.error, message, false⟩, messageInfo)
  | .ok (payload, info) =>
      let (decoded, message) :=
        if info.validData then s.decode payload message else (true, message)
      if !decoded then (⟨.error, message, false⟩, messageInfo)
      else if info.validData then
        let (filled, messageInfo) := fillMessageInfo s now info
        (if filled then ⟨.ok, message, true⟩ else ⟨.error, message, false⟩, messageInfo)
      else (⟨.ok, message, false⟩, messageInfo)

/-- `rmw_take_with_info`. -/
def rmwTakeWithInfo (returned : ReturnCode) (now : Option Int) (message : M)
    (messageInfo : MessageInfo) (queue : List (RawTake Handle)) :
    (TakeResult M × MessageInfo) × List (RawTake Handle) :=
  let (visible, queue) := s.takeVisibleSample returned queue
  (takeSampleWithInfo s now message messageInfo visible, queue)

/-! ## Sequences -/

/-- An element of a message sequence and of its sequence of infos, and what
happens while it is filled. -/
structure Slot (M : Type*) where
  message : M
  messageInfo : MessageInfo
  returned : ReturnCode
  now : Option Int

/-- The loop of `rmw_take_sequence`. -/
def takeEach : List (Slot M) → List (RawTake Handle) →
    Ret × List (TakeResult M × MessageInfo) × List (RawTake Handle)
  | [], queue => (.ok, [], queue)
  | slot :: slots, queue =>
      let (one, queue) := rmwTakeWithInfo s slot.returned slot.now slot.message slot.messageInfo queue
      if one.1.ret ≠ .ok then (one.1.ret, [one], queue)
      else if !one.1.taken then (.ok, [one], queue)
      else
        let (ret, results, queue) := takeEach slots queue
        (ret, one :: results, queue)

/-- `rmw_take_sequence`.  The results are those of the calls it has made. -/
def rmwTakeSequence (count : Nat) (slots : List (Slot M)) (queue : List (RawTake Handle)) :
    Ret × List (TakeResult M × MessageInfo) × List (RawTake Handle) :=
  if count = 0 ∨ slots.length < count then (.invalidArgument, [], queue)
  else takeEach s (slots.take count) queue

/-! ## Serialized messages -/

/-- The payload is copied to the front of the buffer. -/
def SerializedMessage.fill (payload : List UInt8) (m : SerializedMessage) : SerializedMessage :=
  { m with
    buffer := m.buffer.map fun memory => payload ++ memory.drop payload.length
    bufferLength := payload.length }

/-- What `rmw_take_serialized_message` does with a sample.  `memory` is what the
allocator returns if the buffer has to grow. -/
def takeSampleSerialized [Rcutils] (memory : Option (List UInt8)) (m : SerializedMessage) :
    Visible Handle → TakeResult SerializedMessage
  | .error .noData => ⟨.ok, m, false⟩
  | .error _ => ⟨.error, m, false⟩
  | .ok (payload, info) =>
      if info.validData then
        if m.bufferCapacity < payload.length then
          match Rcutils.uint8ArrayResize m payload.length memory with
          | (.ok, m) => ⟨.ok, SerializedMessage.fill payload m, true⟩
          | (.badAlloc, m) => ⟨.badAlloc, m, false⟩
          | (_, m) => ⟨.error, m, false⟩
        else ⟨.ok, SerializedMessage.fill payload m, true⟩
      else ⟨.ok, m, false⟩

/-- `rmw_take_serialized_message`. -/
def rmwTakeSerializedMessage [Rcutils] (returned : ReturnCode) (memory : Option (List UInt8))
    (m : SerializedMessage) (queue : List (RawTake Handle)) :
    TakeResult SerializedMessage × List (RawTake Handle) :=
  let (visible, queue) := s.takeVisibleSample returned queue
  (takeSampleSerialized memory m visible, queue)

/-- The end of `rmw_take_serialized_message_with_info`, for a sample with data and
a buffer that holds it. -/
def fillSerializedWithInfo (now : Option Int) (m : SerializedMessage) (payload : List UInt8)
    (info : SampleInfo Handle) : TakeResult SerializedMessage × MessageInfo :=
  let (filled, messageInfo) := fillMessageInfo s now info
  let m := SerializedMessage.fill payload m
  (if filled then ⟨.ok, m, true⟩ else ⟨.error, m, false⟩, messageInfo)

/-- What `rmw_take_serialized_message_with_info` does with a sample. -/
def takeSampleSerializedWithInfo [Rcutils] (now : Option Int) (memory : Option (List UInt8))
    (m : SerializedMessage) (messageInfo : MessageInfo) :
    Visible Handle → TakeResult SerializedMessage × MessageInfo
  | .error .noData => (⟨.ok, m, false⟩, messageInfo)
  | .error _ => (⟨.error, m, false⟩, messageInfo)
  | .ok (payload, info) =>
      if info.validData then
        if m.bufferCapacity < payload.length then
          match Rcutils.uint8ArrayResize m payload.length memory with
          | (.ok, m) => fillSerializedWithInfo s now m payload info
          | (_, m) => (⟨.badAlloc, m, false⟩, messageInfo)
        else fillSerializedWithInfo s now m payload info
      else (⟨.ok, m, false⟩, messageInfo)

/-- `rmw_take_serialized_message_with_info`. -/
def rmwTakeSerializedMessageWithInfo [Rcutils] (returned : ReturnCode) (now : Option Int)
    (memory : Option (List UInt8)) (m : SerializedMessage) (messageInfo : MessageInfo)
    (queue : List (RawTake Handle)) :
    (TakeResult SerializedMessage × MessageInfo) × List (RawTake Handle) :=
  let (visible, queue) := s.takeVisibleSample returned queue
  (takeSampleSerializedWithInfo s now memory m messageInfo visible, queue)

/-! ## Loaned messages -/

/-- What `take_compatibility_loan` does with a sample, once it has a message.
`recorded` says whether the message can be put among the loaned messages.  There
is no message info when the pointer to it is null. -/
def takeSampleLoaned (returned : ReturnCode) (now : Option Int) (recorded : Bool) (message : M)
    (messageInfo : Option MessageInfo) :
    Visible Handle → TakeResult (Option M) × Option MessageInfo
  | .error .noData => (⟨.ok, none, false⟩, messageInfo)
  | .error _ => (⟨.error, none, false⟩, messageInfo)
  | .ok (payload, info) =>
      let (decoded, message) :=
        if info.validData then s.decode payload message else (true, message)
      if returned ≠ .ok then (⟨.error, none, false⟩, messageInfo)
      else if !decoded then (⟨.error, none, false⟩, messageInfo)
      else if !info.validData then (⟨.ok, none, false⟩, messageInfo)
      else if !recorded then (⟨.badAlloc, none, false⟩, messageInfo)
      else
        match messageInfo with
        | none => (⟨.ok, some message, true⟩, none)
        | some _ =>
            let (filled, messageInfo) := fillMessageInfo s now info
            (if filled then ⟨.ok, some message, true⟩ else ⟨.error, none, false⟩, some messageInfo)

/-- `take_compatibility_loan`, and with it `rmw_take_loaned_message` and
`rmw_take_loaned_message_with_info`.  `created` is what `create_ros_message`
returns. -/
def takeCompatibilityLoan (returned : ReturnCode) (now : Option Int) (created : Option M)
    (recorded : Bool) (messageInfo : Option MessageInfo) (queue : List (RawTake Handle)) :
    (TakeResult (Option M) × Option MessageInfo) × List (RawTake Handle) :=
  match created with
  | none => ((⟨.badAlloc, none, false⟩, messageInfo), queue)
  | some message =>
      let (visible, queue) := s.takeVisibleSample returned queue
      (takeSampleLoaned s returned now recorded message messageInfo visible, queue)

/-- `rmw_take_loaned_message`. -/
def rmwTakeLoanedMessage (returned : ReturnCode) (created : Option M) (recorded : Bool)
    (queue : List (RawTake Handle)) : TakeResult (Option M) × List (RawTake Handle) :=
  let ((result, _), queue) := takeCompatibilityLoan s returned none created recorded none queue
  (result, queue)

/-- `rmw_take_loaned_message_with_info`. -/
def rmwTakeLoanedMessageWithInfo (returned : ReturnCode) (now : Option Int) (created : Option M)
    (recorded : Bool) (messageInfo : MessageInfo) (queue : List (RawTake Handle)) :
    (TakeResult (Option M) × Option MessageInfo) × List (RawTake Handle) :=
  takeCompatibilityLoan s returned now created recorded (some messageInfo) queue

end Taking

end RmwZzdds.DataPlane
