import RmwZzdds.Serialization
import RmwZzdds.Service.Wire

/-!
# Publishing and taking service messages

`publish_service_message` and `take_service_message` as functions of what the
allocator and zzdds return on the way.  Publishing yields the wire message
handed to zzdds, and taking runs its loop over the results of the takes below
it until one of them ends the call.
-/

namespace RmwZzdds.Service

variable {M : Type*}

/-! ## Publishing -/

/-- What the allocator and zzdds return while one message is published. -/
structure PublishOutcome where
  /-- `rmw_serialized_message_init` of the payload. -/
  payloadInit : Ret
  /-- The memory for the payload. -/
  payloadMemory : Option (List UInt8)
  /-- `rmw_serialized_message_init` of the wire message. -/
  wireInit : Ret
  /-- `DDS_DataWriter_write_raw` returns `DDS_RETCODE_OK`. -/
  written : Bool

/-- The result, and the bytes handed to `DDS_DataWriter_write_raw`.  `keyHash`
is the key hash of the ROS message, if there is a message and the hash can be
computed. -/
def writeSerialized (callbacks : Callbacks M) (data : List UInt8)
    (keyHash : Option (List UInt8)) (written : Bool) : Ret × Option (List UInt8) :=
  if callbacks.hasKey && keyHash.isNone then (.error, none)
  else if data.length > 2 ^ 32 - 1 then (.error, none)
  else (if written then .ok else .error, some data)

def rmwPublishSerializedMessage (callbacks : Callbacks M) (message : List UInt8)
    (written : Bool) : Ret × Option (List UInt8) :=
  if message.length < 4 then (.invalidArgument, none)
  else if callbacks.hasKey then (.unsupported, none)
  else writeSerialized callbacks message none written

def publishServiceMessage [Rcutils] (callbacks : Callbacks M) (message : M) (requestId : RequestId)
    (o : PublishOutcome) : Ret × Option (List UInt8) :=
  if o.payloadInit ≠ .ok then (o.payloadInit, none)
  else
    match rmwSerialize (some message) (some callbacks) .empty o.payloadMemory with
    | (.ok, payload) =>
        if payload.bufferLength > 2 ^ 64 - 1 - requestHeaderSize then (.error, none)
        else if o.wireInit ≠ .ok then (o.wireInit, none)
        else rmwPublishSerializedMessage callbacks (frame requestId payload.content) o.written
    | (result, _) => (result, none)

theorem rmwPublishSerializedMessage_written {callbacks : Callbacks M} {message : List UInt8}
    {written : Bool} {ret : Ret} {wire : List UInt8}
    (h : rmwPublishSerializedMessage callbacks message written = (ret, some wire)) :
    wire = message := by
  simp only [rmwPublishSerializedMessage, writeSerialized] at h
  split at h
  · cases h
  · split at h
    · cases h
    · split at h
      · cases h
      · split at h <;> cases h
        rfl

/-- What goes out is a frame around an encoding of the message. -/
theorem publishServiceMessage_written [Rcutils] {callbacks : Callbacks M} {message : M}
    {requestId : RequestId} {o : PublishOutcome} {ret : Ret} {wire : List UInt8}
    (h : publishServiceMessage callbacks message requestId o = (ret, some wire)) :
    ∃ payload, wire = frame requestId payload ∧ callbacks.Encodes message payload := by
  simp only [publishServiceMessage] at h
  split at h
  · cases h
  · split at h
    next payload hserialize =>
      split at h
      · cases h
      · split at h
        · cases h
        · exact ⟨payload.content, rmwPublishSerializedMessage_written h,
            rmwSerialize_empty hserialize⟩
    next => cases h

/-! ## Taking -/

/-- The parts of `rmw_message_info_t` that a service reads. -/
structure MessageInfo where
  sourceTimestamp : Int64
  receivedTimestamp : Int64
deriving DecidableEq

/-- `rmw_service_info_t`. -/
structure ServiceInfo where
  sourceTimestamp : Int64
  receivedTimestamp : Int64
  requestId : RequestId
deriving DecidableEq

/-- What zzdds and the allocator do in one
`rmw_take_serialized_message_with_info`. -/
inductive TakeOutcome where
  /-- The reader is empty. -/
  | noData
  /-- The take fails. -/
  | failed
  /-- The sample has no valid data. -/
  | invalidData
  /-- The message cannot grow to the size of the sample. -/
  | resizeFailed (wire : List UInt8)
  /-- The GUID of the sample's writer cannot be resolved. -/
  | noGuid (wire : List UInt8)
  | sample (wire : List UInt8) (info : MessageInfo)
deriving DecidableEq

/-- The sample a take removes from the reader. -/
def TakeOutcome.wire : TakeOutcome → Option (List UInt8)
  | .resizeFailed wire => some wire
  | .noGuid wire => some wire
  | .sample wire _ => some wire
  | _ => none

/-- The result, and the message and its info if `*taken` is set. -/
def rmwTakeSerializedMessageWithInfo :
    TakeOutcome → Ret × Option (List UInt8 × MessageInfo)
  | .noData => (.ok, none)
  | .failed => (.error, none)
  | .invalidData => (.ok, none)
  | .resizeFailed _ => (.badAlloc, none)
  | .noGuid _ => (.error, none)
  | .sample wire info => (.ok, some (wire, info))

/-- What a take returns, with what it leaves in `*taken`, in the service info
and in the message.  `taken` is `none` if the call did not write it. -/
structure TakeResult (M : Type*) where
  ret : Ret
  taken : Option Bool
  info : ServiceInfo
  message : M
deriving DecidableEq

/-- One pass of the loop of `take_service_message`, `none` if it goes on. -/
def takePass (readerInit : List UInt8 → Bool) (callbacks : Callbacks M)
    (expectedGuid : Option Guid) (info : ServiceInfo) (message : M) (o : TakeOutcome) :
    Option (TakeResult M) :=
  match rmwTakeSerializedMessageWithInfo o with
  | (ret, none) => some ⟨ret, some false, info, message⟩
  | (_, some (wire, source)) =>
      if h : wire.length ≤ requestHeaderSize then some ⟨.error, some false, info, message⟩
      else
        let requestId := requestIdOf wire (Nat.lt_of_not_le h)
        if expectedGuid.any (· ≠ requestId.writerGuid) then none
        else
          let info := ⟨source.sourceTimestamp, source.receivedTimestamp, requestId⟩
          match rmwDeserialize readerInit (.view (payloadOf wire)) (some callbacks)
            (some message) with
          | (.ok, target) => some ⟨.ok, some true, info, target.getD message⟩
          | (ret, target) => some ⟨ret, some false, info, target.getD message⟩

/-- `init` is the result of `rmw_serialized_message_init`.  The call has not
returned as long as no pass ends it. -/
def takeServiceMessage (readerInit : List UInt8 → Bool) (callbacks : Callbacks M)
    (expectedGuid : Option Guid) (info : ServiceInfo) (message : M) (init : Ret)
    (outcomes : List TakeOutcome) : Option (TakeResult M) :=
  if init ≠ .ok then some ⟨init, none, info, message⟩
  else outcomes.findSome? (takePass readerInit callbacks expectedGuid info message)

section

variable {readerInit : List UInt8 → Bool} {callbacks : Callbacks M} {expectedGuid : Option Guid}
  {info : ServiceInfo} {message : M} {r : TakeResult M}

/-- A pass that takes has a sample whose head is the request id it returns and
whose payload decodes to the message it returns. -/
theorem takePass_taken {o : TakeOutcome}
    (h : takePass readerInit callbacks expectedGuid info message o = some r)
    (htaken : r.taken = some true) :
    ∃ wire, o.wire = some wire ∧ ∃ hlt : requestHeaderSize < wire.length,
      r.info.requestId = requestIdOf wire hlt ∧
        (∀ guid ∈ expectedGuid, r.info.requestId.writerGuid = guid) ∧
        callbacks.Decodes readerInit (payloadOf wire) message r.message := by
  cases o with
  | sample wire source =>
      simp only [takePass, rmwTakeSerializedMessageWithInfo] at h
      split at h
      · cases h
        cases htaken
      next hlen =>
        split at h
        · cases h
        next hguid =>
          split at h
          next target hread =>
            obtain ⟨new, rfl, hdecodes⟩ := rmwDeserialize_view hread
            cases h
            refine ⟨wire, rfl, Nat.lt_of_not_le hlen, rfl, ?_, hdecodes⟩
            rintro guid hmem
            cases hmem
            by_contra hne
            exact hguid (decide_eq_true (Ne.symm hne))
          next =>
            cases h
            cases htaken
  | noData | failed | invalidData | resizeFailed wire | noGuid wire =>
      cases h
      cases htaken

/-- A sample for another client does not end the call. -/
theorem takePass_of_ne {guid : Guid} {id : RequestId} {payload : List UInt8}
    (hpayload : 0 < payload.length) (hguid : id.writerGuid ≠ guid) (source : MessageInfo) :
    takePass readerInit callbacks (some guid) info message (.sample (frame id payload) source) =
      none := by
  have hlen : ¬ (frame id payload).length ≤ requestHeaderSize := by
    rw [length_frame]
    omega
  have hany : (some guid).any (· ≠ id.writerGuid) = true := decide_eq_true hguid.symm
  simp only [takePass, rmwTakeSerializedMessageWithInfo, dif_neg hlen, requestIdOf_frame]
  exact if_pos hany

/-- A call that takes has made the pass that did. -/
theorem takeServiceMessage_taken {init : Ret} {outcomes : List TakeOutcome}
    (h : takeServiceMessage readerInit callbacks expectedGuid info message init outcomes = some r)
    (htaken : r.taken = some true) :
    ∃ o ∈ outcomes, takePass readerInit callbacks expectedGuid info message o = some r := by
  simp only [takeServiceMessage] at h
  split at h
  · cases h
    cases htaken
  · exact List.exists_of_findSome?_eq_some h

/-- A call still in its loop goes on with the next pass. -/
theorem takeServiceMessage_append {init : Ret} {outcomes : List TakeOutcome}
    (h : takeServiceMessage readerInit callbacks expectedGuid info message init outcomes = none)
    (o : TakeOutcome) :
    takeServiceMessage readerInit callbacks expectedGuid info message init (outcomes ++ [o]) =
      takePass readerInit callbacks expectedGuid info message o := by
  simp only [takeServiceMessage] at h ⊢
  split at h
  · cases h
  next hinit => rw [if_neg hinit, List.findSome?_append, h, Option.none_or,
      List.findSome?_singleton]

end

end RmwZzdds.Service
