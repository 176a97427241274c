import RmwZzdds.Service.Correlation

/-!
# The frame of a service message

Publishing builds a frame around the serialized message, and taking reads the
frame back.  Both directions are exact: a frame gives back what was put into it
(`takeServiceMessage_frame`), every longer wire message is the frame of what is
read from it (`frame_requestIdOf`), and every shorter one is rejected
(`takeServiceMessage_short`).
-/

namespace RmwZzdds.Service

variable {M : Type*} {readerInit : List UInt8 → Bool} {callbacks : Callbacks M}
  {expectedGuid : Option Guid} {info : ServiceInfo} {message : M}

variable (readerInit callbacks message) in
/-- The result of `rmw_deserialize` on a message that is there. -/
theorem rmwDeserialize_target (m : SerializedMessage) :
    ∃ target, (rmwDeserialize readerInit m (some callbacks) (some message)).2 = some target := by
  simp only [rmwDeserialize]
  split
  · exact ⟨message, rfl⟩
  · split
    · exact ⟨_, rfl⟩
    · exact ⟨message, rfl⟩

variable (readerInit callbacks info message) in
/-- A pass over a frame reads its request id and deserializes its payload. -/
theorem takePass_frame {id : RequestId} {payload : List UInt8} (hpayload : 0 < payload.length)
    (hexpected : ∀ guid ∈ expectedGuid, guid = id.writerGuid) (source : MessageInfo) :
    ∃ r, takePass readerInit callbacks expectedGuid info message
        (.sample (frame id payload) source) = some r ∧
      r.info = ⟨source.sourceTimestamp, source.receivedTimestamp, id⟩ ∧
      (r.ret, some r.message) =
        rmwDeserialize readerInit (.view payload) (some callbacks) (some message) ∧
      (r.taken = some true ↔ r.ret = .ok) := by
  have hlen : ¬ (frame id payload).length ≤ requestHeaderSize := by
    rw [length_frame]
    omega
  have hfilter : ¬ expectedGuid.any (· ≠ id.writerGuid) = true := by
    cases expectedGuid with
    | none => simp
    | some guid => simp [hexpected guid rfl]
  obtain ⟨target, htarget⟩ := rmwDeserialize_target readerInit callbacks message (.view payload)
  simp only [takePass, rmwTakeSerializedMessageWithInfo, dif_neg hlen, requestIdOf_frame,
    payloadOf_frame, if_neg hfilter]
  rcases hread : rmwDeserialize readerInit (.view payload) (some callbacks) (some message) with
    ⟨ret, new⟩
  rw [hread] at htarget
  cases htarget
  cases ret with
  | ok => exact ⟨_, rfl, rfl, rfl, by simp⟩
  | _ => exact ⟨_, rfl, rfl, rfl, by simp⟩

variable (readerInit callbacks info message) in
/-- A call that finds a frame returns what was put into it. -/
theorem takeServiceMessage_frame {id : RequestId} {payload : List UInt8}
    (hpayload : 0 < payload.length) (hexpected : ∀ guid ∈ expectedGuid, guid = id.writerGuid)
    (source : MessageInfo) (outcomes : List TakeOutcome) :
    ∃ r, takeServiceMessage readerInit callbacks expectedGuid info message .ok
        (.sample (frame id payload) source :: outcomes) = some r ∧
      r.info = ⟨source.sourceTimestamp, source.receivedTimestamp, id⟩ ∧
      (r.ret, some r.message) =
        rmwDeserialize readerInit (.view payload) (some callbacks) (some message) ∧
      (r.taken = some true ↔ r.ret = .ok) := by
  obtain ⟨r, hpass, hr⟩ := takePass_frame readerInit callbacks info message hpayload hexpected source
  refine ⟨r, ?_, hr⟩
  rw [takeServiceMessage, if_neg (not_not.mpr rfl), List.findSome?_cons, hpass]

/-- A wire message without a payload is rejected. -/
theorem takeServiceMessage_short {wire : List UInt8} (h : wire.length ≤ requestHeaderSize)
    (source : MessageInfo) (outcomes : List TakeOutcome) :
    takeServiceMessage readerInit callbacks expectedGuid info message .ok
        (.sample wire source :: outcomes) =
      some ⟨.error, some false, info, message⟩ := by
  rw [takeServiceMessage, if_neg (not_not.mpr rfl), List.findSome?_cons]
  simp only [takePass, rmwTakeSerializedMessageWithInfo, dif_pos h]

/-- Service messages survive the wire, and nothing else passes for one. -/
theorem service_frame_round_trip [Rcutils] (readerInit : List UInt8 → Bool)
    (callbacks : Callbacks M) (info : ServiceInfo) (message : M) :
    (∀ sent id o ret wire, publishServiceMessage callbacks sent id o = (ret, some wire) →
      ∃ payload, callbacks.Encodes sent payload ∧ wire = frame id payload) ∧
    (∀ id payload expectedGuid source outcomes, 0 < payload.length →
      (∀ guid ∈ expectedGuid, guid = id.writerGuid) →
      ∃ r, takeServiceMessage readerInit callbacks expectedGuid info message .ok
          (.sample (frame id payload) source :: outcomes) = some r ∧
        r.info.requestId = id ∧
        (r.ret, some r.message) =
          rmwDeserialize readerInit (.view payload) (some callbacks) (some message) ∧
        (r.taken = some true ↔ r.ret = .ok)) ∧
    (∀ wire (h : requestHeaderSize < wire.length),
      frame (requestIdOf wire h) (payloadOf wire) = wire) ∧
    (∀ wire expectedGuid source outcomes, wire.length ≤ requestHeaderSize →
      takeServiceMessage readerInit callbacks expectedGuid info message .ok
          (.sample wire source :: outcomes) = some ⟨.error, some false, info, message⟩) ∧
    (∀ sequence, decodeSequence (encodeSequence sequence) = sequence) ∧
    ∀ bytes, bytes.length = 8 → encodeSequence (decodeSequence bytes) = bytes := by
  refine ⟨?_, ?_, ?_, ?_, ?_, ?_⟩
  · intro sent id o ret wire h
    obtain ⟨payload, hwire, hencodes⟩ := publishServiceMessage_written h
    exact ⟨payload, hencodes, hwire⟩
  · intro id payload expectedGuid source outcomes hpayload hexpected
    obtain ⟨r, htaken, hinfo, hread, htrue⟩ := takeServiceMessage_frame readerInit callbacks info
      message hpayload hexpected source outcomes
    exact ⟨r, htaken, congrArg (·.requestId) hinfo, hread, htrue⟩
  · exact fun wire h => frame_requestIdOf h
  · exact fun wire expectedGuid source outcomes h => takeServiceMessage_short h source outcomes
  · exact decodeSequence_encodeSequence
  · exact fun bytes h => encodeSequence_decodeSequence h

attribute [local instance] Rcutils.documented

/-- A request with a negative sequence number. -/
def negativeRequest : RequestId := ⟨twoClients.guid true, -1⟩

/-- It is published and taken. -/
theorem service_frame_octet :
    ∃ wire, publishServiceMessage octetCallbacks 7 negativeRequest
        ⟨.ok, some [0, 0, 0, 0, 0], .ok, true⟩ = (.ok, some wire) ∧
      ∃ payload, octetCallbacks.Encodes 7 payload ∧ wire = frame negativeRequest payload ∧
        ∃ r, takeServiceMessage twoClients.readerInit octetCallbacks negativeRequest.writerGuid
            ⟨0, 0, negativeRequest⟩ 0 .ok [.sample wire ⟨0, 0⟩] = some r ∧
          r.info.requestId = negativeRequest := by
  obtain ⟨hpublish, htake, -⟩ := service_frame_round_trip twoClients.readerInit octetCallbacks
    ⟨0, 0, negativeRequest⟩ 0
  have hwritten : publishServiceMessage octetCallbacks 7 negativeRequest
      ⟨.ok, some [0, 0, 0, 0, 0], .ok, true⟩ =
        (.ok, some (frame negativeRequest [0, 1, 0, 0, 7])) := by decide +kernel
  obtain ⟨payload, hencodes, hwire⟩ := hpublish _ _ _ _ _ hwritten
  have hpayload : 0 < payload.length := Nat.lt_of_lt_of_le (by decide) hencodes.2
  obtain ⟨r, htaken, hid, -⟩ := htake negativeRequest payload negativeRequest.writerGuid ⟨0, 0⟩ []
    hpayload (fun _ h => (Option.some.inj h).symm)
  exact ⟨_, hwritten, payload, hencodes, hwire, r, hwire ▸ htaken, hid⟩

end RmwZzdds.Service
