import RmwZzdds.Library.Bytes

/-!
# Service messages on the wire

A request and its responses travel as the GUID of the client's request writer,
the sequence number of the request, and the serialized message.  `frame` puts
the three together, and `requestIdOf` and `payloadOf` take a wire message apart
again.
-/

namespace RmwZzdds.Service

/-- `dds_guid_size`. -/
abbrev ddsGuidSize : Nat := 16

/-- `request_header_size`. -/
abbrev requestHeaderSize : Nat := ddsGuidSize + 8

/-- The GUID of a DDS entity. -/
structure Guid where
  bytes : List UInt8
  length_eq : bytes.length = ddsGuidSize
deriving DecidableEq

/-- The GUID whose octets are zero. -/
def Guid.zero : Guid := ⟨List.replicate _ 0, List.length_replicate⟩

/-- `rmw_request_id_t`. -/
structure RequestId where
  writerGuid : Guid
  sequenceNumber : Int64
deriving DecidableEq

/-! ## The sequence number -/

/-- The sequence number from its highest byte on. -/
def encodeSequence (sequence : Int64) : List UInt8 :=
  let value := sequence.toUInt64
  (List.range 8).map fun index => (value >>> (56 - 8 * UInt64.ofNat index)).toUInt8

def decodeSequence (input : List UInt8) : Int64 :=
  (input.foldl Bytes.pushByte 0).toInt64

theorem encodeSequence_eq (sequence : Int64) :
    encodeSequence sequence = Bytes.toBytes 8 sequence.toUInt64.toNat := by
  have hshift (k : UInt64) (hk : k.toNat < 64) :
      (sequence.toUInt64 >>> k).toUInt8 =
        UInt8.ofNat (sequence.toUInt64.toNat / 2 ^ k.toNat) := by
    refine UInt8.toNat_inj.mp ?_
    simp [Nat.shiftRight_eq_div_pow, Nat.mod_eq_of_lt hk]
  simp only [encodeSequence, Bytes.toBytes, List.range, List.range.loop, List.map]
  simp only [List.cons.injEq, and_true]
  exact ⟨hshift 56 (by decide), hshift 48 (by decide), hshift 40 (by decide),
    hshift 32 (by decide), hshift 24 (by decide), hshift 16 (by decide), hshift 8 (by decide),
    hshift 0 (by decide)⟩

@[simp] theorem length_encodeSequence (sequence : Int64) :
    (encodeSequence sequence).length = 8 := by
  simp [encodeSequence]

/-- A sequence number survives the wire. -/
@[simp] theorem decodeSequence_encodeSequence (sequence : Int64) :
    decodeSequence (encodeSequence sequence) = sequence := by
  have hlt : sequence.toUInt64.toNat < 256 ^ 8 := sequence.toUInt64.toNat_lt
  have hbytes : Bytes.ofBytes (encodeSequence sequence) = sequence.toUInt64.toNat := by
    rw [encodeSequence_eq, Bytes.ofBytes_toBytes_of_lt hlt]
  have hword : ((encodeSequence sequence).foldl Bytes.pushByte 0).toNat =
      sequence.toUInt64.toNat := by
    rw [Bytes.toNat_foldl_pushByte]
    · simp [hbytes]
    · simpa [hbytes] using sequence.toUInt64.toNat_lt
  rw [decodeSequence, UInt64.toNat_inj.mp hword]
  exact Int64.toInt64_toUInt64 sequence

/-- Every eight bytes are those of a sequence number. -/
theorem encodeSequence_decodeSequence {bytes : List UInt8} (h : bytes.length = 8) :
    encodeSequence (decodeSequence bytes) = bytes := by
  have hlt : Bytes.ofBytes bytes < 2 ^ 64 := by
    calc Bytes.ofBytes bytes < 256 ^ bytes.length := Bytes.ofBytes_lt bytes
      _ = 2 ^ 64 := by rw [h]; norm_num
  have hword : (bytes.foldl Bytes.pushByte 0).toNat = Bytes.ofBytes bytes := by
    rw [Bytes.toNat_foldl_pushByte]
    · simp
    · simpa using hlt
  rw [encodeSequence_eq, decodeSequence, UInt64.toUInt64_toInt64, hword, ← h,
    Bytes.toBytes_ofBytes]

/-! ## Frames -/

/-- The wire message for a request id and a serialized message. -/
def frame (id : RequestId) (payload : List UInt8) : List UInt8 :=
  id.writerGuid.bytes ++ (encodeSequence id.sequenceNumber ++ payload)

/-- The request id at the head of a wire message. -/
def requestIdOf (wire : List UInt8) (h : requestHeaderSize < wire.length) : RequestId where
  writerGuid :=
    { bytes := wire.take ddsGuidSize
      length_eq := by
        rw [List.length_take]
        exact Nat.min_eq_left (le_trans (Nat.le_add_right _ _) h.le) }
  sequenceNumber := decodeSequence ((wire.drop ddsGuidSize).take 8)

/-- The serialized message after the request id. -/
def payloadOf (wire : List UInt8) : List UInt8 := wire.drop requestHeaderSize

theorem length_frame (id : RequestId) (payload : List UInt8) :
    (frame id payload).length = requestHeaderSize + payload.length := by
  simp [frame, id.writerGuid.length_eq, Nat.add_assoc]

@[simp] theorem payloadOf_frame (id : RequestId) (payload : List UInt8) :
    payloadOf (frame id payload) = payload := by
  rw [payloadOf, frame, ← List.append_assoc]
  exact List.drop_left' (by simp [id.writerGuid.length_eq])

/-- The request id survives the wire. -/
@[simp] theorem requestIdOf_frame (id : RequestId) (payload : List UInt8)
    (h : requestHeaderSize < (frame id payload).length) :
    requestIdOf (frame id payload) h = id := by
  have hguid : (frame id payload).take ddsGuidSize = id.writerGuid.bytes :=
    List.take_left' id.writerGuid.length_eq
  have hsequence : ((frame id payload).drop ddsGuidSize).take 8 =
      encodeSequence id.sequenceNumber := by
    rw [frame, List.drop_left' id.writerGuid.length_eq]
    exact List.take_left' (length_encodeSequence _)
  obtain ⟨guid, sequence⟩ := id
  simp only [requestIdOf, hguid, hsequence, decodeSequence_encodeSequence]

/-- A wire message with a payload is the frame of what is read from it. -/
theorem frame_requestIdOf {wire : List UInt8} (h : requestHeaderSize < wire.length) :
    frame (requestIdOf wire h) (payloadOf wire) = wire := by
  have hsequence : ((wire.drop ddsGuidSize).take 8).length = 8 := by
    have hrest : 8 < wire.length - ddsGuidSize := Nat.lt_sub_iff_add_lt'.mpr h
    rw [List.length_take, List.length_drop]
    exact Nat.min_eq_left hrest.le
  have hpayload : payloadOf wire = (wire.drop ddsGuidSize).drop 8 := by
    rw [List.drop_drop]
    rfl
  calc frame (requestIdOf wire h) (payloadOf wire)
      = wire.take ddsGuidSize ++
          ((wire.drop ddsGuidSize).take 8 ++ (wire.drop ddsGuidSize).drop 8) := by
        rw [← hpayload]
        simp only [frame, requestIdOf, encodeSequence_decodeSequence hsequence]
    _ = wire := by rw [List.take_append_drop, List.take_append_drop]

end RmwZzdds.Service
