import RmwZzdds.Codec.RoundTrip

/-!
# A plain XCDR1 implementation

Writers and readers over byte lists that encode and decode XCDR1 primitives.
They keep the laws the generated code relies on.
-/

namespace RmwZzdds.Codec

open Xcdr1

structure Xcdr1Writer where
  buf : List UInt8
  order : ByteOrder
  offset : Nat

structure Xcdr1Reader where
  unread : List UInt8
  order : ByteOrder
  offset : Nat
  xcdr1 : Bool

/-- The encapsulation header: the representation and the options. -/
def encapHeader : ByteOrder → List UInt8
  | .big => [0, 0, 0, 0]
  | .little => [0, 1, 0, 0]

/-- A key is its own hash if it fits, with zeros behind it. -/
def padKey (key : List UInt8) : List UInt8 := (key ++ List.replicate 16 0).take 16

/-- Strings whose length does not fit its prefix are refused, and only the two
plain CDR representations are known. -/
def xcdr1 : ZidlCdr where
  Writer := Xcdr1Writer
  Reader := Xcdr1Reader
  write k v w :=
    if k.Fits v then
      some { w with
        buf := w.buf ++ encode w.order w.offset k v
        offset := w.offset + (encode w.order w.offset k v).length }
    else none
  read k r :=
    (decode r.order r.offset k r.unread).map fun (v, rest) =>
      (v, { r with unread := rest, offset := r.offset + (r.unread.length - rest.length) })
  buf := Xcdr1Writer.buf
  writerMode := Xcdr1Writer.order
  writerOffset := Xcdr1Writer.offset
  unread := Xcdr1Reader.unread
  readerMode := Xcdr1Reader.order
  readerOffset := Xcdr1Reader.offset
  encode := encode
  writerInit := some ⟨[], .little, 0⟩
  writerXcdr1 _ := true
  writerSetBigEndian w := { w with order := .big }
  writeEncap w := some { w with buf := w.buf ++ encapHeader w.order, offset := 0 }
  computeKeyHash := padKey
  readerInit bytes :=
    match bytes with
    | 0 :: 0 :: _ :: _ :: rest => some ⟨rest, .big, 0, true⟩
    | 0 :: 1 :: _ :: _ :: rest => some ⟨rest, .little, 0, true⟩
    | _ :: _ :: _ :: _ :: rest => some ⟨rest, .little, 0, false⟩
    | _ => none
  readerXcdr1 := Xcdr1Reader.xcdr1
  remaining r := r.unread.length

theorem xcdr1_write_eq_some {k : Kind} {v : k.Value} {w w' : Xcdr1Writer}
    (h : xcdr1.write k v w = some w') :
    k.Fits v ∧ w' = { w with
      buf := w.buf ++ encode w.order w.offset k v
      offset := w.offset + (encode w.order w.offset k v).length } := by
  simp only [xcdr1, Option.ite_none_right_eq_some, Option.some.injEq] at h
  exact ⟨h.1, h.2.symm⟩

theorem xcdr1_lawful : xcdr1.Lawful where
  chunk_ne_nil w k v := encode_ne_nil w.order w.offset k v
  write_buf h := by
    obtain ⟨-, rfl⟩ := xcdr1_write_eq_some h
    rfl
  write_mode h := by
    obtain ⟨-, rfl⟩ := xcdr1_write_eq_some h
    rfl
  write_offset h := by
    obtain ⟨-, rfl⟩ := xcdr1_write_eq_some h
    rfl
  read_written := by
    intro k v w w' r rest hwrite hr
    obtain ⟨hfits, rfl⟩ := xcdr1_write_eq_some hwrite
    obtain ⟨unread, order, offset, xcdr1⟩ := r
    obtain ⟨hmode, hoffset, hunread⟩ := hr
    obtain rfl : order = w.order := hmode
    obtain rfl : offset = w.offset := hoffset
    obtain rfl : unread = encode w.order w.offset k v ++ rest := hunread
    refine ⟨⟨rest, w.order, w.offset + (encode w.order w.offset k v).length, xcdr1⟩, ?_, rfl, rfl,
      rfl⟩
    simp [Codec.xcdr1, decode_encode w.order w.offset k v hfits]
  remaining_eq _ := rfl
  encap_read := by
    intro w w' _ hbuf hencap rest
    obtain ⟨buf, order, offset⟩ := w
    obtain rfl : buf = [] := hbuf
    cases hencap
    cases order with
    | big => exact ⟨⟨rest, .big, 0, true⟩, rfl, rfl, rfl, rfl, rfl⟩
    | little => exact ⟨⟨rest, .little, 0, true⟩, rfl, rfl, rfl, rfl, rfl⟩

/-! ## A record of the test suite -/

/-- `PrimitiveRecord.msg`. -/
def primitiveRecord : Members :=
  .cons "flag" false .one (.basic .boolean) <|
  .cons "byte_value" false .one (.basic .uint8) <|
  .cons "count" false .one (.basic .int16) <|
  .cons "id" false .one (.basic .uint32) <|
  .cons "big_value" false .one (.basic .int64) <|
  .cons "ratio" false .one (.basic .float) <|
  .cons "measurement" false .one (.basic .double) <|
  .cons "label" false .one (.string (some 16)) <|
  .cons "samples" false (.array 3 (by decide)) (.basic .uint16) <|
  .last "values" false (.sequence (some 4)) (.basic .int32)

/-- `NestedRecord.msg`. -/
def nestedRecord : Members :=
  .cons "record" false .one (.namespaced primitiveRecord) <|
  .cons "sequence" false .one (.basic .uint32) <|
  .last "flags" false (.sequence none) (.basic .boolean)

def primitiveMessage : primitiveRecord.Value :=
  ((true, 0xab, -2, 0x11223344, 0x0102030405060708, 0x3f800000, 0xc000000000000000, [0x48, 0x69],
    ⟨[0x0102, 0x0304, 0x0506], rfl⟩, [7, -8]) :
    Bool × UInt8 × Int16 × UInt32 × Int64 × UInt32 × UInt64 × List UInt8 ×
      { xs : List UInt16 // xs.length = 3 } × List Int32)

def nestedMessage : nestedRecord.Value :=
  ((primitiveMessage, 42, [true, false, true]) : primitiveRecord.Value × UInt32 × List Bool)

/-- The bytes of the primitive record. -/
def goldenVector : List UInt8 :=
  [0x00, 0x01, 0x00, 0x00,
    0x01, 0xab, 0xfe, 0xff,
    0x44, 0x33, 0x22, 0x11,
    0x08, 0x07, 0x06, 0x05, 0x04, 0x03, 0x02, 0x01,
    0x00, 0x00, 0x80, 0x3f,
    0x00, 0x00, 0x00, 0x00,
    0x00, 0x00, 0x00, 0x00, 0x00, 0x00, 0x00, 0xc0,
    0x03, 0x00, 0x00, 0x00, 0x48, 0x69, 0x00, 0x00,
    0x02, 0x01, 0x04, 0x03, 0x06, 0x05, 0x00, 0x00,
    0x02, 0x00, 0x00, 0x00,
    0x07, 0x00, 0x00, 0x00, 0xf8, 0xff, 0xff, 0xff]

def emptyWriter : xcdr1.Writer := (⟨[], .little, 0⟩ : Xcdr1Writer)

example : (Cpp.serialize xcdr1 primitiveRecord primitiveMessage emptyWriter).map xcdr1.buf =
    some goldenVector := by
  decide +kernel

/-! ## Zero-initialized values -/

def Shape.zero {α : Type} (x : α) : (shape : Shape) → shape.Value α
  | .one => x
  | .array size _ => ⟨List.replicate size x, List.length_replicate⟩
  | .sequence _ => []

mutual

def ElementType.zero : (type : ElementType) → type.Value
  | .basic type => type.primitive.ofBits 0
  | .string _ => ([] : List UInt8)
  | .wstring _ => ([] : List UInt16)
  | .namespaced members => members.zero

def Members.zero : (members : Members) → members.Value
  | .last _ _ shape type => shape.zero type.zero
  | .cons _ _ shape type rest => (shape.zero type.zero, rest.zero)

end

/-- The nested record is written and read back over any other record. -/
theorem Cpp.round_trip_nestedRecord :
    ∃ w', Cpp.serialize xcdr1 nestedRecord nestedMessage emptyWriter = some w' ∧
      (xcdr1.buf w').length = 75 ∧
      ∃ r, xcdr1.readerInit (xcdr1.buf w') = some r ∧ ∀ old, ∃ r',
        Cpp.deserialize xcdr1 ElementType.zero nestedRecord old r = some (nestedMessage, r') ∧
          xcdr1.remaining r' = 0 := by
  have hlength : (Cpp.serialize xcdr1 nestedRecord nestedMessage emptyWriter).map
      (fun w => (xcdr1.buf w).length) = some 75 := by
    decide +kernel
  obtain ⟨w', hwrite, hlength⟩ := Option.map_eq_some_iff.mp hlength
  obtain ⟨-, hread⟩ := Cpp.round_trip xcdr1_lawful ElementType.zero nestedRecord nestedMessage
    emptyWriter rfl rfl
  exact ⟨w', hwrite, hlength, hread w' hwrite⟩

end RmwZzdds.Codec
