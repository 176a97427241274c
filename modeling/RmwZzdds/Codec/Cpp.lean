import RmwZzdds.Codec.Idl
import RmwZzdds.Codec.Zidl

/-!
# The generated C++ code

What the code generated by `serialize_members` and `deserialize_members` does,
and the functions of the type support around it.  `none` is a return of
`false`.

Deserialization works in place: every read gets the value that its target
holds, and a sequence is resized before its elements are read.  `fresh` is the
value that a resize puts into a new element.
-/

namespace RmwZzdds.Codec.Cpp

open Xcdr1 ByteStream

variable (z : ZidlCdr)

/-! ## Writing -/

def writeString (maximumSize : Option Nat) (s : List UInt8) (w : z.Writer) : Option z.Writer :=
  if s.length > uint32Max then none
  else if exceeds maximumSize s.length then none
  else z.write .string (s.take (UInt32.ofNat s.length).toNat) w

def writeWString (maximumSize : Option Nat) (s : List UInt16) (w : z.Writer) :
    Option z.Writer :=
  if s.length > uint32Max then none
  else if exceeds maximumSize s.length then none
  else z.write .wstring (s.take (UInt32.ofNat s.length).toNat) w

/-- The loops around the code for one element. -/
def writeShape {α : Type} (write : α → z.Writer → Option z.Writer) :
    (shape : Shape) → shape.Value α → z.Writer → Option z.Writer
  | .one, v, w => write v w
  | .array _ _, v, w => v.1.foldlM (fun w element => write element w) w
  | .sequence maximumSize, v, w =>
      if v.length > uint32Max then none
      else if exceeds maximumSize v.length then none
      else
        (z.write (.prim .u32) (UInt32.ofNat v.length) w).bind fun w =>
          v.foldlM (fun w element => write element w) w

mutual

/-- `_write_value` on the types inside arrays and sequences. -/
def writeValue : (type : ElementType) → type.Value → z.Writer → Option z.Writer
  | .basic type, v, w => z.write (.prim type.primitive) v w
  | .string maximumSize, s, w => writeString z maximumSize s w
  | .wstring maximumSize, s, w => writeWString z maximumSize s w
  | .namespaced members, v, w => serializeMembers members false v w

def serializeMembers : (members : Members) → (keysOnly : Bool) → members.Value → z.Writer →
    Option z.Writer
  | .last _ hasKey shape type, keysOnly, v, w =>
      if keysOnly && !hasKey then some w else writeShape z (writeValue type) shape v w
  | .cons _ hasKey shape type rest, keysOnly, (v, vs), w =>
      (if keysOnly && !hasKey then some w else writeShape z (writeValue type) shape v w).bind
        (serializeMembers rest keysOnly vs)

end

/-! ## Reading -/

def readString (maximumSize : Option Nat) (r : z.Reader) : Option (List UInt8 × z.Reader) :=
  (z.read .string r).bind fun (s, r) => if exceeds maximumSize s.length then none else some (s, r)

def readWString (maximumSize : Option Nat) (r : z.Reader) : Option (List UInt16 × z.Reader) :=
  (z.read .wstring r).bind fun (s, r) =>
    if exceeds maximumSize s.length then none else some (s, r)

/-- `std::vector::resize`. -/
def resize {α : Type} (fresh : α) (size : Nat) (old : List α) : List α :=
  old.take size ++ List.replicate (size - old.length) fresh

@[simp] theorem length_resize {α : Type} (fresh : α) (size : Nat) (old : List α) :
    (resize fresh size old).length = size := by
  simp only [resize, List.length_append, List.length_take, List.length_replicate]
  omega

/-- The loops around the code for one element. -/
def readShape {α : Type} (read : α → z.Reader → Option (α × z.Reader)) (fresh : α) :
    (shape : Shape) → shape.Value α → z.Reader → Option (shape.Value α × z.Reader)
  | .one, old, r => read old r
  | .array _ _, old, r =>
      (readEach read old.1 r).map fun (xs, r) => (⟨xs.1, xs.2.trans old.2⟩, r)
  | .sequence maximumSize, old, r =>
      (z.read (.prim .u32) r).bind fun (size, r) =>
        if size.toNat > z.remaining r then none
        else if exceeds maximumSize size.toNat then none
        else
          (readEach read (resize fresh size.toNat old) r).map fun (xs, r) => (xs.1, r)

variable (fresh : (type : ElementType) → type.Value)

mutual

/-- `_read_value` on the types inside arrays and sequences. -/
def readValue : (type : ElementType) → type.Value → z.Reader → Option (type.Value × z.Reader)
  | .basic type, _, r => z.read (.prim type.primitive) r
  | .string maximumSize, _, r => readString z maximumSize r
  | .wstring maximumSize, _, r => readWString z maximumSize r
  | .namespaced members, old, r => deserializeMembers members old r

def deserializeMembers : (members : Members) → members.Value → z.Reader →
    Option (members.Value × z.Reader)
  | .last _ _ shape type, old, r => readShape z (readValue type) (fresh type) shape old r
  | .cons _ _ shape type rest, (old, olds), r =>
      (readShape z (readValue type) (fresh type) shape old r).bind fun (v, r) =>
        (deserializeMembers rest olds r).map fun (vs, r) => ((v, vs), r)

end

/-! ## The type support -/

/-- `serialize_` of a message. -/
def serialize (members : Members) (message : members.Value) (w : z.Writer) : Option z.Writer :=
  if !z.writerXcdr1 w then none
  else (z.writeEncap w).bind (serializeMembers z members false message)

/-- `deserialize_` of a message. -/
def deserialize (members : Members) (message : members.Value) (r : z.Reader) :
    Option (members.Value × z.Reader) :=
  if !z.readerXcdr1 r then none else deserializeMembers z fresh members message r

/-- `compute_key_hash_` of a message. -/
def computeKeyHash (members : Members) (message : members.Value) : Option (List UInt8) :=
  z.writerInit.bind fun w =>
    (serializeMembers z members true message (z.writerSetBigEndian w)).map fun w =>
      z.computeKeyHash (z.buf w)

end RmwZzdds.Codec.Cpp
