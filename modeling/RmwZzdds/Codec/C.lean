import Mathlib.Data.UInt
import RmwZzdds.Codec.Cpp

/-!
# The generated C code

What the code generated by `c_serialize_members` and `c_deserialize_members`
does, on the C structures of messages.  Strings and sequences there are memory
with a size that may be below what the memory holds, and the loops run over
indices.

Deserialization replaces strings and sequences: the assign functions allocate a
new string, and a sequence is finalized and initialized again before its
elements are read.  Allocations succeed here.  What `rosidl_runtime_c` does is a
parameter.
-/

namespace RmwZzdds.Codec

open Xcdr1 ByteStream

/-! ## C structures -/

/-- A string or a sequence in C. -/
structure CSequence (α : Type) where
  data : List α
  size : Nat
  fits : size ≤ data.length

namespace CSequence

variable {α β : Type}

/-- The elements up to the size. -/
def elements (s : CSequence α) : List α := s.data.take s.size

@[simp] theorem length_elements (s : CSequence α) : s.elements.length = s.size := by
  rw [elements, List.length_take]
  exact Nat.min_eq_left s.fits

/-- A sequence of just these elements. -/
def ofList (xs : List α) : CSequence α := ⟨xs, xs.length, Nat.le_refl _⟩

@[simp] theorem elements_ofList (xs : List α) : (ofList xs).elements = xs := List.take_length ..

end CSequence

abbrev Shape.CValue (α : Type) : Shape → Type
  | .one => α
  | .array size _ => { xs : List α // xs.length = size }
  | .sequence _ => CSequence α

mutual

def ElementType.CValue : ElementType → Type
  | .basic type => type.Value
  | .string _ => CSequence UInt8
  | .wstring _ => CSequence UInt16
  | .namespaced members => members.CValue

def Members.CValue : Members → Type
  | .last _ _ shape type => shape.CValue type.CValue
  | .cons _ _ shape type rest => shape.CValue type.CValue × rest.CValue

end

namespace C

/-! ## The runtime -/

/-- What the generated code uses of `rosidl_runtime_c`.  The assign functions leave
the characters that they are given. -/
structure Runtime where
  /-- The value of an initialized element. -/
  fresh : (type : ElementType) → type.CValue
  /-- `rosidl_runtime_c__String__assignn`. -/
  stringAssignn : List UInt8 → CSequence UInt8
  /-- `rosidl_runtime_c__U16String__assignn`. -/
  u16StringAssignn : List UInt16 → CSequence UInt16
  elements_stringAssignn : ∀ s, (stringAssignn s).elements = s
  elements_u16StringAssignn : ∀ s, (u16StringAssignn s).elements = s

/-- The characters and a terminator. -/
def terminated {α : Type} [Zero α] (s : List α) : CSequence α := ⟨s ++ [0], s.length, by simp⟩

/-- Strings are assigned with their terminator. -/
def Runtime.ofFresh (fresh : (type : ElementType) → type.CValue) : Runtime where
  fresh := fresh
  stringAssignn := terminated
  u16StringAssignn := terminated
  elements_stringAssignn _ := List.take_left ..
  elements_u16StringAssignn _ := List.take_left ..

variable (z : ZidlCdr)

/-! ## Writing -/

def writeString (maximumSize : Option Nat) (s : CSequence UInt8) (w : z.Writer) :
    Option z.Writer :=
  if s.size > uint32Max then none
  else if exceeds maximumSize s.size then none
  else z.write .string (s.data.take (UInt32.ofNat s.size).toNat) w

def writeWString (maximumSize : Option Nat) (s : CSequence UInt16) (w : z.Writer) :
    Option z.Writer :=
  if s.size > uint32Max then none
  else if exceeds maximumSize s.size then none
  else z.write .wstring (s.data.take (UInt32.ofNat s.size).toNat) w

/-- The code for the element at an index. -/
def writeIndex {α : Type} (write : α → z.Writer → Option z.Writer) (data : List α)
    (w : z.Writer) (i : Nat) : Option z.Writer :=
  match data[i]? with
  | some element => write element w
  | none => none

/-- The loops around the code for one element. -/
def writeShape {α : Type} (write : α → z.Writer → Option z.Writer) :
    (shape : Shape) → shape.CValue α → z.Writer → Option z.Writer
  | .one, v, w => write v w
  | .array _ _, v, w => v.1.foldlM (fun w element => write element w) w
  | .sequence maximumSize, v, w =>
      if v.size > uint32Max then none
      else if exceeds maximumSize v.size then none
      else
        (z.write (.prim .u32) (UInt32.ofNat v.size) w).bind fun w =>
          (List.range v.size).foldlM (writeIndex z write v.data) w

mutual

/-- `_c_write_value` on the types inside arrays and sequences. -/
def writeValue : (type : ElementType) → type.CValue → z.Writer → Option z.Writer
  | .basic type, v, w => z.write (.prim type.primitive) v w
  | .string maximumSize, s, w => writeString z maximumSize s w
  | .wstring maximumSize, s, w => writeWString z maximumSize s w
  | .namespaced members, v, w => serializeMembers members false v w

/-- `c_serialize_members`. -/
def serializeMembers : (members : Members) → (keysOnly : Bool) → members.CValue → z.Writer →
    Option z.Writer
  | .last _ hasKey shape type, keysOnly, v, w =>
      if keysOnly && !hasKey then some w else writeShape z (writeValue type) shape v w
  | .cons _ hasKey shape type rest, keysOnly, (v, vs), w =>
      (if keysOnly && !hasKey then some w else writeShape z (writeValue type) shape v w).bind
        (serializeMembers rest keysOnly vs)

end

/-! ## Reading -/

variable (runtime : Runtime)

def readString (maximumSize : Option Nat) (r : z.Reader) :
    Option (CSequence UInt8 × z.Reader) :=
  (z.read .string r).bind fun (s, r) =>
    if exceeds maximumSize s.length then none else some (runtime.stringAssignn s, r)

def readWString (maximumSize : Option Nat) (r : z.Reader) :
    Option (CSequence UInt16 × z.Reader) :=
  (z.read .wstring r).bind fun (s, r) =>
    if exceeds maximumSize s.length then none else some (runtime.u16StringAssignn s, r)

/-- The loops around the code for one element. -/
def readShape {α : Type} (read : α → z.Reader → Option (α × z.Reader)) (fresh : α) :
    (shape : Shape) → shape.CValue α → z.Reader → Option (shape.CValue α × z.Reader)
  | .one, old, r => read old r
  | .array _ _, old, r =>
      (readEach read old.1 r).map fun (xs, r) => (⟨xs.1, xs.2.trans old.2⟩, r)
  | .sequence maximumSize, _, r =>
      (z.read (.prim .u32) r).bind fun (size, r) =>
        if size.toNat > z.remaining r then none
        else if exceeds maximumSize size.toNat then none
        else
          (readEach read (List.replicate size.toNat fresh) r).map fun (xs, r) =>
            (.ofList xs.1, r)

mutual

/-- `_c_read_value` on the types inside arrays and sequences. -/
def readValue : (type : ElementType) → type.CValue → z.Reader → Option (type.CValue × z.Reader)
  | .basic type, _, r => z.read (.prim type.primitive) r
  | .string maximumSize, _, r => readString z runtime maximumSize r
  | .wstring maximumSize, _, r => readWString z runtime maximumSize r
  | .namespaced members, old, r => deserializeMembers members old r

/-- `c_deserialize_members`. -/
def deserializeMembers : (members : Members) → members.CValue → z.Reader →
    Option (members.CValue × z.Reader)
  | .last _ _ shape type, old, r => readShape z (readValue type) (runtime.fresh type) shape old r
  | .cons _ _ shape type rest, (old, olds), r =>
      (readShape z (readValue type) (runtime.fresh type) shape old r).bind fun (v, r) =>
        (deserializeMembers rest olds r).map fun (vs, r) => ((v, vs), r)

end

/-! ## The type support -/

/-- `serialize_` of a message. -/
def serialize (members : Members) (message : members.CValue) (w : z.Writer) : Option z.Writer :=
  if !z.writerXcdr1 w then none
  else (z.writeEncap w).bind (serializeMembers z members false message)

/-- `deserialize_` of a message. -/
def deserialize (members : Members) (message : members.CValue) (r : z.Reader) :
    Option (members.CValue × z.Reader) :=
  if !z.readerXcdr1 r then none else deserializeMembers z runtime members message r

/-- `compute_key_hash_` of a message. -/
def computeKeyHash (members : Members) (message : members.CValue) : Option (List UInt8) :=
  z.writerInit.bind fun w =>
    (serializeMembers z members true message (z.writerSetBigEndian w)).map fun w =>
      z.computeKeyHash (z.buf w)

end C

end RmwZzdds.Codec
