import RmwZzdds.Library.Xcdr1

/-!
# Message types and their values

The members of a message have a basic type, a string type or a message type of
their own, alone, in an array, or in a sequence.  A message type has at least
one member and an array at least one element.

A value of a message is the tuple of its members' values.  `Within` says that
every size in it is within its bounds, and `data` is what it consists of on the
wire, in the order of the members.
-/

namespace RmwZzdds.Codec

open Xcdr1

/-- The basic types of IDL, but for `long double`. -/
inductive BasicType where
  | boolean | octet | char | wchar | float | double
  | int8 | uint8 | int16 | uint16 | int32 | uint32 | int64 | uint64
deriving DecidableEq

/-- `_PRIMITIVES`: the zidl_cdr type that a basic type is written as. -/
def BasicType.primitive : BasicType → Prim
  | boolean => .bool
  | octet => .u8
  | char => .u8
  | wchar => .u16
  | float => .f32
  | double => .f64
  | int8 => .i8
  | uint8 => .u8
  | int16 => .i16
  | uint16 => .u16
  | int32 => .i32
  | uint32 => .u32
  | int64 => .i64
  | uint64 => .u64

/-- How a member holds its values. -/
inductive Shape where
  | one
  | array (size : Nat) (pos : 0 < size)
  | sequence (maximumSize : Option Nat)

mutual

/-- The types that a member, an array or a sequence can hold. -/
inductive ElementType where
  | basic (type : BasicType)
  | string (maximumSize : Option Nat)
  | wstring (maximumSize : Option Nat)
  | namespaced (members : Members)

/-- The members of a message, with their `key` annotations. -/
inductive Members where
  | last (name : String) (hasKey : Bool) (shape : Shape) (type : ElementType)
  | cons (name : String) (hasKey : Bool) (shape : Shape) (type : ElementType) (rest : Members)

end

/-! ## Values -/

abbrev BasicType.Value (type : BasicType) : Type := type.primitive.Value

abbrev Shape.Value (α : Type) : Shape → Type
  | .one => α
  | .array size _ => { xs : List α // xs.length = size }
  | .sequence _ => List α

mutual

def ElementType.Value : ElementType → Type
  | .basic type => type.Value
  | .string _ => List UInt8
  | .wstring _ => List UInt16
  | .namespaced members => members.Value

def Members.Value : Members → Type
  | .last _ _ shape type => shape.Value type.Value
  | .cons _ _ shape type rest => shape.Value type.Value × rest.Value

end

/-! ## Bounds -/

/-- `UINT32_MAX`. -/
abbrev uint32Max : Nat := 2 ^ 32 - 1

/-- A size is above a declared bound. -/
def exceeds (maximumSize : Option Nat) (size : Nat) : Bool := maximumSize.any (· < size)

/-- A size is within its bounds. -/
def Fits (maximumSize : Option Nat) (size : Nat) : Prop :=
  size ≤ uint32Max ∧ exceeds maximumSize size = false

/-- The cast of a size within the limit. -/
theorem toNat_size {size : Nat} (h : size ≤ uint32Max) : (UInt32.ofNat size).toNat = size :=
  UInt32.toNat_ofNat_of_lt' (Nat.lt_of_le_of_lt h (by decide))

/-- What holds of the elements of a member, and of the size of a sequence. -/
def Shape.Within {α : Type} (p : α → Prop) : (shape : Shape) → shape.Value α → Prop
  | .one, v => p v
  | .array _ _, v => ∀ x ∈ v.1, p x
  | .sequence maximumSize, v => Fits maximumSize v.length ∧ ∀ x ∈ v, p x

mutual

/-- The sizes in a value are within their bounds. -/
def ElementType.Within : (type : ElementType) → type.Value → Prop
  | .basic _, _ => True
  | .string maximumSize, s => Fits maximumSize (List.length s)
  | .wstring maximumSize, s => Fits maximumSize (List.length s)
  | .namespaced members, v => members.Within v

def Members.Within : (members : Members) → members.Value → Prop
  | .last _ _ shape type, v => shape.Within type.Within v
  | .cons _ _ shape type rest, (v, vs) => shape.Within type.Within v ∧ rest.Within vs

end

/-! ## Data -/

/-- A datum and its kind. -/
abbrev Datum : Type := (k : Kind) × k.Value

/-- The size of a sequence, as it is written. -/
def sizeDatum (size : Nat) : Datum := ⟨.prim .u32, UInt32.ofNat size⟩

def Shape.data {α : Type} (data : α → List Datum) : (shape : Shape) → shape.Value α → List Datum
  | .one, v => data v
  | .array _ _, v => v.1.flatMap data
  | .sequence _, v => sizeDatum v.length :: v.flatMap data

mutual

/-- What a value consists of. -/
def ElementType.data : (type : ElementType) → type.Value → List Datum
  | .basic type, v => [⟨.prim type.primitive, v⟩]
  | .string _, s => [⟨.string, s⟩]
  | .wstring _, s => [⟨.wstring, s⟩]
  | .namespaced members, v => members.data v

def Members.data : (members : Members) → members.Value → List Datum
  | .last _ _ shape type, v => shape.data type.data v
  | .cons _ _ shape type rest, (v, vs) => shape.data type.data v ++ rest.data vs

end

theorem Shape.data_ne_nil {α : Type} {data : α → List Datum} (hdata : ∀ x, data x ≠ []) :
    (shape : Shape) → (v : shape.Value α) → shape.data data v ≠ []
  | .one, v => hdata v
  | .array size pos, ⟨xs, hlen⟩ => by
      cases xs with
      | nil =>
          subst hlen
          exact absurd pos (Nat.lt_irrefl 0)
      | cons x xs => exact List.append_ne_nil_of_left_ne_nil (hdata x) _
  | .sequence _, v => List.cons_ne_nil _ _

mutual

/-- Every value has something on the wire. -/
theorem ElementType.data_ne_nil : (type : ElementType) → (v : type.Value) → type.data v ≠ []
  | .basic _, _ => List.cons_ne_nil _ _
  | .string _, _ => List.cons_ne_nil _ _
  | .wstring _, _ => List.cons_ne_nil _ _
  | .namespaced members, v => members.data_ne_nil v

theorem Members.data_ne_nil : (members : Members) → (v : members.Value) → members.data v ≠ []
  | .last _ _ shape type, v => shape.data_ne_nil type.data_ne_nil v
  | .cons _ _ shape type _, (v, _) =>
      List.append_ne_nil_of_left_ne_nil (shape.data_ne_nil type.data_ne_nil v) _

end

/-- Elements have at least as many data as there are of them. -/
theorem length_le_flatMap_data {α : Type} {data : α → List Datum} (hdata : ∀ x, data x ≠ [])
    (xs : List α) : xs.length ≤ (xs.flatMap data).length := by
  induction xs with
  | nil => exact Nat.le_refl _
  | cons x xs ih =>
      have hpos : 0 < (data x).length := List.length_pos_iff.mpr (hdata x)
      rw [List.flatMap_cons, List.length_append, List.length_cons]
      omega

end RmwZzdds.Codec
