import Mathlib.Data.List.Basic
import RmwZzdds.Library.Bytes

/-!
# XCDR1 primitives

The plain CDR encoding of primitive values, strings and wide strings.  Numbers
are aligned to their size, counted from the start of the stream, and come in
the byte order of the stream.  A string is its length with the terminator, its
octets, and the terminator.  A wide string is the number of its octets and its
16-bit units.

`decode` inverts `encode` at the same offset, whatever follows
(`decode_encode`), for values whose length fits its prefix.
-/

namespace Xcdr1

inductive ByteOrder where
  | little
  | big
deriving DecidableEq

/-! ## Words -/

/-- The last `n` digits of a number in a byte order. -/
def putWord (order : ByteOrder) (n x : Nat) : List UInt8 :=
  match order with
  | .big => Bytes.toBytes n x
  | .little => (Bytes.toBytes n x).reverse

def getWord (order : ByteOrder) (bytes : List UInt8) : Nat :=
  match order with
  | .big => Bytes.ofBytes bytes
  | .little => Bytes.ofBytes bytes.reverse

@[simp] theorem length_putWord (order : ByteOrder) (n x : Nat) :
    (putWord order n x).length = n := by
  cases order <;> simp [putWord]

theorem getWord_putWord (order : ByteOrder) {n x : Nat} (h : x < 256 ^ n) :
    getWord order (putWord order n x) = x := by
  cases order <;> simp [getWord, putWord, Bytes.ofBytes_toBytes_of_lt h]

/-- The number of padding bytes before a value of size `n`. -/
def padding (offset n : Nat) : Nat := (n - offset % n) % n

/-- A word aligned to its size. -/
def encodeWord (order : ByteOrder) (offset n x : Nat) : List UInt8 :=
  List.replicate (padding offset n) 0 ++ putWord order n x

/-- The first bytes of a list, and what comes after them. -/
def splitBytes (n : Nat) (bytes : List UInt8) : Option (List UInt8 × List UInt8) :=
  if n ≤ bytes.length then some (bytes.take n, bytes.drop n) else none

@[simp] theorem splitBytes_append (bytes rest : List UInt8) :
    splitBytes bytes.length (bytes ++ rest) = some (bytes, rest) := by
  simp [splitBytes]

/-- The aligned word, and what comes after it. -/
def decodeWord (order : ByteOrder) (offset n : Nat) (bytes : List UInt8) :
    Option (Nat × List UInt8) :=
  (splitBytes (padding offset n) bytes).bind fun (_, bytes) =>
    (splitBytes n bytes).map fun (word, rest) => (getWord order word, rest)

theorem decodeWord_encodeWord (order : ByteOrder) (offset : Nat) {n x : Nat} (h : x < 256 ^ n)
    (rest : List UInt8) :
    decodeWord order offset n (encodeWord order offset n x ++ rest) = some (x, rest) := by
  have hpad := splitBytes_append (List.replicate (padding offset n) 0) (putWord order n x ++ rest)
  have hword := splitBytes_append (putWord order n x) rest
  rw [List.length_replicate] at hpad
  rw [length_putWord] at hword
  simp only [decodeWord, encodeWord, List.append_assoc, hpad, Option.bind_some, hword,
    Option.map_some, getWord_putWord order h]

/-! ## Primitive types -/

/-- The primitive types of a fixed size. -/
inductive Prim where
  | bool | u8 | u16 | u32 | u64 | i8 | i16 | i32 | i64 | f32 | f64
deriving DecidableEq

namespace Prim

/-- Floating-point values are kept as their bits. -/
abbrev Value : Prim → Type
  | bool => Bool
  | u8 => UInt8
  | u16 => UInt16
  | u32 => UInt32
  | u64 => UInt64
  | i8 => Int8
  | i16 => Int16
  | i32 => Int32
  | i64 => Int64
  | f32 => UInt32
  | f64 => UInt64

def size : Prim → Nat
  | bool | u8 | i8 => 1
  | u16 | i16 => 2
  | u32 | i32 | f32 => 4
  | u64 | i64 | f64 => 8

/-- The bits of a value, as a number. -/
def toBits : (p : Prim) → p.Value → Nat
  | bool, x => x.toNat
  | u8, x => x.toNat
  | u16, x => x.toNat
  | u32, x => x.toNat
  | u64, x => x.toNat
  | i8, x => x.toUInt8.toNat
  | i16, x => x.toUInt16.toNat
  | i32, x => x.toUInt32.toNat
  | i64, x => x.toUInt64.toNat
  | f32, x => x.toNat
  | f64, x => x.toNat

def ofBits : (p : Prim) → Nat → p.Value
  | bool, n => n != 0
  | u8, n => UInt8.ofNat n
  | u16, n => UInt16.ofNat n
  | u32, n => UInt32.ofNat n
  | u64, n => UInt64.ofNat n
  | i8, n => (UInt8.ofNat n).toInt8
  | i16, n => (UInt16.ofNat n).toInt16
  | i32, n => (UInt32.ofNat n).toInt32
  | i64, n => (UInt64.ofNat n).toInt64
  | f32, n => UInt32.ofNat n
  | f64, n => UInt64.ofNat n

theorem toBits_lt (p : Prim) (x : p.Value) : p.toBits x < 256 ^ p.size := by
  cases p with
  | bool => cases x <;> decide
  | u8 => exact UInt8.toNat_lt x
  | u16 => exact UInt16.toNat_lt x
  | u32 => exact UInt32.toNat_lt x
  | u64 => exact UInt64.toNat_lt x
  | i8 => exact UInt8.toNat_lt _
  | i16 => exact UInt16.toNat_lt _
  | i32 => exact UInt32.toNat_lt _
  | i64 => exact UInt64.toNat_lt _
  | f32 => exact UInt32.toNat_lt x
  | f64 => exact UInt64.toNat_lt x

@[simp] theorem ofBits_toBits (p : Prim) (x : p.Value) : p.ofBits (p.toBits x) = x := by
  cases p with
  | bool => cases x <;> rfl
  | u8 | u16 | u32 | u64 | i8 | i16 | i32 | i64 | f32 | f64 => simp [ofBits, toBits]

theorem size_pos (p : Prim) : 0 < p.size := by
  cases p <;> decide

end Prim

/-! ## Kinds of data -/

/-- What can be written in one call. -/
inductive Kind where
  | prim (p : Prim)
  | string
  | wstring
deriving DecidableEq

abbrev Kind.Value : Kind → Type
  | prim p => p.Value
  | string => List UInt8
  | wstring => List UInt16

/-- The length of a string fits its prefix. -/
def Kind.Fits : (k : Kind) → k.Value → Prop
  | prim _, _ => True
  | string, s => s.length + 1 < 2 ^ 32
  | wstring, s => 2 * s.length < 2 ^ 32

instance : (k : Kind) → (v : k.Value) → Decidable (k.Fits v)
  | .prim _, _ => inferInstanceAs (Decidable True)
  | .string, s => inferInstanceAs (Decidable (s.length + 1 < 2 ^ 32))
  | .wstring, s => inferInstanceAs (Decidable (2 * s.length < 2 ^ 32))

/-- The encoding of a datum at an offset. -/
def encode (order : ByteOrder) (offset : Nat) : (k : Kind) → k.Value → List UInt8
  | .prim p, x => encodeWord order offset p.size (p.toBits x)
  | .string, s => encodeWord order offset 4 (s.length + 1) ++ (s ++ [0])
  | .wstring, s =>
      encodeWord order offset 4 (2 * s.length) ++ s.flatMap fun x => putWord order 2 x.toNat

/-- Cut bytes into 16-bit units. -/
def getUnits (order : ByteOrder) : List UInt8 → List UInt16
  | a :: b :: rest => UInt16.ofNat (getWord order [a, b]) :: getUnits order rest
  | _ => []

theorem getUnits_putWord (order : ByteOrder) (s : List UInt16) :
    getUnits order (s.flatMap fun x => putWord order 2 x.toNat) = s := by
  induction s with
  | nil => rfl
  | cons x s ih =>
      have hword := getWord_putWord order (n := 2) (x := x.toNat) x.toNat_lt
      obtain ⟨a, b, hbytes⟩ := List.length_eq_two.mp (length_putWord order 2 x.toNat)
      rw [hbytes] at hword
      rw [List.flatMap_cons, hbytes, List.cons_append, List.cons_append, List.nil_append, getUnits,
        hword, ih, UInt16.ofNat_toNat]

theorem length_flatMap_putWord (order : ByteOrder) (s : List UInt16) :
    (s.flatMap fun x => putWord order 2 x.toNat).length = 2 * s.length := by
  induction s with
  | nil => rfl
  | cons x s ih =>
      rw [List.flatMap_cons, List.length_append, length_putWord, ih, List.length_cons]
      omega

/-- The datum at an offset and what comes after it. -/
def decode (order : ByteOrder) (offset : Nat) :
    (k : Kind) → List UInt8 → Option (k.Value × List UInt8)
  | .prim p, bytes =>
      (decodeWord order offset p.size bytes).map fun (x, rest) => (p.ofBits x, rest)
  | .string, bytes =>
      (decodeWord order offset 4 bytes).bind fun (length, bytes) =>
        (splitBytes length bytes).bind fun (s, rest) =>
          if s.getLast? = some 0 then some (s.dropLast, rest) else none
  | .wstring, bytes =>
      (decodeWord order offset 4 bytes).bind fun (length, bytes) =>
        if length % 2 = 0 then
          (splitBytes length bytes).map fun (s, rest) => (getUnits order s, rest)
        else none

/-- Decoding inverts encoding. -/
theorem decode_encode (order : ByteOrder) (offset : Nat) (k : Kind) (v : k.Value)
    (hfits : k.Fits v) (rest : List UInt8) :
    decode order offset k (encode order offset k v ++ rest) = some (v, rest) := by
  cases k with
  | prim p =>
      simp only [encode, decode, decodeWord_encodeWord order offset (p.toBits_lt v),
        Option.map_some, Prim.ofBits_toBits]
  | string =>
      have hlen : v.length + 1 < 256 ^ 4 := hfits
      have hsplit := splitBytes_append (v ++ [0]) rest
      rw [List.length_append, List.length_singleton] at hsplit
      simp only [encode, decode, List.append_assoc (encodeWord ..),
        decodeWord_encodeWord order offset hlen, Option.bind_some, hsplit]
      simp
  | wstring =>
      have hlen : 2 * v.length < 256 ^ 4 := hfits
      have hsplit := splitBytes_append (v.flatMap fun x => putWord order 2 x.toNat) rest
      rw [length_flatMap_putWord] at hsplit
      simp only [encode, decode, List.append_assoc (encodeWord ..),
        decodeWord_encodeWord order offset hlen, Option.bind_some, Nat.mul_mod_right, if_true,
        hsplit, Option.map_some, getUnits_putWord]

theorem encode_ne_nil (order : ByteOrder) (offset : Nat) (k : Kind) (v : k.Value) :
    encode order offset k v ≠ [] := by
  have hword (n x : Nat) (hn : 0 < n) : encodeWord order offset n x ≠ [] := by
    refine List.append_ne_nil_of_right_ne_nil _ (List.ne_nil_of_length_pos ?_)
    rwa [length_putWord]
  cases k with
  | prim p => exact hword _ _ p.size_pos
  | string => exact List.append_ne_nil_of_left_ne_nil (hword 4 _ (by omega)) _
  | wstring => exact List.append_ne_nil_of_left_ne_nil (hword 4 _ (by omega)) _

/-! ## What decoding takes -/

theorem splitBytes_eq_some {n : Nat} {bytes front rest : List UInt8}
    (h : splitBytes n bytes = some (front, rest)) : bytes = front ++ rest ∧ front.length = n := by
  rw [splitBytes, Option.ite_none_right_eq_some] at h
  obtain ⟨hle, heq⟩ := h
  cases heq
  exact ⟨(List.take_append_drop n bytes).symm, List.length_take_of_le hle⟩

theorem getWord_lt (order : ByteOrder) (bytes : List UInt8) :
    getWord order bytes < 256 ^ bytes.length := by
  cases order with
  | big => exact Bytes.ofBytes_lt bytes
  | little => simpa [getWord] using Bytes.ofBytes_lt bytes.reverse

theorem decodeWord_eq_some {order : ByteOrder} {offset n x : Nat} {bytes rest : List UInt8}
    (h : decodeWord order offset n bytes = some (x, rest)) :
    x < 256 ^ n ∧ ∃ front, n ≤ front.length ∧ bytes = front ++ rest := by
  rw [decodeWord, Option.bind_eq_some_iff] at h
  obtain ⟨⟨pad, bytes'⟩, hpad, h⟩ := h
  obtain ⟨⟨word, rest'⟩, hword, heq⟩ := Option.map_eq_some_iff.mp h
  cases heq
  obtain ⟨rfl, -⟩ := splitBytes_eq_some hpad
  obtain ⟨rfl, hlength⟩ := splitBytes_eq_some hword
  refine ⟨hlength ▸ getWord_lt order word, pad ++ word, ?_, (List.append_assoc ..).symm⟩
  rw [List.length_append]
  omega

theorem length_getUnits (order : ByteOrder) (bytes : List UInt8) :
    (getUnits order bytes).length ≤ bytes.length := by
  fun_induction getUnits order bytes with
  | case1 a b rest ih =>
      rw [List.length_cons, List.length_cons, List.length_cons]
      omega
  | case2 => exact Nat.zero_le _

/-- What was decoded comes from the front of the bytes. -/
theorem decode_eq_some {order : ByteOrder} {offset : Nat} {k : Kind} {v : k.Value}
    {bytes rest : List UInt8} (h : decode order offset k bytes = some (v, rest)) :
    ∃ front, front ≠ [] ∧ bytes = front ++ rest := by
  have hfront {n : Nat} {front : List UInt8} (hn : 0 < n) (hle : n ≤ front.length)
      (more : List UInt8) : front ++ more ≠ [] :=
    List.append_ne_nil_of_left_ne_nil (List.ne_nil_of_length_pos (Nat.lt_of_lt_of_le hn hle)) _
  cases k with
  | prim p =>
      obtain ⟨⟨x, rest'⟩, hword, heq⟩ := Option.map_eq_some_iff.mp h
      cases heq
      obtain ⟨-, front, hle, rfl⟩ := decodeWord_eq_some hword
      have hne := hfront p.size_pos hle []
      rw [List.append_nil] at hne
      exact ⟨front, hne, rfl⟩
  | string =>
      obtain ⟨⟨length, bytes'⟩, hword, h⟩ := Option.bind_eq_some_iff.mp h
      obtain ⟨⟨s, rest'⟩, hsplit, h⟩ := Option.bind_eq_some_iff.mp h
      obtain ⟨-, heq⟩ := Option.ite_none_right_eq_some.mp h
      cases heq
      obtain ⟨-, front, hle, rfl⟩ := decodeWord_eq_some hword
      obtain ⟨rfl, -⟩ := splitBytes_eq_some hsplit
      exact ⟨front ++ s, hfront (by decide) hle s, (List.append_assoc ..).symm⟩
  | wstring =>
      obtain ⟨⟨length, bytes'⟩, hword, h⟩ := Option.bind_eq_some_iff.mp h
      obtain ⟨-, h⟩ := Option.ite_none_right_eq_some.mp h
      obtain ⟨⟨s, rest'⟩, hsplit, heq⟩ := Option.map_eq_some_iff.mp h
      cases heq
      obtain ⟨-, front, hle, rfl⟩ := decodeWord_eq_some hword
      obtain ⟨rfl, -⟩ := splitBytes_eq_some hsplit
      exact ⟨front ++ s, hfront (by decide) hle s, (List.append_assoc ..).symm⟩

theorem length_lt_of_decode_string {order : ByteOrder} {offset : Nat} {s bytes rest : List UInt8}
    (h : decode order offset .string bytes = some (s, rest)) : s.length < 2 ^ 32 := by
  obtain ⟨⟨length, bytes'⟩, hword, h⟩ := Option.bind_eq_some_iff.mp h
  obtain ⟨⟨s', rest'⟩, hsplit, h⟩ := Option.bind_eq_some_iff.mp h
  obtain ⟨-, heq⟩ := Option.ite_none_right_eq_some.mp h
  cases heq
  have hlt := (decodeWord_eq_some hword).1
  have hlength := (splitBytes_eq_some hsplit).2
  rw [List.length_dropLast]
  omega

theorem length_lt_of_decode_wstring {order : ByteOrder} {offset : Nat} {s : List UInt16}
    {bytes rest : List UInt8} (h : decode order offset .wstring bytes = some (s, rest)) :
    s.length < 2 ^ 32 := by
  obtain ⟨⟨length, bytes'⟩, hword, h⟩ := Option.bind_eq_some_iff.mp h
  obtain ⟨-, h⟩ := Option.ite_none_right_eq_some.mp h
  obtain ⟨⟨s', rest'⟩, hsplit, heq⟩ := Option.map_eq_some_iff.mp h
  cases heq
  have hlt := (decodeWord_eq_some hword).1
  have hlength := (splitBytes_eq_some hsplit).2
  have hunits := length_getUnits order s'
  omega

end Xcdr1
