import Mathlib.Data.Nat.Bits
import Mathlib.Algebra.Order.Ring.Nat
import Mathlib.Tactic.Ring

/-!
# Numbers as bytes

A list of bytes read from its first byte on is a numeral in base 256.
`ofBytes` reads it, and `toBytes n` writes the last `n` digits of a number.
They are inverse to each other on lists of `n` bytes and on numbers below
`256 ^ n`.

`pushByte` is one step of the usual loop that reads a 64-bit word, a shift and
an or.  Folded over eight bytes it reads the same numeral
(`toNat_foldl_pushByte`).
-/

namespace Bytes

/-- The number a list of bytes is the numeral of. -/
def ofBytes : List UInt8 → Nat
  | [] => 0
  | b :: bs => b.toNat * 256 ^ bs.length + ofBytes bs

/-- The last `n` digits of a number. -/
def toBytes : Nat → Nat → List UInt8
  | 0, _ => []
  | n + 1, x => UInt8.ofNat (x / 256 ^ n) :: toBytes n x

@[simp] theorem length_toBytes (n x : Nat) : (toBytes n x).length = n := by
  induction n with
  | zero => rfl
  | succ n ih => simp [toBytes, ih]

theorem ofBytes_lt (bs : List UInt8) : ofBytes bs < 256 ^ bs.length := by
  induction bs with
  | nil => simp [ofBytes]
  | cons b bs ih =>
      have hb : b.toNat + 1 ≤ 256 := b.toNat_lt
      calc ofBytes (b :: bs) < b.toNat * 256 ^ bs.length + 256 ^ bs.length := by
            simpa [ofBytes] using ih
        _ = (b.toNat + 1) * 256 ^ bs.length := by ring
        _ ≤ 256 * 256 ^ bs.length := Nat.mul_le_mul_right _ hb
        _ = 256 ^ (b :: bs).length := by simp [pow_succ, mul_comm]

/-- Reading the last `n` digits of a number gives the number modulo `256 ^ n`. -/
theorem ofBytes_toBytes (n x : Nat) : ofBytes (toBytes n x) = x % 256 ^ n := by
  induction n with
  | zero => simp [toBytes, ofBytes, Nat.mod_one]
  | succ n ih =>
      have hdigit : (UInt8.ofNat (x / 256 ^ n)).toNat = x / 256 ^ n % 256 := by simp
      rw [toBytes, ofBytes, length_toBytes, ih, hdigit, pow_succ, Nat.mod_mul]
      ring

theorem ofBytes_toBytes_of_lt {n x : Nat} (h : x < 256 ^ n) : ofBytes (toBytes n x) = x := by
  rw [ofBytes_toBytes, Nat.mod_eq_of_lt h]

/-- The last `n` digits do not depend on the digits before them. -/
theorem toBytes_mul_add {n m : Nat} (h : n ≤ m) (a x : Nat) :
    toBytes n (a * 256 ^ m + x) = toBytes n x := by
  induction n with
  | zero => rfl
  | succ n ih =>
      have hpos : 0 < 256 ^ n := Nat.pos_of_ne_zero (by simp)
      have hsplit : a * 256 ^ m + x = 256 ^ n * (256 * (a * 256 ^ (m - n - 1))) + x := by
        conv_lhs => rw [show m = n + (1 + (m - n - 1)) by omega, pow_add, pow_add]
        ring
      have hdigit : UInt8.ofNat ((a * 256 ^ m + x) / 256 ^ n) = UInt8.ofNat (x / 256 ^ n) := by
        refine UInt8.toNat_inj.mp ?_
        rw [hsplit, Nat.mul_add_div hpos]
        simp
      rw [toBytes, toBytes, ih (by omega), hdigit]

/-- The digits of the numeral of `n` bytes are these bytes. -/
theorem toBytes_ofBytes (bs : List UInt8) : toBytes bs.length (ofBytes bs) = bs := by
  induction bs with
  | nil => rfl
  | cons b bs ih =>
      have hlt := ofBytes_lt bs
      have hpos : 0 < 256 ^ bs.length := Nat.pos_of_ne_zero (by simp)
      have hdigit : ofBytes (b :: bs) / 256 ^ bs.length = b.toNat := by
        rw [ofBytes, Nat.mul_comm, Nat.mul_add_div hpos, Nat.div_eq_of_lt hlt, Nat.add_zero]
      rw [List.length_cons, toBytes, hdigit, ofBytes, toBytes_mul_add le_rfl, ih]
      simp

/-! ## Reading a word byte by byte -/

/-- One more byte at the low end of a word. -/
def pushByte (v : UInt64) (b : UInt8) : UInt64 := (v <<< 8) ||| b.toUInt64

theorem toNat_pushByte (v : UInt64) (b : UInt8) (h : v.toNat < 2 ^ 56) :
    (pushByte v b).toNat = v.toNat * 256 + b.toNat := by
  have hb : b.toNat < 2 ^ 8 := b.toNat_lt
  have hshift : v.toNat <<< 8 < 2 ^ 64 := by
    rw [Nat.shiftLeft_eq]
    omega
  rw [pushByte, UInt64.toNat_or, UInt64.toNat_shiftLeft, UInt8.toNat_toUInt64,
    show (8 : UInt64).toNat % 64 = 8 from rfl, Nat.mod_eq_of_lt hshift,
    ← Nat.shiftLeft_add_eq_or_of_lt hb, Nat.shiftLeft_eq]

/-- A word with room for the bytes gets their numeral at its low end. -/
theorem toNat_foldl_pushByte (bs : List UInt8) (v : UInt64)
    (h : v.toNat * 256 ^ bs.length + ofBytes bs < 2 ^ 64) :
    (bs.foldl pushByte v).toNat = v.toNat * 256 ^ bs.length + ofBytes bs := by
  induction bs generalizing v with
  | nil => simp [ofBytes]
  | cons b bs ih =>
      have hpos : 1 ≤ 256 ^ bs.length := Nat.one_le_pow _ _ (by omega)
      have hassoc : v.toNat * 256 ^ (b :: bs).length + ofBytes (b :: bs) =
          (v.toNat * 256 + b.toNat) * 256 ^ bs.length + ofBytes bs := by
        rw [List.length_cons, pow_succ, ofBytes]
        ring
      rw [hassoc] at h ⊢
      have hroom : v.toNat < 2 ^ 56 := by
        have := Nat.le_mul_of_pos_right (v.toNat * 256 + b.toNat) hpos
        omega
      rw [List.foldl_cons, ih _ (by rwa [toNat_pushByte v b hroom]), toNat_pushByte v b hroom]

end Bytes
