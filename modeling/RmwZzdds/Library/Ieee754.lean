import Mathlib.Algebra.Order.Field.Rat
import Mathlib.Tactic.Ring
import Mathlib.Tactic.FieldSimp

/-!
# Binary floating-point formats

The value of the bits of a binary interchange format, as a rational number with
a sign, an infinity or no number.  `widen` makes a double of a single, and
`value_widen` says that it keeps the value: a normal number only gets a longer
fraction, and a subnormal one becomes normal.
-/

namespace Ieee754

/-- A binary interchange format, by the widths of its fields. -/
structure Format where
  exponentBits : ℕ
  fractionBits : ℕ

def binary32 : Format := ⟨8, 23⟩

def binary64 : Format := ⟨11, 52⟩

def Format.bias (F : Format) : ℕ := 2 ^ (F.exponentBits - 1) - 1

/-- What a datum stands for.  Zero has a sign too. -/
inductive Value where
  | nan
  | infinite (negative : Bool)
  | finite (negative : Bool) (magnitude : ℚ)

/-- The fields of a datum. -/
@[ext]
structure Fields where
  negative : Bool
  exponent : ℕ
  fraction : ℕ

namespace Fields

def value (F : Format) (x : Fields) : Value :=
  if x.exponent = 2 ^ F.exponentBits - 1 then
    if x.fraction = 0 then .infinite x.negative else .nan
  else if x.exponent = 0 then
    .finite x.negative (x.fraction * 2 ^ (1 - (F.bias + F.fractionBits : ℤ)))
  else
    .finite x.negative
      ((2 ^ F.fractionBits + x.fraction : ℕ) * 2 ^ (x.exponent - (F.bias + F.fractionBits : ℤ)))

/-- The bits of a datum. -/
def pack (F : Format) (x : Fields) : ℕ :=
  (x.negative.toNat * 2 ^ F.exponentBits + x.exponent) * 2 ^ F.fractionBits + x.fraction

end Fields

/-- The fields in some bits. -/
def fields (F : Format) (bits : ℕ) : Fields where
  negative := bits / 2 ^ F.fractionBits / 2 ^ F.exponentBits % 2 = 1
  exponent := bits / 2 ^ F.fractionBits % 2 ^ F.exponentBits
  fraction := bits % 2 ^ F.fractionBits

/-- The value of some bits. -/
def value (F : Format) (bits : ℕ) : Value := (fields F bits).value F

/-- The fields fit their widths. -/
structure Fields.Fits (F : Format) (x : Fields) : Prop where
  exponent : x.exponent < 2 ^ F.exponentBits
  fraction : x.fraction < 2 ^ F.fractionBits

theorem fields_fits (F : Format) (bits : ℕ) : (fields F bits).Fits F where
  exponent := Nat.mod_lt _ (Nat.two_pow_pos _)
  fraction := Nat.mod_lt _ (Nat.two_pow_pos _)

theorem fields_pack {F : Format} {x : Fields} (h : x.Fits F) : fields F (x.pack F) = x := by
  have hfraction : (x.negative.toNat * 2 ^ F.exponentBits + x.exponent) * 2 ^ F.fractionBits +
      x.fraction = x.fraction +
        2 ^ F.fractionBits * (x.negative.toNat * 2 ^ F.exponentBits + x.exponent) := by ring
  have hexponent : x.negative.toNat * 2 ^ F.exponentBits + x.exponent =
      x.exponent + 2 ^ F.exponentBits * x.negative.toNat := by ring
  have htail : (x.pack F) / 2 ^ F.fractionBits =
      x.exponent + 2 ^ F.exponentBits * x.negative.toNat := by
    rw [Fields.pack, hfraction, Nat.add_mul_div_left _ _ (Nat.two_pow_pos _),
      Nat.div_eq_of_lt h.fraction, Nat.zero_add, hexponent]
  ext
  · simp only [fields, htail]
    rw [Nat.add_mul_div_left _ _ (Nat.two_pow_pos _), Nat.div_eq_of_lt h.exponent, Nat.zero_add]
    cases x.negative <;> rfl
  · simp only [fields, htail]
    rw [Nat.add_mul_mod_self_left, Nat.mod_eq_of_lt h.exponent]
  · simp only [fields, Fields.pack]
    rw [hfraction, Nat.add_mul_mod_self_left, Nat.mod_eq_of_lt h.fraction]

theorem value_pack {F : Format} {x : Fields} (h : x.Fits F) : value F (x.pack F) = x.value F := by
  rw [value, fields_pack h]

/-! ## From single to double -/

/-- The fields of a double with the value of a single. -/
def Fields.widen (x : Fields) : Fields :=
  if x.exponent = 255 then
    -- the quiet bit is set in what is no number
    ⟨x.negative, 2047, if x.fraction = 0 then 0 else x.fraction * 2 ^ 29 ||| 2 ^ 51⟩
  else if x.exponent = 0 then
    if x.fraction = 0 then ⟨x.negative, 0, 0⟩
    else
      let place := x.fraction.log2
      ⟨x.negative, place + 874, (x.fraction - 2 ^ place) * 2 ^ (52 - place)⟩
  else ⟨x.negative, x.exponent + 896, x.fraction * 2 ^ 29⟩

/-- The conversion of the bits of a single to those of a double. -/
def widen (bits : ℕ) : ℕ := ((fields binary32 bits).widen).pack binary64

namespace Fields

variable {x : Fields}

/-- The leading digit of a fraction. -/
theorem log2_bounds {n k : ℕ} (hpositive : n ≠ 0) (h : n < 2 ^ k) :
    n.log2 < k ∧ 2 ^ n.log2 ≤ n ∧ n - 2 ^ n.log2 < 2 ^ n.log2 := by
  have hlower := Nat.log2_self_le hpositive
  have hupper : n < 2 ^ (n.log2 + 1) := Nat.lt_log2_self
  rw [Nat.pow_succ] at hupper
  exact ⟨(Nat.log2_lt hpositive).mpr h, hlower, by omega⟩

theorem fits_widen (h : x.Fits binary32) : x.widen.Fits binary64 := by
  have hexponent : x.exponent < 256 := h.exponent
  have hfraction : x.fraction < 8388608 := h.fraction
  unfold widen
  split
  · refine ⟨show 2047 < 2048 by omega, ?_⟩
    show (if x.fraction = 0 then 0 else x.fraction * 2 ^ 29 ||| 2 ^ 51) < 2 ^ 52
    split
    · decide
    · exact Nat.or_lt_two_pow (by omega) (by decide)
  · split
    · split
      · exact ⟨show 0 < 2048 by omega, show 0 < 2 ^ 52 by omega⟩
      next hpositive =>
        obtain ⟨hplace, hlower, hupper⟩ := log2_bounds hpositive h.fraction
        have hplace : x.fraction.log2 < 23 := hplace
        constructor
        · show x.fraction.log2 + 874 < 2048
          omega
        · show (x.fraction - 2 ^ x.fraction.log2) * 2 ^ (52 - x.fraction.log2) < 2 ^ 52
          calc (x.fraction - 2 ^ x.fraction.log2) * 2 ^ (52 - x.fraction.log2)
              < 2 ^ x.fraction.log2 * 2 ^ (52 - x.fraction.log2) :=
                Nat.mul_lt_mul_of_pos_right hupper (Nat.two_pow_pos _)
            _ = 2 ^ 52 := by
                rw [← Nat.pow_add]
                congr 1
                omega
    · constructor
      · show x.exponent + 896 < 2048
        omega
      · show x.fraction * 2 ^ 29 < 2 ^ 52
        omega

/-- A normal number with a longer fraction. -/
theorem widen_normal (exponent fraction : ℕ) :
    ((2 ^ 52 + fraction * 2 ^ 29 : ℕ) : ℚ) * 2 ^ ((exponent + 896 : ℕ) - 1075 : ℤ) =
      ((2 ^ 23 + fraction : ℕ) : ℚ) * 2 ^ (exponent - 150 : ℤ) := by
  have hfraction : 2 ^ 52 + fraction * 2 ^ 29 = (2 ^ 23 + fraction) * 2 ^ 29 := by ring
  have hexponent : (exponent - 150 : ℤ) = 29 + ((exponent + 896 : ℕ) - 1075 : ℤ) := by
    push_cast
    ring
  rw [hfraction, hexponent, zpow_add₀ (by decide : (2 : ℚ) ≠ 0), Nat.cast_mul, mul_assoc]
  norm_cast

/-- A subnormal number, with its leading digit in the exponent. -/
theorem widen_subnormal {fraction : ℕ} (hpositive : fraction ≠ 0) (h : fraction < 2 ^ 23) :
    ((2 ^ 52 + (fraction - 2 ^ fraction.log2) * 2 ^ (52 - fraction.log2) : ℕ) : ℚ) *
        2 ^ ((fraction.log2 + 874 : ℕ) - 1075 : ℤ) =
      (fraction : ℚ) * 2 ^ (-149 : ℤ) := by
  obtain ⟨hplace, hlower, -⟩ := log2_bounds hpositive h
  have hfraction : 2 ^ 52 + (fraction - 2 ^ fraction.log2) * 2 ^ (52 - fraction.log2) =
      fraction * 2 ^ (52 - fraction.log2) := by
    have hpower : 2 ^ 52 = 2 ^ fraction.log2 * 2 ^ (52 - fraction.log2) := by
      rw [← Nat.pow_add]
      congr 1
      omega
    rw [hpower, ← Nat.add_mul, Nat.add_sub_cancel' hlower]
  have hexponent : (-149 : ℤ) =
      (52 - fraction.log2 : ℕ) + ((fraction.log2 + 874 : ℕ) - 1075 : ℤ) := by
    omega
  rw [hfraction, hexponent, zpow_add₀ (by decide : (2 : ℚ) ≠ 0), Nat.cast_mul, mul_assoc,
    zpow_natCast, Nat.cast_pow, Nat.cast_ofNat]

theorem value_binary32 (x : Fields) : x.value binary32 =
    if x.exponent = 255 then if x.fraction = 0 then .infinite x.negative else .nan
    else if x.exponent = 0 then .finite x.negative (x.fraction * 2 ^ (-149 : ℤ))
    else .finite x.negative ((2 ^ 23 + x.fraction : ℕ) * 2 ^ (x.exponent - 150 : ℤ)) := rfl

theorem value_binary64 (x : Fields) : x.value binary64 =
    if x.exponent = 2047 then if x.fraction = 0 then .infinite x.negative else .nan
    else if x.exponent = 0 then .finite x.negative (x.fraction * 2 ^ (-1074 : ℤ))
    else .finite x.negative ((2 ^ 52 + x.fraction : ℕ) * 2 ^ (x.exponent - 1075 : ℤ)) := rfl

theorem value_widen (h : x.Fits binary32) : x.widen.value binary64 = x.value binary32 := by
  have hexponent : x.exponent < 256 := h.exponent
  rw [value_binary64, value_binary32]
  unfold widen
  split
  next =>
    by_cases hzero : x.fraction = 0
    · simp [hzero]
    · have hquiet : ¬ x.fraction * 2 ^ 29 ||| 2 ^ 51 = 0 := by
        rw [Nat.or_eq_zero_iff]
        omega
      simp only [hzero, hquiet, if_true, if_false]
  next =>
    split
    next =>
      split
      next hzero => simp [hzero]
      next hpositive =>
        have hspecial : ¬ x.fraction.log2 + 874 = 2047 := by
          have hplace := (log2_bounds hpositive h.fraction).1
          have hwidth : binary32.fractionBits = 23 := rfl
          omega
        simp only [hspecial, Nat.add_eq_zero_iff, OfNat.ofNat_ne_zero, and_false, if_false,
          widen_subnormal hpositive h.fraction]
    next =>
      have hspecial : ¬ x.exponent + 896 = 2047 := by omega
      have hnonzero : ¬ x.exponent + 896 = 0 := by omega
      simp only [hspecial, hnonzero, if_false, widen_normal]

end Fields

/-- The conversion keeps the value. -/
theorem value_widen (bits : ℕ) : value binary64 (widen bits) = value binary32 bits := by
  rw [widen, value_pack (Fields.fits_widen (fields_fits binary32 bits)),
    Fields.value_widen (fields_fits binary32 bits), value]

/-- A double has 64 bits. -/
theorem widen_lt (bits : ℕ) : widen bits < 2 ^ 64 := by
  have hfits := Fields.fits_widen (fields_fits binary32 bits)
  have hexponent : ((fields binary32 bits).widen).exponent < 2 ^ 11 := hfits.exponent
  have hfraction : ((fields binary32 bits).widen).fraction < 2 ^ 52 := hfits.fraction
  have hsign : ((fields binary32 bits).widen).negative.toNat ≤ 1 := Bool.toNat_le _
  show (_ * 2 ^ 11 + _) * 2 ^ 52 + _ < 2 ^ 64
  omega

end Ieee754
