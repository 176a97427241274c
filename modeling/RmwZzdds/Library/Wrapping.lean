import Mathlib.Algebra.Group.Nat.Defs
import Mathlib.Tactic.Common

/-!
# Word arithmetic that is watched for wrapping

Additions and subtractions of 64-bit words wrap silently.  A *watched*
computation has beside its value a flag that one of its operations has wrapped.
`value` forgets the flag and commutes with the operations that put computations
together, so that a watched copy of a program is connected to the program by
`simp`.

*Meaning.*  An operation that has not wrapped computes what it computes on the
naturals (`toNat_add_of_exact`, `toNat_sub_of_exact`).
-/

/-- A value, and whether an operation on the way to it has wrapped. -/
def Watched (α : Type) : Type := α × Bool

namespace Watched

section

variable {α β : Type}

-- Not fields of a structure: projections are unfolded before their arguments are
-- compared, and then the limits of words are counted down in unary.
def value (x : Watched α) : α := x.1

def wrapped (x : Watched α) : Bool := x.2

def pure (a : α) : Watched α := ⟨a, false⟩

def bind (x : Watched α) (f : α → Watched β) : Watched β :=
  ⟨(f x.value).value, x.wrapped || (f x.value).wrapped⟩

/-- No operation has wrapped. -/
def Exact (x : Watched α) : Prop := x.wrapped = false

end

/-- The sum of two words. -/
def add (x y : UInt64) : Watched UInt64 := ⟨x + y, decide (2 ^ 64 ≤ x.toNat + y.toNat)⟩

/-- The difference of two words. -/
def sub (x y : UInt64) : Watched UInt64 := ⟨x - y, decide (x.toNat < y.toNat)⟩

/-! ## Forgetting the flag -/

section

variable {α β : Type}

@[simp] theorem value_pure (a : α) : (pure a : Watched α).value = a := rfl

@[simp] theorem value_bind (x : Watched α) (f : α → Watched β) :
    (x.bind f).value = (f x.value).value := rfl

@[simp] theorem value_add (x y : UInt64) : (add x y).value = x + y := rfl

@[simp] theorem value_sub (x y : UInt64) : (sub x y).value = x - y := rfl

@[simp] theorem value_ite (c : Prop) [Decidable c] (x y : Watched α) :
    (if c then x else y).value = if c then x.value else y.value := by
  split
  · rfl
  · rfl

/-! ## Computations that do not wrap -/

theorem wrapped_bind (x : Watched α) (f : α → Watched β) :
    (x.bind f).wrapped = (x.wrapped || (f x.value).wrapped) := rfl

theorem wrapped_add (x y : UInt64) :
    (add x y).wrapped = decide (2 ^ 64 ≤ x.toNat + y.toNat) := rfl

theorem wrapped_sub (x y : UInt64) : (sub x y).wrapped = decide (x.toNat < y.toNat) := rfl

theorem exact_pure (a : α) : (pure a : Watched α).Exact := rfl

/-- Neither part of a sequence wraps. -/
theorem Exact.bind {x : Watched α} {f : α → Watched β} (hx : x.Exact) (hf : (f x.value).Exact) :
    (x.bind f).Exact := by
  rw [Exact, wrapped_bind, hx, hf]
  rfl

/-- Only the branch that is taken counts. -/
theorem Exact.ite {c : Prop} [Decidable c] {x y : Watched α} (hx : c → x.Exact)
    (hy : ¬ c → y.Exact) : (if c then x else y).Exact := by
  split
  next h => exact hx h
  next h => exact hy h

end

theorem exact_add {x y : UInt64} : (add x y).Exact ↔ x.toNat + y.toNat < 2 ^ 64 := by
  rw [Exact, wrapped_add, decide_eq_false_iff_not, Nat.not_le]

theorem exact_sub {x y : UInt64} : (sub x y).Exact ↔ y.toNat ≤ x.toNat := by
  rw [Exact, wrapped_sub, decide_eq_false_iff_not, Nat.not_lt]

/-! ## What they compute -/

theorem toNat_add_of_exact {x y : UInt64} (h : (add x y).Exact) :
    (x + y).toNat = x.toNat + y.toNat := by
  rw [UInt64.toNat_add, Nat.mod_eq_of_lt (exact_add.mp h)]

theorem toNat_sub_of_exact {x y : UInt64} (h : (sub x y).Exact) :
    (x - y).toNat = x.toNat - y.toNat :=
  UInt64.toNat_sub_of_le _ _ (UInt64.le_iff_toNat_le.mpr (exact_sub.mp h))

end Watched
