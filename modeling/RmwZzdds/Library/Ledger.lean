import Mathlib.Algebra.Group.Prod
import Mathlib.Tactic.Abel

/-!
# Ledgers

A *ledger* is a cumulative count together with the part of it that nobody has
taken yet.  Several readers *observe* a newer count, each adding what moved
since the count stored before, and one reader *takes* the change and clears
it.  The *base* of a ledger is its count without its untaken change: the count
at the last take.

An observation keeps the base and a take moves it up to the count.  So a ledger
is *balanced* against the sum of the changes taken so far: that sum is its
base, however observations and takes are ordered.  `Balanced.observe` and
`Balanced.take` are the two rules, over any commutative group of counts.
-/

/-- A cumulative count and the change in it that has not been taken. -/
structure Ledger (G : Type*) where
  /-- The count last observed. -/
  count : G
  /-- The change since the last take. -/
  change : G

namespace Ledger

variable {G : Type*} [AddCommGroup G]

/-- The count at the last take. -/
def base (l : Ledger G) : G := l.count - l.change

/-- A reader finds the count at `now`. -/
def observe (l : Ledger G) (now : G) : Ledger G := ⟨now, l.change + (now - l.count)⟩

/-- The change is handed out and cleared. -/
def take (l : Ledger G) : Ledger G := ⟨l.count, 0⟩

@[simp] theorem count_take (l : Ledger G) : l.take.count = l.count := rfl

@[simp] theorem base_observe (l : Ledger G) (now : G) : (l.observe now).base = l.base := by
  simp only [base, observe]
  abel

@[simp] theorem base_take (l : Ledger G) : l.take.base = l.count := by
  simp [base, take]

theorem base_add_change (l : Ledger G) : l.base + l.change = l.count := by
  simp [base]

/-- The changes handed out so far add up to the base. -/
def Balanced (l : Ledger G) (taken : G) : Prop := l.base = taken

theorem Balanced.observe {l : Ledger G} {taken : G} (h : l.Balanced taken) (now : G) :
    (l.observe now).Balanced taken := by
  rw [Balanced, base_observe]
  exact h

theorem Balanced.take {l : Ledger G} {taken : G} (h : l.Balanced taken) :
    l.take.Balanced (taken + l.change) := by
  rw [Balanced, base_take, ← base_add_change l, h]

/-- Balance: what was taken and what is still held make up the count. -/
theorem Balanced.total {l : Ledger G} {taken : G} (h : l.Balanced taken) :
    taken + l.change = l.count := by
  rw [← h, base_add_change]

end Ledger
