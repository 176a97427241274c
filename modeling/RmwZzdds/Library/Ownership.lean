import Mathlib.Data.Finset.Basic
import Mathlib.Data.Finset.Option

/-!
# Ownership of objects

A *heap* records which objects are live.  Every allocation makes an object no
earlier one has had, so that two live objects are never confused.

`h.Owns xs h'` says that `h'` is `h` with the objects `xs` added, and nothing
else added or lost.  An operation that creates something is stated with it
once, for its success and its failure: on failure `xs` is empty, and the heap
is as it was.  `Owns.trans` puts two such operations in sequence, and
`Owns.allocate` and `Owns.free` are the rules for the primitive ones.
-/

namespace Ownership

/-- A live thing of some kind, told apart by its address. -/
structure Object (κ : Type*) where
  kind : κ
  address : ℕ
deriving DecidableEq

/-- The live objects, all of them below the next address. -/
@[ext] structure Heap (κ : Type*) where
  live : Finset (Object κ)
  next : ℕ
  fresh : ∀ x ∈ live, x.address < next

namespace Heap

section

variable {κ : Type*}

/-- The heap without objects. -/
def empty : Heap κ where
  live := ∅
  next := 0
  fresh := by simp

/-- The object the next allocation makes. -/
def new (h : Heap κ) (k : κ) : Object κ := ⟨k, h.next⟩

@[simp] theorem live_empty : (empty : Heap κ).live = ∅ := rfl

theorem new_notMem (h : Heap κ) (k : κ) : h.new k ∉ h.live :=
  fun hx => Nat.lt_irrefl _ (h.fresh _ hx)

end

variable {κ : Type*} [DecidableEq κ]

/-- The heap after the next allocation. -/
def allocate (h : Heap κ) (k : κ) : Heap κ where
  live := insert (h.new k) h.live
  next := h.next + 1
  fresh x hx := by
    rcases Finset.mem_insert.mp hx with rfl | hx
    · exact Nat.lt_succ_self _
    · exact Nat.lt_succ_of_lt (h.fresh x hx)

/-- The heap without some objects. -/
def free (h : Heap κ) (xs : Finset (Object κ)) : Heap κ where
  live := h.live \ xs
  next := h.next
  fresh x hx := h.fresh x (Finset.mem_sdiff.mp hx).1

@[simp] theorem live_allocate (h : Heap κ) (k : κ) :
    (h.allocate k).live = insert (h.new k) h.live := rfl

@[simp] theorem live_free (h : Heap κ) (xs : Finset (Object κ)) :
    (h.free xs).live = h.live \ xs := rfl

@[simp] theorem free_empty (h : Heap κ) : h.free ∅ = h := by
  ext <;> simp [free]

@[simp] theorem free_free (h : Heap κ) (xs ys : Finset (Object κ)) :
    (h.free xs).free ys = h.free (xs ∪ ys) := by
  ext <;> simp [free, and_assoc, not_or]

/-! ## Accounts -/

/-- The second heap is the first with the objects `xs` added. -/
structure Owns (h : Heap κ) (xs : Finset (Object κ)) (h' : Heap κ) : Prop where
  live : h'.live = h.live ∪ xs
  disjoint : Disjoint h.live xs

theorem Owns.refl (h : Heap κ) : h.Owns ∅ h where
  live := by simp
  disjoint := by simp

theorem Owns.allocate (h : Heap κ) (k : κ) : h.Owns {h.new k} (h.allocate k) where
  live := by
    rw [live_allocate, Finset.union_comm]
    rfl
  disjoint := by simp [h.new_notMem k]

theorem Owns.trans {h h' h'' : Heap κ} {xs ys : Finset (Object κ)} (hx : h.Owns xs h')
    (hy : h'.Owns ys h'') : h.Owns (xs ∪ ys) h'' where
  live := by rw [hy.live, hx.live, Finset.union_assoc]
  disjoint := by
    have hdisj := hy.disjoint
    rw [hx.live, Finset.disjoint_union_left] at hdisj
    exact Finset.disjoint_union_right.mpr ⟨hx.disjoint, hdisj.1⟩

/-- Giving some of the objects back. -/
theorem Owns.free {h h' : Heap κ} {xs : Finset (Object κ)} (hx : h.Owns xs h')
    (ys : Finset (Object κ)) (hys : Disjoint h.live ys) : h.Owns (xs \ ys) (h'.free ys) where
  live := by
    rw [live_free, hx.live, Finset.union_sdiff_distrib,
      Finset.sdiff_eq_self_of_disjoint hys]
  disjoint := hx.disjoint.mono_right Finset.sdiff_subset

/-- An account with nothing in it. -/
theorem Owns.restored {h h' : Heap κ} (hx : h.Owns ∅ h') : h'.live = h.live := by
  rw [hx.live, Finset.union_empty]

end Heap

end Ownership
