import Mathlib.Data.Finset.Sort
import Mathlib.Logic.Function.Basic

/-!
# Multimaps

A finite map from keys to nonempty finite sets of values, as a `std::map` of
`std::set` that grows by one value at a time.  `holds_foldl` is the rule for a
loop that inserts, and `mem_toList` says what the ordered list of a multimap
shows.
-/

/-- A key is there just if it has a value. -/
structure Multimap (κ ν : Type*) where
  keys : Finset κ
  values : κ → Finset ν
  mem_keys : ∀ k, k ∈ keys ↔ (values k).Nonempty

namespace Multimap

variable {κ ν α : Type*} {m : Multimap κ ν} {k : κ} {v : ν}

/-- The multimap holds a value under a key. -/
def Holds (m : Multimap κ ν) (k : κ) (v : ν) : Prop := v ∈ m.values k

def empty : Multimap κ ν where
  keys := ∅
  values _ := ∅
  mem_keys _ := by simp

theorem not_holds_empty : ¬ (empty : Multimap κ ν).Holds k v := Finset.notMem_empty v

section insert

variable [DecidableEq κ] [DecidableEq ν]

/-- `m[k].insert(v)`. -/
def insert (m : Multimap κ ν) (k : κ) (v : ν) : Multimap κ ν where
  keys := Insert.insert k m.keys
  values := Function.update m.values k (Insert.insert v (m.values k))
  mem_keys k' := by
    rw [Finset.mem_insert]
    by_cases hk : k' = k
    · subst hk
      rw [Function.update_self]
      simp
    · rw [Function.update_of_ne hk, m.mem_keys]
      simp [hk]

theorem holds_insert {k' : κ} {v' : ν} :
    (m.insert k v).Holds k' v' ↔ m.Holds k' v' ∨ k = k' ∧ v = v' := by
  show v' ∈ Function.update m.values k (Insert.insert v (m.values k)) k' ↔ _
  by_cases hk : k' = k
  · subst hk
    rw [Function.update_self, Finset.mem_insert, or_comm]
    simp [Holds, eq_comm]
  · rw [Function.update_of_ne hk]
    simp [Holds, Ne.symm hk]

end insert

/-- A loop of insertions holds what was there and what its steps insert. -/
theorem holds_foldl {step : Multimap κ ν → α → Multimap κ ν} (inserts : α → κ → ν → Prop)
    (hstep : ∀ m a k v, (step m a).Holds k v ↔ m.Holds k v ∨ inserts a k v) (as : List α) :
    (as.foldl step m).Holds k v ↔ m.Holds k v ∨ ∃ a ∈ as, inserts a k v := by
  induction as generalizing m with
  | nil => simp
  | cons a as ih => rw [List.foldl_cons, ih, hstep, or_assoc, List.exists_mem_cons_iff]

section toList

variable [LinearOrder κ] [LinearOrder ν]

/-- The entries in order. -/
def toList (m : Multimap κ ν) : List (κ × List ν) :=
  m.keys.sort.map fun k => (k, (m.values k).sort)

theorem mem_toList : (∃ vs, (k, vs) ∈ m.toList ∧ v ∈ vs) ↔ m.Holds k v := by
  constructor
  · rintro ⟨vs, hentry, hv⟩
    obtain ⟨k', -, heq⟩ := List.mem_map.mp hentry
    cases heq
    exact (Finset.mem_sort _).mp hv
  · intro hv
    have hk : k ∈ m.keys.sort := (Finset.mem_sort _).mpr ((m.mem_keys k).mpr ⟨v, hv⟩)
    exact ⟨_, List.mem_map_of_mem hk, (Finset.mem_sort _).mpr hv⟩

/-- Every key that is shown has a value. -/
theorem ne_nil_of_mem_toList {entry : κ × List ν} (h : entry ∈ m.toList) : entry.2 ≠ [] := by
  obtain ⟨k, hk, rfl⟩ := List.mem_map.mp h
  obtain ⟨v, hv⟩ := (m.mem_keys k).mp ((Finset.mem_sort _).mp hk)
  exact List.ne_nil_of_mem ((Finset.mem_sort _).mpr hv)

end toList

end Multimap
