import Mathlib.Data.Finset.Erase
import Mathlib.Data.Finset.Insert
import Mathlib.Data.Set.Insert

/-!
# Indices

A set *indexes* a collection of items if it has the labels of the items and
nothing else, and no two items have a label in common.  A label may depend on
the state, so it is a relation.

`Indexes.insert` is the rule for an item that comes, `Indexes.erase` the one for
an item that goes.  An item that goes must take its own label with it:
`Indexes.erase_iff` and `Indexes.not_keep`.
-/

namespace Index

variable {ι κ : Type*}

structure Indexes (items : Set ι) (label : ι → κ → Prop) (S : Finset κ) : Prop where
  mem : ∀ y, y ∈ S ↔ ∃ i ∈ items, label i y
  inj : ∀ i ∈ items, ∀ j ∈ items, ∀ y, label i y → label j y → i = j

namespace Indexes

variable {items items' : Set ι} {label label' : ι → κ → Prop} {S : Finset κ} {i : ι} {y z : κ}

theorem empty (hnone : ∀ i ∈ items, ∀ y, ¬ label i y) : Indexes items label ∅ where
  mem y := by simpa using fun i hi => hnone i hi y
  inj i hi _ _ y hy _ := (hnone i hi y hy).elim

/-- The labels of the items may be said in another way. -/
theorem congr (hlabel : ∀ i ∈ items, ∀ y, label' i y ↔ label i y) :
    Indexes items label' S ↔ Indexes items label S := by
  constructor
  · intro h
    refine ⟨fun y => ?_, fun i hi j hj y hy hy' => ?_⟩
    · rw [h.mem]
      exact exists_congr fun i => and_congr_right fun hi => hlabel i hi y
    · exact h.inj i hi j hj y ((hlabel i hi y).mpr hy) ((hlabel j hj y).mpr hy')
  · intro h
    refine ⟨fun y => ?_, fun i hi j hj y hy hy' => ?_⟩
    · rw [h.mem]
      exact exists_congr fun i => and_congr_right fun hi => (hlabel i hi y).symm
    · exact h.inj i hi j hj y ((hlabel i hi y).mp hy) ((hlabel j hj y).mp hy')

/-- Once the item is gone, its label must not stay. -/
theorem notMem (h : Indexes items label S) (hmem : i ∈ items) (hi : label i y)
    (hitems : ∀ j, j ∈ items' ↔ j ∈ items ∧ j ≠ i) {S' : Finset κ}
    (h' : Indexes items' label S') : y ∉ S' := by
  intro hy
  obtain ⟨j, hj, hlabel⟩ := (h'.mem y).mp hy
  obtain ⟨hj, hne⟩ := (hitems j).mp hj
  exact hne (h.inj j hj i hmem y hlabel hi)

/-- Something is taken out with the item. -/
theorem not_keep (h : Indexes items label S) (hmem : i ∈ items) (hi : label i y)
    (hitems : ∀ j, j ∈ items' ↔ j ∈ items ∧ j ≠ i) : ¬ Indexes items' label S :=
  fun h' => h.notMem hmem hi hitems h' ((h.mem y).mpr ⟨i, hmem, hi⟩)

variable [DecidableEq κ]

/-- An item comes with a label that no item has. -/
theorem insert (h : Indexes items label S) (hi : ∀ z, label i z ↔ z = y) (hnew : y ∉ S) :
    Indexes (Insert.insert i items) label (Insert.insert y S) where
  mem z := by
    rw [Finset.mem_insert, h.mem, Set.exists_mem_insert, hi]
  inj := by
    have hother : ∀ j ∈ items, ¬ label j y := fun j hj hy => hnew ((h.mem y).mpr ⟨j, hj, hy⟩)
    rintro j (rfl | hj) k (rfl | hk) z hz hz'
    · rfl
    · exact (hother k hk ((hi z).mp hz ▸ hz')).elim
    · exact (hother j hj ((hi z).mp hz' ▸ hz)).elim
    · exact h.inj j hj k hk z hz hz'

/-- An item goes with its label. -/
theorem erase (h : Indexes items label S) (hmem : i ∈ items) (hi : ∀ z, label i z ↔ z = y)
    (hitems : ∀ j, j ∈ items' ↔ j ∈ items ∧ j ≠ i) : Indexes items' label (S.erase y) where
  mem z := by
    rw [Finset.mem_erase, h.mem]
    constructor
    · rintro ⟨hne, j, hj, hz⟩
      refine ⟨j, (hitems j).mpr ⟨hj, ?_⟩, hz⟩
      rintro rfl
      exact hne ((hi z).mp hz)
    · rintro ⟨j, hj, hz⟩
      obtain ⟨hj, hne⟩ := (hitems j).mp hj
      refine ⟨?_, j, hj, hz⟩
      rintro rfl
      exact hne (h.inj j hj i hmem z hz ((hi z).mpr rfl))
  inj j hj k hk := h.inj j ((hitems j).mp hj).1 k ((hitems k).mp hk).1

/-- What is taken out with the item is its label. -/
theorem erase_iff (h : Indexes items label S) (hmem : i ∈ items) (hi : ∀ z, label i z ↔ z = y)
    (hitems : ∀ j, j ∈ items' ↔ j ∈ items ∧ j ≠ i) :
    Indexes items' label (S.erase z) ↔ z = y := by
  constructor
  · intro h'
    have hgone := h.notMem hmem ((hi y).mpr rfl) hitems h'
    by_contra hne
    exact hgone (Finset.mem_erase.mpr ⟨Ne.symm hne, (h.mem y).mpr ⟨i, hmem, (hi y).mpr rfl⟩⟩)
  · rintro rfl
    exact h.erase hmem hi hitems

end Indexes

end Index
