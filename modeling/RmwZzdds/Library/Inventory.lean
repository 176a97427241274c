import Mathlib.Data.Multiset.Filter
import Mathlib.Data.Multiset.Count
import Mathlib.Data.Finset.Card
import RmwZzdds.Library.Ownership

/-!
# Inventories of a heap

A program that keeps tables of its own objects has to keep them in step with
the heap.  An *inventory* is the multiset of the items that such tables are
about, where every item has one object of its own, its `key`.  `h.Lists P key F`
says that the live objects of the kinds `P` are the keys of the items of `F`,
each of one item only.

`Lists.add` and `Lists.remove` are the rules for an operation that makes or
releases one item with all its objects, and `Lists.keep` and `Lists.grow` for
one that touches nothing listed.  `Lists.card_filter` counts objects by their
items.
-/

namespace Ownership

namespace Heap

variable {κ ι : Type*}

/-- The live objects of the kinds `P` are the keys of the items in `F`. -/
structure Lists (h : Heap κ) (P : κ → Bool) (key : ι → Object κ) (F : Multiset ι) : Prop where
  nodup : (F.map key).Nodup
  kind : ∀ i ∈ F, P (key i).kind = true
  live : ∀ x, P x.kind = true → (x ∈ h.live ↔ ∃ i ∈ F, key i = x)

namespace Lists

variable {h h' : Heap κ} {P : κ → Bool} {key : ι → Object κ} {F : Multiset ι} {i j : ι}

/-- A heap without such objects. -/
theorem nil (hnone : ∀ x ∈ h.live, P x.kind = false) : h.Lists P key 0 where
  nodup := by simp
  kind := by simp
  live x hx := by
    constructor
    · intro hlive
      rw [hnone x hlive] at hx
      cases hx
    · simp

theorem mem_live (hF : h.Lists P key F) (hi : i ∈ F) : key i ∈ h.live :=
  (hF.live _ (hF.kind i hi)).mpr ⟨i, hi, rfl⟩

/-- Two items do not share a key. -/
theorem key_notMem (hF : h.Lists P key (i ::ₘ F)) (hj : j ∈ F) : key j ≠ key i := by
  have hnodup := hF.nodup
  rw [Multiset.map_cons, Multiset.nodup_cons] at hnodup
  intro heq
  exact hnodup.1 (heq ▸ Multiset.mem_map_of_mem key hj)

theorem notMem (hF : h.Lists P key (i ::ₘ F)) : i ∉ F := fun hi => hF.key_notMem hi rfl

/-- Items are told apart by their keys. -/
theorem key_inj (hF : h.Lists P key F) (hi : i ∈ F) (hj : j ∈ F) (heq : key i = key j) : i = j :=
  Multiset.inj_on_of_nodup_map hF.nodup i hi j hj heq

/-- Objects are as many as their items. -/
theorem card_filter (hF : h.Lists P key F) {Q : κ → Bool} (hQ : ∀ k, Q k = true → P k = true) :
    (h.live.filter fun x => Q x.kind = true).card = F.countP fun i => Q (key i).kind = true := by
  have hlive : h.live.filter (fun x => Q x.kind = true) =
      ⟨(F.map key).filter fun x => Q x.kind = true, hF.nodup.filter _⟩ := by
    ext x
    simp only [Finset.mem_filter, Finset.mem_mk, Multiset.mem_filter, Multiset.mem_map]
    constructor
    · rintro ⟨hx, hQx⟩
      exact ⟨(hF.live x (hQ _ hQx)).mp hx, hQx⟩
    · rintro ⟨hx, hQx⟩
      exact ⟨(hF.live x (hQ _ hQx)).mpr hx, hQx⟩
  rw [hlive, Finset.card_mk, Multiset.filter_map, Multiset.card_map, Multiset.countP_eq_card_filter]
  rfl

variable [DecidableEq κ] {xs : Finset (Object κ)}

/-- A new item. -/
theorem add (hF : h.Lists P key F) (howns : h.Owns xs h') (hkey : key i ∈ xs)
    (hkind : P (key i).kind = true) (honly : ∀ x ∈ xs, P x.kind = true → x = key i) :
    h'.Lists P key (i ::ₘ F) where
  nodup := by
    rw [Multiset.map_cons, Multiset.nodup_cons]
    refine ⟨fun hmem => ?_, hF.nodup⟩
    obtain ⟨j, hj, heq⟩ := Multiset.mem_map.mp hmem
    exact Finset.disjoint_left.mp howns.disjoint (heq ▸ hF.mem_live hj) hkey
  kind j hj := by
    rcases Multiset.mem_cons.mp hj with rfl | hj
    · exact hkind
    · exact hF.kind j hj
  live x hx := by
    rw [howns.live, Finset.mem_union, hF.live x hx]
    constructor
    · rintro (⟨j, hj, rfl⟩ | hmem)
      · exact ⟨j, Multiset.mem_cons_of_mem hj, rfl⟩
      · exact ⟨i, Multiset.mem_cons_self i F, (honly x hmem hx).symm⟩
    · rintro ⟨j, hj, rfl⟩
      rcases Multiset.mem_cons.mp hj with rfl | hj
      · exact .inr hkey
      · exact .inl ⟨j, hj, rfl⟩

/-- New objects of other kinds. -/
theorem grow (hF : h.Lists P key F) (howns : h.Owns xs h')
    (hnone : ∀ x ∈ xs, P x.kind = false) : h'.Lists P key F where
  nodup := hF.nodup
  kind := hF.kind
  live x hx := by
    rw [howns.live, Finset.mem_union, hF.live x hx]
    constructor
    · rintro (hi | hmem)
      · exact hi
      · rw [hnone x hmem] at hx
        cases hx
    · exact .inl

/-- The end of an item. -/
theorem remove (hF : h.Lists P key (i ::ₘ F)) (hkey : key i ∈ xs)
    (honly : ∀ x ∈ xs, P x.kind = true → x = key i) : (h.free xs).Lists P key F where
  nodup := by
    have hnodup := hF.nodup
    rw [Multiset.map_cons, Multiset.nodup_cons] at hnodup
    exact hnodup.2
  kind j hj := hF.kind j (Multiset.mem_cons_of_mem hj)
  live x hx := by
    rw [live_free, Finset.mem_sdiff, hF.live x hx]
    constructor
    · rintro ⟨⟨j, hj, rfl⟩, hmem⟩
      rcases Multiset.mem_cons.mp hj with rfl | hj
      · exact (hmem hkey).elim
      · exact ⟨j, hj, rfl⟩
    · rintro ⟨j, hj, rfl⟩
      refine ⟨⟨j, Multiset.mem_cons_of_mem hj, rfl⟩, fun hmem => ?_⟩
      exact hF.key_notMem hj (honly _ hmem hx)

/-- The end of objects of other kinds. -/
theorem keep (hF : h.Lists P key F) (hnone : ∀ x ∈ xs, P x.kind = false) :
    (h.free xs).Lists P key F where
  nodup := hF.nodup
  kind := hF.kind
  live x hx := by
    rw [live_free, Finset.mem_sdiff, hF.live x hx]
    constructor
    · exact And.left
    · refine fun hi => ⟨hi, fun hmem => ?_⟩
      rw [hnone x hmem] at hx
      cases hx

end Lists

end Heap

end Ownership
