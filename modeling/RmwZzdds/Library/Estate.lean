import Mathlib.Data.Multiset.Bind
import Mathlib.Algebra.Order.Group.Multiset
import RmwZzdds.Library.Ownership

/-!
# Estates

Ownership seen from the heap as a whole: `h.Estate E` says that the parts in `E`
divide the live objects among them.  Every live object is in a part, and in one
part only, so that nothing is lost and nothing is claimed twice.

`h.Turns P Q h'` is the local view.  Whatever else there is, it is still there,
and the parts in `P` have become the parts in `Q`.  Allocations turn nothing
into a part, and releases turn a part into nothing; `Turns.trans` and
`Turns.frame` put such steps together.
-/

namespace Ownership

namespace Heap

variable {κ : Type*}

/-- The parts in `E` divide the live objects among them. -/
def Estate (h : Heap κ) (E : Multiset (Finset (Object κ))) : Prop :=
  h.live.val = E.bind Finset.val

/-- Beside anything else, the parts in `P` have become the parts in `Q`. -/
def Turns (h : Heap κ) (P Q : Multiset (Finset (Object κ))) (h' : Heap κ) : Prop :=
  ∀ E, h.Estate (P + E) → h'.Estate (Q + E)

namespace Estate

variable {h : Heap κ} {E : Multiset (Finset (Object κ))} {xs ys : Finset (Object κ)}

/-- The live objects as one part. -/
theorem whole (h : Heap κ) : h.Estate {h.live} := by simp [Estate]

theorem live_eq (hE : h.Estate {xs}) : h.live = xs := by
  rw [Estate, Multiset.singleton_bind] at hE
  exact Finset.val_injective hE

/-- A part is live. -/
theorem subset (hE : h.Estate E) (hxs : xs ∈ E) : xs ⊆ h.live := by
  intro x hx
  have hmem : x ∈ E.bind Finset.val := Multiset.mem_bind.mpr ⟨xs, hxs, hx⟩
  rwa [← hE] at hmem

/-- An empty part does not count. -/
theorem cons_empty : h.Estate (∅ ::ₘ E) ↔ h.Estate E := by simp [Estate]

variable [DecidableEq κ]

/-- A part divided in two. -/
theorem cons_union (hdisj : Disjoint xs ys) :
    h.Estate ((xs ∪ ys) ::ₘ E) ↔ h.Estate (xs ::ₘ ys ::ₘ E) := by
  have hval : (xs ∪ ys).val = xs.val + ys.val := by
    rw [← Finset.disjUnion_eq_union xs ys hdisj]
    rfl
  simp only [Estate, Multiset.cons_bind, hval, add_assoc]

end Estate

namespace Turns

variable {h h' h'' : Heap κ} {P P' Q Q' S : Multiset (Finset (Object κ))}
  {xs ys : Finset (Object κ)}

theorem refl (h : Heap κ) (P : Multiset (Finset (Object κ))) : h.Turns P P h := fun _ hE => hE

theorem trans (hP : h.Turns P Q h') (hQ : h'.Turns Q S h'') : h.Turns P S h'' :=
  fun E hE => hQ E (hP E hE)

theorem congr (hP : h.Turns P Q h') (hPP' : P = P') (hQQ' : Q = Q') : h.Turns P' Q' h' :=
  hPP' ▸ hQQ' ▸ hP

/-- Beside other parts. -/
theorem frame (hP : h.Turns P Q h') (S : Multiset (Finset (Object κ))) :
    h.Turns (P + S) (Q + S) h' := by
  intro E hE
  rw [add_assoc] at hE ⊢
  exact hP _ hE

/-- Something from nothing. -/
theorem gain {E : Multiset (Finset (Object κ))} (hQ : h.Turns 0 Q h') (hE : h.Estate E) :
    h'.Estate (Q + E) := hQ E (by rwa [zero_add])

/-- An empty part need not be named. -/
theorem of_empty (hP : h.Turns P {∅} h') : h.Turns P 0 h' := by
  intro E hE
  have hcons : h'.Estate (∅ ::ₘ E) := hP E hE
  rw [zero_add]
  exact Estate.cons_empty.mp hcons

variable [DecidableEq κ]

/-- New objects. -/
theorem owns (howns : h.Owns xs h') : h.Turns 0 {xs} h' := by
  intro E hE
  rw [zero_add] at hE
  have hval : h'.live.val = h.live.val + xs.val := by
    rw [howns.live, ← Finset.disjUnion_eq_union h.live xs howns.disjoint]
    rfl
  rw [Estate, hval, hE, Multiset.singleton_add, Multiset.cons_bind, add_comm]

/-- Objects given back. -/
theorem free (h : Heap κ) (xs : Finset (Object κ)) : h.Turns {xs} 0 (h.free xs) := by
  intro E hE
  rw [Multiset.singleton_add, Estate, Multiset.cons_bind] at hE
  rw [zero_add, Estate, live_free, Finset.sdiff_val, hE, add_tsub_cancel_left]

/-- A part whose objects are given back, and that is still named. -/
theorem vacate (h : Heap κ) (xs : Finset (Object κ)) : h.Turns {xs} {∅} (h.free xs) := by
  intro E hE
  have hfree := free h xs E hE
  rw [zero_add] at hfree
  exact Estate.cons_empty.mpr hfree

/-- Two parts given back at once. -/
theorem free_union (h : Heap κ) (xs ys : Finset (Object κ)) :
    h.Turns {xs, ys} 0 (h.free (xs ∪ ys)) := by
  rw [← free_free]
  have hfirst : h.Turns {xs, ys} {ys} (h.free xs) := (free h xs).frame {ys}
  exact hfirst.trans (free (h.free xs) ys)

end Turns

end Heap

end Ownership
