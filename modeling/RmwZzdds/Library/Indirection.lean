import RmwZzdds.Library.Table

/-!
# Cells behind owners

Keys own cells, and cells have contents.  As long as no cell has two owners, a
table of keys to contents is all that one sees of it: to fill a fresh cell, to
write a cell and to free one are updates of that table at one key.
-/

namespace Indirection

variable {κ ο α : Type*}

/-- What a key finds. -/
def lookup (owner : κ → Option ο) (cell : ο → Option α) (k : κ) : Option α :=
  (owner k).bind cell

/-- No cell has two owners. -/
def Separate (owner : κ → Option ο) : Prop :=
  ∀ k k' o, owner k = some o → owner k' = some o → k = k'

variable {owner : κ → Option ο} {cell : ο → Option α} {k : κ} {o : ο} {a : α}

/-- Keys whose cells stay find the same. -/
theorem lookup_congr {cell' : ο → Option α} (hcell : ∀ o, owner k = some o → cell' o = cell o) :
    lookup owner cell' k = lookup owner cell k := by
  rw [lookup, lookup]
  cases howner : owner k with
  | none => rfl
  | some o => exact hcell o howner

variable [DecidableEq ο]

/-- A cell without owner does not matter. -/
theorem lookup_unowned (hfresh : ∀ k, owner k ≠ some o) (c : Option α) :
    lookup owner (Function.update cell o c) = lookup owner cell := by
  funext k
  apply lookup_congr
  intro o' howner
  have hne : o' ≠ o := fun heq => hfresh k (heq ▸ howner)
  exact Function.update_of_ne hne _ _

variable [DecidableEq κ]

theorem lookup_write (h : Separate owner) (hk : owner k = some o) :
    lookup owner (Function.update cell o (some a)) =
      Function.update (lookup owner cell) k (some a) := by
  funext k'
  by_cases hkey : k' = k
  · subst hkey
    rw [Function.update_self, lookup, hk, Option.bind_some, Function.update_self]
  · rw [Function.update_of_ne hkey]
    apply lookup_congr
    intro o' howner
    have hne : o' ≠ o := fun heq => hkey (h k' k o (heq ▸ howner) hk)
    exact Function.update_of_ne hne _ _

theorem lookup_alloc (hfresh : ∀ k, owner k ≠ some o) :
    lookup (Function.update owner k (some o)) (Function.update cell o (some a)) =
      Function.update (lookup owner cell) k (some a) := by
  funext k'
  by_cases hkey : k' = k
  · subst hkey
    rw [Function.update_self, lookup, Function.update_self, Option.bind_some, Function.update_self]
  · rw [Function.update_of_ne hkey, lookup, Function.update_of_ne hkey]
    exact congrFun (lookup_unowned hfresh (some a)) k'

/-- The cell may keep its contents. -/
theorem lookup_free (h : Separate owner) (hk : owner k = some o) (c : Option α) :
    lookup (Function.update owner k none) (Function.update cell o c) =
      Function.update (lookup owner cell) k none := by
  funext k'
  by_cases hkey : k' = k
  · subst hkey
    rw [Function.update_self, lookup, Function.update_self, Option.bind_none]
  · rw [Function.update_of_ne hkey, lookup, Function.update_of_ne hkey]
    apply lookup_congr
    intro o' howner
    have hne : o' ≠ o := fun heq => hkey (h k' k o (heq ▸ howner) hk)
    exact Function.update_of_ne hne _ _

omit [DecidableEq ο] in
theorem Separate.alloc (h : Separate owner) (hfresh : ∀ k, owner k ≠ some o) :
    Separate (Function.update owner k (some o)) := by
  intro k1 k2 o' h1 h2
  obtain ⟨rfl, heq⟩ | ⟨-, hold⟩ := Table.update_eq_some h1
  · obtain rfl := Option.some.inj heq
    obtain ⟨rfl, -⟩ | ⟨-, hold⟩ := Table.update_eq_some h2
    · rfl
    · exact absurd hold (hfresh k2)
  · obtain ⟨-, heq⟩ | ⟨-, hold'⟩ := Table.update_eq_some h2
    · obtain rfl := Option.some.inj heq
      exact absurd hold (hfresh k1)
    · exact h k1 k2 o' hold hold'

omit [DecidableEq ο] in
theorem Separate.free (h : Separate owner) : Separate (Function.update owner k none) := by
  intro k1 k2 o h1 h2
  obtain ⟨-, heq⟩ | ⟨-, hold⟩ := Table.update_eq_some h1
  · cases heq
  · obtain ⟨-, heq⟩ | ⟨-, hold'⟩ := Table.update_eq_some h2
    · cases heq
    · exact h k1 k2 o hold hold'

end Indirection
