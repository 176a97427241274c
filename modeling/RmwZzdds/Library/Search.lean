import Mathlib.Data.List.Infix

/-!
# Searching a list

`find` looks for the first place where a pattern occurs in a list, as
`std::string::find` does in a string.  A list without the first letter of the
pattern can be skipped (`find_append_of_notMem`), and an occurrence stays the
first one when the list grows at its end (`find_append_of_some`).
-/

namespace Search

variable {α : Type*} [DecidableEq α] {pattern text : List α} {position : ℕ}

/-- The place of the first occurrence of a pattern. -/
def find (pattern : List α) : List α → Option ℕ
  | [] => if pattern = [] then some 0 else none
  | c :: text => if pattern <+: c :: text then some 0 else (find pattern text).map (· + 1)

/-- The place of the first occurrence from a position on.  The pattern is not
empty. -/
def findFrom (pattern text : List α) (position : ℕ) : Option ℕ :=
  (find pattern (text.drop position)).map (· + position)

theorem find_eq_none_iff : find pattern text = none ↔ ¬ pattern <:+: text := by
  induction text with
  | nil => simp [find]
  | cons c text ih =>
      rw [find, List.infix_cons_iff]
      split
      next hfront => simp [hfront]
      next hfront => simp [hfront, ih]

/-- The pattern occurs where it is found. -/
theorem eq_of_find (h : find pattern text = some position) :
    ∃ before after, text = before ++ pattern ++ after ∧ before.length = position := by
  induction text generalizing position with
  | nil =>
      rw [find, Option.ite_none_right_eq_some] at h
      obtain ⟨rfl, hposition⟩ := h
      exact ⟨[], [], rfl, Option.some.inj hposition⟩
  | cons c text ih =>
      rw [find] at h
      split at h
      next hfront =>
        obtain ⟨after, hafter⟩ := hfront
        exact ⟨[], after, hafter.symm, Option.some.inj h⟩
      next =>
        obtain ⟨place, hplace, rfl⟩ := Option.map_eq_some_iff.mp h
        obtain ⟨before, after, rfl, rfl⟩ := ih hplace
        exact ⟨c :: before, after, rfl, rfl⟩

theorem length_le_of_find (h : find pattern text = some position) :
    position + pattern.length ≤ text.length := by
  obtain ⟨before, after, rfl, rfl⟩ := eq_of_find h
  simp

/-- The search passes over letters that are not the first of the pattern. -/
theorem find_append_of_notMem {c : α} {before : List α} (h : c ∉ before) :
    find (c :: pattern) (before ++ text) =
      (find (c :: pattern) text).map (· + before.length) := by
  induction before with
  | nil => simp
  | cons d before ih =>
      rw [List.mem_cons, not_or] at h
      have hfront : ¬ c :: pattern <+: d :: (before ++ text) := by
        rw [List.cons_prefix_cons]
        exact fun hfirst => h.1 hfirst.1
      rw [List.cons_append, find, if_neg hfront, ih h.2, Option.map_map]
      rfl

/-- A first occurrence stays the first one. -/
theorem find_append_of_some (h : find pattern text = some position) (after : List α) :
    find pattern (text ++ after) = some position := by
  have hlength := length_le_of_find h
  induction text generalizing position with
  | nil =>
      rw [find, Option.ite_none_right_eq_some] at h
      obtain ⟨rfl, hposition⟩ := h
      cases after with
      | nil => exact hposition
      | cons c after => exact (if_pos (List.nil_prefix ..)).trans hposition
  | cons c text ih =>
      rw [find] at h
      rw [List.cons_append, find]
      split at h
      next hfront =>
        have hstill : pattern <+: c :: (text ++ after) :=
          hfront.trans (List.prefix_append (c :: text) after)
        rw [if_pos hstill, h]
      next hfront =>
        obtain ⟨place, hplace, rfl⟩ := Option.map_eq_some_iff.mp h
        have hsmaller := length_le_of_find hplace
        have hstill : ¬ pattern <+: c :: (text ++ after) := fun hlonger =>
          hfront (List.prefix_of_prefix_length_le hlonger (List.prefix_append (c :: text) after)
            (Nat.le_trans (Nat.le_add_left ..) hlength))
        rw [if_neg hstill, ih hplace hsmaller]
        rfl

end Search
