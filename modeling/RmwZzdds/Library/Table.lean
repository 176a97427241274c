import Mathlib.Logic.Function.Basic

/-!
# Tables

A table of calls in progress is a function to `Option`, and a table of queues a
function to lists.  What is found after an update is the new entry or was there
before.
-/

namespace Table

variable {ι α : Type*} [DecidableEq ι]

theorem update_eq_some {table : ι → Option α} {i j : ι} {entry : Option α} {x : α}
    (h : Function.update table i entry j = some x) :
    (j = i ∧ entry = some x) ∨ (j ≠ i ∧ table j = some x) := by
  by_cases hne : j = i
  · subst hne
    rw [Function.update_self] at h
    exact .inl ⟨rfl, h⟩
  · rw [Function.update_of_ne hne] at h
    exact .inr ⟨hne, h⟩

theorem mem_update {table : ι → List α} {i j : ι} {entry : List α} {x : α}
    (h : x ∈ Function.update table i entry j) :
    (j = i ∧ x ∈ entry) ∨ (j ≠ i ∧ x ∈ table j) := by
  by_cases hne : j = i
  · subst hne
    rw [Function.update_self] at h
    exact .inl ⟨rfl, h⟩
  · rw [Function.update_of_ne hne] at h
    exact .inr ⟨hne, h⟩

end Table
