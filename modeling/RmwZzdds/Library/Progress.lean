import RmwZzdds.Library.Transition

/-!
# The steps of one party

*Progress.*  A party gets done if a rank goes down with each of its steps and no
other step raises it: there are no more of its steps in a run than the rank at
the start (`Run.countP_add_le`).

*Projection.*  A run becomes a run of another system if every step does there
nothing or one step (`Run.project`).
-/

namespace Transition.System

variable {σ τ α β : Type*} {M : System σ α}

/-- The steps that `mine` picks out of a run, and the rank at its end, are no more
than the rank at the start. -/
theorem Run.countP_add_le {I : σ → Prop} (mine : α → Bool) (rank : σ → Nat)
    (hinv : ∀ s a s', I s → M.step s a s' → I s')
    (hmine : ∀ s a s', I s → M.step s a s' → mine a = true → rank s' < rank s)
    (hother : ∀ s a s', I s → M.step s a s' → mine a = false → rank s' ≤ rank s)
    {s s' : σ} {as : List α} (h : M.Run s as s') (h0 : I s) :
    as.countP mine + rank s' ≤ rank s := by
  induction h with
  | nil s => exact Nat.le_of_eq (by rw [List.countP_nil, Nat.zero_add])
  | @cons s s1 s' a as hs _ ih =>
      have hrest := ih (hinv s a s1 h0 hs)
      rw [List.countP_cons]
      cases hmine' : mine a with
      | true =>
          have hlt := hmine s a s1 h0 hs hmine'
          simp only [if_true]
          omega
      | false =>
          have hle := hother s a s1 h0 hs hmine'
          simp only [Bool.false_eq_true, if_false]
          omega

/-- A step that does nothing in the other system, or the step of the label `b`. -/
def Does (N : System τ β) (t : τ) (b : Option β) (t' : τ) : Prop :=
  match b with
  | none => t' = t
  | some b => N.step t b t'

/-- A run of the other system, with the labels that are seen there. -/
theorem Run.project {N : System τ β} {f : σ → τ} {label : α → Option β}
    (hstep : ∀ s a s', M.step s a s' → N.Does (f s) (label a) (f s'))
    {s s' : σ} {as : List α} (h : M.Run s as s') :
    N.Run (f s) (as.filterMap label) (f s') := by
  induction h with
  | nil s => exact .nil (f s)
  | @cons s s1 s' a as hs _ ih =>
      have hdoes := hstep s a s1 hs
      rw [List.filterMap_cons]
      cases hlabel : label a with
      | none =>
          rw [hlabel] at hdoes
          rw [show f s1 = f s from hdoes] at ih
          exact ih
      | some b =>
          rw [hlabel] at hdoes
          exact .cons hdoes ih

end Transition.System
