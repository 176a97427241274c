import Std.Do.Triple.Basic
import Std.Do.WP.Monad

/-!
# Programs over a larger state

A program may be written again over a larger state, which keeps a record that
the program itself does not have.  It *follows* the first one through a
projection of the states if it returns the same result and leaves a state with
the same projection.

`Follows.pure`, `Follows.bind` and `Follows.ite` are the rules for programs put
together of smaller ones, `Follows.bind_gets` for a program that reads the part
of the state that both have, and `Follows.silent` for a change of the state
that is seen by the larger state only.  `Follows.run` reads off what a whole
program does.
-/

namespace Following

variable {σ τ α β : Type}

/-- The first program does on the projection what the second one does. -/
def Follows (π : τ → σ) (x : StateM τ α) (y : StateM σ α) : Prop :=
  ∀ t, ((x.run t).1, π (x.run t).2) = y.run (π t)

namespace Follows

variable {π : τ → σ} {x x' : StateM τ α} {y y' : StateM σ α}

/-- What a program does that follows another one. -/
theorem run (h : Follows π x y) (t : τ) :
    (x.run t).1 = (y.run (π t)).1 ∧ π (x.run t).2 = (y.run (π t)).2 :=
  Prod.ext_iff.mp (h t)

theorem pure (a : α) : Follows π (Pure.pure a) (Pure.pure a) := fun _ => rfl

theorem bind {f : α → StateM τ β} {g : α → StateM σ β} (h : Follows π x y)
    (hf : ∀ a, Follows π (f a) (g a)) : Follows π (x >>= f) (y >>= g) := by
  intro t
  obtain ⟨hresult, hstate⟩ := h.run t
  have hnext := hf (x.run t).1 (x.run t).2
  rw [hstate, hresult] at hnext
  show _ = (g (y.run (π t)).1).run (y.run (π t)).2
  rw [← hnext, ← hresult]
  rfl

/-- Both programs read the part of the state that both have. -/
theorem bind_gets {f : τ → StateM τ β} {g : σ → StateM σ β}
    (hf : ∀ t, Follows π (f t) (g (π t))) : Follows π (get >>= f) (get >>= g) :=
  fun t => hf t t

theorem ite {c : Prop} [Decidable c] (h : Follows π x y) (h' : Follows π x' y') :
    Follows π (if c then x else x') (if c then y else y') := by
  split
  · exact h
  · exact h'

/-- What only the larger state sees. -/
theorem silent {z : StateM τ α} {f : α → StateM τ β} {y : StateM σ β}
    (hz : ∀ t, π (z.run t).2 = π t) (hf : ∀ a, Follows π (f a) y) : Follows π (z >>= f) y := by
  intro t
  have hnext := hf (z.run t).1 (z.run t).2
  rw [hz] at hnext
  exact hnext

theorem map (f : α → β) (h : Follows π x y) : Follows π (f <$> x) (f <$> y) := by
  intro t
  rw [StateT.run_map, StateT.run_map]
  exact Prod.ext (congrArg f (h.run t).1) (h.run t).2

end Follows

end Following
