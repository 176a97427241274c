import Mathlib.Data.List.Basic

/-!
# Labelled transition systems

A *system* has a predicate of initial states and a relation of labelled steps.
`Reachable` collects the states of all its runs, and `Run` keeps the labels of
one run.  `restrict` leaves only the steps a predicate admits, which is how an
assumption on the environment enters a theorem about every run.

*Rules.*  `Reachable.invariant` is the induction over runs: what holds of every
initial state and is kept by every step holds of every reachable state.
`Reachable.invariant_of` hands the step an invariant already proved.
`Run.invariant` is the same rule for the states between two points of a run, and
`Run.history` the rule for a state together with the labels that led to it.

*Execution.*  A deterministic system is given by a partial function `next`.
`exec` runs it on a list of labels, and a successful execution is a run, so a
concrete run is found by evaluation.
-/

namespace Transition

/-- A labelled transition system with states `σ` and labels `α`. -/
structure System (σ : Type*) (α : Type*) where
  /-- The initial states. -/
  init : σ → Prop
  /-- The labelled steps. -/
  step : σ → α → σ → Prop

namespace System

variable {σ α : Type*} {M : System σ α}

/-- The states of all runs from an initial state. -/
inductive Reachable (M : System σ α) : σ → Prop where
  | init {s : σ} : M.init s → Reachable M s
  | step {s s' : σ} {a : α} : Reachable M s → M.step s a s' → Reachable M s'

/-- A run from one state to another with the labels of its steps. -/
inductive Run (M : System σ α) : σ → List α → σ → Prop where
  | nil (s : σ) : Run M s [] s
  | cons {s s' s'' : σ} {a : α} {as : List α} :
      M.step s a s' → Run M s' as s'' → Run M s (a :: as) s''

/-! ## The invariant rules -/

/-- What holds initially and is kept by every step holds of every reachable
state. -/
theorem Reachable.invariant {I : σ → Prop} (hinit : ∀ s, M.init s → I s)
    (hstep : ∀ s a s', I s → M.step s a s' → I s') {s : σ} (h : M.Reachable s) : I s := by
  induction h with
  | init h0 => exact hinit _ h0
  | step _ hs ih => exact hstep _ _ _ ih hs

/-- The invariant rule over an invariant `J` already known of the reachable
states. -/
theorem Reachable.invariant_of {I J : σ → Prop} (hJ : ∀ s, M.Reachable s → J s)
    (hinit : ∀ s, M.init s → I s)
    (hstep : ∀ s a s', J s → I s → M.step s a s' → I s') {s : σ} (h : M.Reachable s) :
    I s := by
  induction h with
  | init h0 => exact hinit _ h0
  | step hr hs ih => exact hstep _ _ _ (hJ _ hr) ih hs

/-- What holds at the start of a run and is kept by its steps holds at its
end. -/
theorem Run.invariant {I : σ → Prop} {s s' : σ} {as : List α} (h : M.Run s as s')
    (h0 : I s) (hstep : ∀ s a s', a ∈ as → I s → M.step s a s' → I s') : I s' := by
  induction h with
  | nil s => exact h0
  | @cons s s1 s2 a as hs _ ih =>
      have h1 : I s1 := hstep _ a _ (List.mem_cons_self ..) h0 hs
      exact ih h1 (fun t b t' hb => hstep t b t' (List.mem_cons_of_mem _ hb))

/-! ## Runs and reachability -/

/-- A run from a reachable state ends in a reachable state. -/
theorem Run.reachable {s s' : σ} {as : List α} (h : M.Run s as s') (hs : M.Reachable s) :
    M.Reachable s' := by
  induction h with
  | nil s => exact hs
  | cons ha _ ih => exact ih (.step hs ha)

/-! ## Histories -/

theorem Run.append {s s' s'' : σ} {as bs : List α} (h : M.Run s as s') (h' : M.Run s' bs s'') :
    M.Run s (as ++ bs) s'' := by
  induction h with
  | nil s => exact h'
  | cons ha _ ih => exact .cons ha (ih h')

/-- A run passes through a state at every point of its history. -/
theorem Run.split {s s'' : σ} {as bs : List α} (h : M.Run s (as ++ bs) s'') :
    ∃ s', M.Run s as s' ∧ M.Run s' bs s'' := by
  induction as generalizing s with
  | nil => exact ⟨s, .nil s, h⟩
  | cons a as ih =>
      cases h with
      | cons ha hrest =>
          obtain ⟨s', hrun, hrun'⟩ := ih hrest
          exact ⟨s', .cons ha hrun, hrun'⟩

/-- The invariant rule for a state and the history that led to it. -/
theorem Run.history {I : List α → σ → Prop} {s s' : σ} {as : List α} (h : M.Run s as s')
    (h0 : I [] s)
    (hstep : ∀ bs t b t', M.Run s bs t → I bs t → M.step t b t' → I (bs ++ [b]) t') :
    I as s' := by
  have hrun : ∀ bs t, M.Run s bs t → I bs t → M.Run t as s' → I (bs ++ as) s' := by
    clear h
    induction as with
    | nil =>
        intro bs t _ hI h
        cases h
        rw [List.append_nil]
        exact hI
    | cons a as ih =>
        intro bs t hbs hI h
        cases h with
        | cons ha hrest =>
            have hnext := ih (bs ++ [a]) _ (hbs.append (.cons ha (.nil _)))
              (hstep bs t a _ hbs hI ha) hrest
            rw [List.append_assoc] at hnext
            exact hnext
  exact hrun [] s (.nil s) h0 h

/-! ## Restriction -/

/-- The system with only the steps that `P` admits. -/
def restrict (M : System σ α) (P : σ → α → Prop) : System σ α where
  init := M.init
  step s a s' := P s a ∧ M.step s a s'

/-- A restriction by a stronger predicate reaches fewer states. -/
theorem Reachable.mono {P Q : σ → α → Prop} (hPQ : ∀ s a, P s a → Q s a) {s : σ}
    (h : (M.restrict P).Reachable s) : (M.restrict Q).Reachable s := by
  induction h with
  | init h0 => exact .init h0
  | step _ hs ih => exact .step ih ⟨hPQ _ _ hs.1, hs.2⟩

/-- A restricted run is a run. -/
theorem Reachable.of_restrict {P : σ → α → Prop} {s : σ} (h : (M.restrict P).Reachable s) :
    M.Reachable s := by
  induction h with
  | init h0 => exact .init h0
  | step _ hs ih => exact .step ih hs.2

/-! ## Past events -/

end System

/-- An event `p` has happened in a history, and no event `q` after the last. -/
def Since (p q : α → Prop) (as : List α) : Prop :=
  ∃ bs a cs, as = bs ++ a :: cs ∧ p a ∧ ∀ c ∈ cs, ¬ q c

theorem not_since_nil (p q : α → Prop) : ¬ Since p q [] := by
  rintro ⟨bs, a, cs, h, -⟩
  exact absurd h.symm (List.append_ne_nil_of_right_ne_nil bs (List.cons_ne_nil a cs))

/-- What one more event does. -/
theorem since_concat (p q : α → Prop) (as : List α) (a : α) :
    Since p q (as ++ [a]) ↔ p a ∨ Since p q as ∧ ¬ q a := by
  constructor
  · rintro ⟨bs, b, cs, h, hb, hcs⟩
    rcases List.eq_nil_or_concat' cs with rfl | ⟨cs, c, rfl⟩
    · obtain ⟨-, rfl⟩ := List.append_singleton_inj.mp h
      exact .inl hb
    · rw [← List.cons_append, ← List.append_assoc] at h
      obtain ⟨rfl, rfl⟩ := List.append_singleton_inj.mp h
      refine .inr ⟨⟨bs, b, cs, rfl, hb, ?_⟩, ?_⟩
      · exact fun c hc => hcs c (List.mem_append_left _ hc)
      · exact hcs _ (List.mem_append_right _ (List.mem_singleton_self _))
  · rintro (ha | ⟨⟨bs, b, cs, rfl, hb, hcs⟩, ha⟩)
    · exact ⟨as, a, [], rfl, ha, by simp⟩
    · refine ⟨bs, b, cs ++ [a], by simp, hb, ?_⟩
      intro c hc
      obtain hc | hc := List.mem_append.mp hc
      · exact hcs c hc
      · exact List.mem_singleton.mp hc ▸ ha

/-- Every event of a history is allowed after those before it. -/
def Obeys (allowed : List α → α → Prop) (as : List α) : Prop :=
  ∀ bs a cs, as = bs ++ a :: cs → allowed bs a

theorem obeys_nil (allowed : List α → α → Prop) : Obeys allowed [] := by
  intro bs a cs h
  exact absurd h.symm (List.append_ne_nil_of_right_ne_nil bs (List.cons_ne_nil a cs))

/-- One more event has to be allowed after all others. -/
theorem obeys_concat (allowed : List α → α → Prop) (as : List α) (a : α) :
    Obeys allowed (as ++ [a]) ↔ Obeys allowed as ∧ allowed as a := by
  constructor
  · intro h
    refine ⟨?_, h as a [] rfl⟩
    rintro bs b cs rfl
    exact h bs b (cs ++ [a]) (by rw [List.append_assoc, List.cons_append])
  · rintro ⟨has, ha⟩ bs b cs h
    rcases List.eq_nil_or_concat' cs with rfl | ⟨cs, c, rfl⟩
    · obtain ⟨rfl, rfl⟩ := List.append_singleton_inj.mp h
      exact ha
    · rw [← List.cons_append, ← List.append_assoc] at h
      obtain ⟨rfl, -⟩ := List.append_singleton_inj.mp h
      exact has bs b cs rfl

namespace System

/-! ## Execution -/

/-- The system of a partial step function, from one initial state. -/
def ofNext (start : σ) (next : σ → α → Option σ) : System σ α where
  init s := s = start
  step s a s' := next s a = some s'

end System

/-- Execute a list of labels. -/
def exec {σ α : Type*} (next : σ → α → Option σ) : σ → List α → Option σ
  | s, [] => some s
  | s, a :: as => (next s a).bind fun s' => exec next s' as

theorem exec_append {σ α : Type*} (next : σ → α → Option σ) (s : σ) (as bs : List α) :
    exec next s (as ++ bs) = (exec next s as).bind fun s' => exec next s' bs := by
  induction as generalizing s with
  | nil => rfl
  | cons a as ih => simp only [List.cons_append, exec, ih, Option.bind_assoc]

/-- A successful execution is a run. -/
theorem run_of_exec {σ α : Type*} {start : σ} {next : σ → α → Option σ} :
    ∀ {s : σ} {as : List α} {s' : σ}, exec next s as = some s' →
      (System.ofNext start next).Run s as s'
  | s, [], s', h => by
      cases h
      exact .nil s
  | s, a :: as, s', h => by
      rw [exec, Option.bind_eq_some_iff] at h
      obtain ⟨s1, ha, hrest⟩ := h
      exact .cons ha (run_of_exec hrest)

/-- An execution from the initial state ends in a reachable state, with every
value `f` that evaluation finds there. -/
theorem exists_reachable_of_exec {σ α β : Type*} {start : σ} {next : σ → α → Option σ}
    (as : List α) (f : σ → β) (b : β) (h : (exec next start as).map f = some b) :
    ∃ s, (System.ofNext start next).Reachable s ∧ f s = b := by
  rw [Option.map_eq_some_iff] at h
  obtain ⟨s, hs, hb⟩ := h
  exact ⟨s, (run_of_exec hs).reachable (.init rfl), hb⟩

/-- A step function that only takes the steps `P` admits. -/
def filterNext {σ α : Type*} (P : σ → α → Prop) [∀ s a, Decidable (P s a)]
    (next : σ → α → Option σ) (s : σ) (a : α) : Option σ :=
  if P s a then next s a else none

/-- Execution through the steps `P` admits is a run of the restricted system. -/
theorem reachable_restrict_of_filterNext {σ α : Type*} {start : σ} {next : σ → α → Option σ}
    {P : σ → α → Prop} [∀ s a, Decidable (P s a)] {s : σ}
    (h : (System.ofNext start (filterNext P next)).Reachable s) :
    ((System.ofNext start next).restrict P).Reachable s := by
  induction h with
  | init h0 => exact .init h0
  | @step s s' a _ hs ih =>
      simp only [System.ofNext, filterNext, Option.ite_none_right_eq_some] at hs
      exact .step ih hs

/-- The same for a run with its labels. -/
theorem run_restrict_of_exec_filterNext {σ α : Type*} {start : σ} {next : σ → α → Option σ}
    {P : σ → α → Prop} [∀ s a, Decidable (P s a)] {s s' : σ} {as : List α}
    (h : exec (filterNext P next) s as = some s') :
    ((System.ofNext start next).restrict P).Run s as s' := by
  induction as generalizing s with
  | nil =>
      cases h
      exact .nil _
  | cons a as ih =>
      rw [exec, Option.bind_eq_some_iff] at h
      obtain ⟨s1, ha, hrest⟩ := h
      simp only [filterNext, Option.ite_none_right_eq_some] at ha
      exact .cons ha (ih hrest)

/-- Execution on labels that `P` admits in every state, from a state of the
restricted system, stays in the restricted system. -/
theorem reachable_restrict_of_exec {σ α : Type*} {start : σ} {next : σ → α → Option σ}
    {P : σ → α → Prop} {as : List α} {s s' : σ}
    (hs : ((System.ofNext start next).restrict P).Reachable s)
    (h : exec next s as = some s') (hP : ∀ a ∈ as, ∀ s, P s a) :
    ((System.ofNext start next).restrict P).Reachable s' := by
  induction as generalizing s with
  | nil =>
      cases h
      exact hs
  | cons a as ih =>
      rw [exec, Option.bind_eq_some_iff] at h
      obtain ⟨s1, ha, hrest⟩ := h
      refine ih (.step hs ⟨hP a (List.mem_cons_self ..) s, ha⟩) hrest ?_
      exact fun b hb => hP b (List.mem_cons_of_mem _ hb)

/-- The same with a first label admitted in the first state. -/
theorem reachable_restrict_of_exec_cons {σ α : Type*} {start : σ} {next : σ → α → Option σ}
    {P : σ → α → Prop} {a : α} {as : List α} {s s' : σ}
    (hs : ((System.ofNext start next).restrict P).Reachable s)
    (h : exec next s (a :: as) = some s') (ha : P s a) (hP : ∀ a ∈ as, ∀ s, P s a) :
    ((System.ofNext start next).restrict P).Reachable s' := by
  rw [exec, Option.bind_eq_some_iff] at h
  obtain ⟨s1, hnext, hrest⟩ := h
  exact reachable_restrict_of_exec (.step hs ⟨ha, hnext⟩) hrest hP

end Transition
