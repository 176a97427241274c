import Mathlib.Algebra.BigOperators.Group.List.Basic
import Mathlib.Algebra.GroupWithZero.Nat
import Mathlib.Tactic.Common
import RmwZzdds.Library.ByteStream

/-!
# Observed reading

An observed computation keeps a log of what it did, also if it fails later.
`result` forgets the log, and commutes with the operations that put
computations together.

What is observed of a reader are its reads and the room that is made for
elements before they are read.  A run *consumes* (`Consumes`) if it takes its
result from the front of what its reader has left, does everything inside of
that, makes room for no more elements than there are bytes left, and takes at
least a byte with every read but the last one.  There is a rule for one datum,
for checks, for one run after the other, and for a loop.
-/

/-- What a computation did, and its result unless it failed. -/
structure Observed (σ α : Type) where
  log : List σ
  result : Option α

namespace Observed

variable {σ α β ρ : Type}

def pure (a : α) : Observed σ α := ⟨[], some a⟩

def fail : Observed σ α := ⟨[], none⟩

/-- The computation after an event. -/
def after (event : σ) (x : Observed σ α) : Observed σ α := ⟨event :: x.log, x.result⟩

def bind (x : Observed σ α) (f : α → Observed σ β) : Observed σ β :=
  match x.result with
  | some a => ⟨x.log ++ (f a).log, (f a).result⟩
  | none => ⟨x.log, none⟩

def map (f : α → β) (x : Observed σ α) : Observed σ β := ⟨x.log, x.result.map f⟩

section

variable {olds : List α}

theorem length_nil : ([] : List β).length = ([] : List α).length := rfl

theorem length_cons (xs : { xs : List β // xs.length = olds.length }) (x : β) (old : α) :
    (x :: xs.1).length = (old :: olds).length :=
  congrArg (· + 1) xs.2

theorem length_eq {n : ℕ} (olds : { olds : List α // olds.length = n })
    (xs : { xs : List β // xs.length = olds.1.length }) : xs.1.length = n :=
  xs.2.trans olds.2

end

/-- A loop over the elements of a list. -/
def each (read : α → ρ → Observed σ (β × ρ)) :
    (olds : List α) → ρ → Observed σ ({ xs : List β // xs.length = olds.length } × ρ)
  | [], r => pure (⟨[], length_nil⟩, r)
  | old :: olds, r =>
      (read old r).bind fun (x, r) =>
        (each read olds r).map fun (xs, r) => (⟨x :: xs.1, length_cons xs x old⟩, r)

/-! ## Forgetting the log -/

@[simp] theorem result_pure (a : α) : (pure a : Observed σ α).result = some a := rfl

@[simp] theorem result_fail : (fail : Observed σ α).result = none := rfl

@[simp] theorem result_after (event : σ) (x : Observed σ α) :
    (x.after event).result = x.result := rfl

@[simp] theorem result_map (f : α → β) (x : Observed σ α) :
    (x.map f).result = x.result.map f := rfl

@[simp] theorem result_bind (x : Observed σ α) (f : α → Observed σ β) :
    (x.bind f).result = x.result.bind fun a => (f a).result := by
  rw [bind]
  cases x.result with
  | some a => rfl
  | none => rfl

@[simp] theorem result_ite (c : Prop) [Decidable c] (x y : Observed σ α) :
    (if c then x else y).result = if c then x.result else y.result := by
  split
  · rfl
  · rfl

theorem result_each {read : α → ρ → Observed σ (β × ρ)} {read' : α → ρ → Option (β × ρ)}
    (h : ∀ old r, (read old r).result = read' old r) (olds : List α) (r : ρ) :
    (each read olds r).result = ByteStream.readEach read' olds r := by
  induction olds generalizing r with
  | nil => rfl
  | cons old olds ih =>
      rw [each, ByteStream.readEach, result_bind, h]
      exact congrArg _ (funext fun p => by rw [result_map, ih])

end Observed

namespace ByteStream

variable {κ : Type} {V : κ → Type} {μ : Type}

/-- A read, and room made for elements, with the reader at that point. -/
inductive Event (s : ByteStream κ V μ) where
  | read (k : κ) (r : s.Reader)
  | room (size : Nat) (r : s.Reader)

variable {s : ByteStream κ V μ}

/-- It is done inside of these bytes, and there is no more room than bytes
left. -/
def Event.Inside (bytes : List UInt8) : s.Event → Prop
  | .read _ r => s.unread r <:+ bytes
  | .room size r => s.unread r <:+ bytes ∧ size ≤ (s.unread r).length

theorem Event.Inside.mono {bytes bytes' : List UInt8} (h : bytes <:+ bytes') :
    {e : s.Event} → e.Inside bytes → e.Inside bytes'
  | .read _ _, he => he.trans h
  | .room _ _, he => ⟨he.1.trans h, he.2⟩

/-- The number of reads. -/
def reads : List s.Event → Nat
  | [] => 0
  | .read _ _ :: log => reads log + 1
  | .room _ _ :: log => reads log

theorem reads_append (log log' : List s.Event) :
    reads (log ++ log') = reads log + reads log' := by
  induction log with
  | nil => exact (Nat.zero_add _).symm
  | cons e log ih =>
      cases e with
      | read k r =>
          show reads (log ++ log') + 1 = reads log + 1 + reads log'
          omega
      | room size r => exact ih

/-- Read a datum. -/
def observe (s : ByteStream κ V μ) (k : κ) (r : s.Reader) : Observed s.Event (V k × s.Reader) :=
  ⟨[.read k r], s.read k r⟩

/-- Every read takes bytes from the front of what is left, and at least one. -/
def Takes (s : ByteStream κ V μ) : Prop :=
  ∀ ⦃k r v r'⦄, s.read k r = some (v, r') → ∃ chunk, chunk ≠ [] ∧ s.unread r = chunk ++ s.unread r'

/-- What a run does that starts at a reader.  `p` relates its result to the
number of bytes that it took. -/
structure Consumes {α : Type} (r : s.Reader) (x : Observed s.Event (α × s.Reader))
    (p : α → Nat → Prop) : Prop where
  inside : ∀ e ∈ x.log, e.Inside (s.unread r)
  reads_le : reads x.log ≤ (s.unread r).length + 1
  result : ∀ ⦃v r'⦄, x.result = some (v, r') →
    ∃ chunk, s.unread r = chunk ++ s.unread r' ∧ reads x.log ≤ chunk.length ∧ p v chunk.length

namespace Consumes

variable {α β : Type} {r : s.Reader} {x : Observed s.Event (α × s.Reader)} {p q : α → Nat → Prop}

theorem one (hs : s.Takes) (k : κ) (r : s.Reader) {p : V k → Nat → Prop}
    (h : ∀ v r' n, s.read k r = some (v, r') → 0 < n → p v n) :
    Consumes r (s.observe k r) p where
  inside := by
    intro e he
    obtain rfl := List.mem_singleton.mp he
    exact List.suffix_refl _
  reads_le := Nat.le_add_left 1 _
  result := by
    intro v r' hread
    obtain ⟨chunk, hne, hunread⟩ := hs hread
    have hpos : 0 < chunk.length := List.length_pos_iff.mpr hne
    exact ⟨chunk, hunread, hpos, h v r' _ hread hpos⟩

theorem pure {v : α} (h : p v 0) : Consumes r (.pure (v, r)) p where
  inside := by
    intro e he
    cases he
  reads_le := Nat.zero_le _
  result := by
    rintro v' r' ⟨⟩
    exact ⟨[], rfl, Nat.zero_le _, h⟩

theorem fail : Consumes r (.fail : Observed s.Event (α × s.Reader)) p where
  inside := by
    intro e he
    cases he
  reads_le := Nat.zero_le _
  result := by
    intro v r' h
    cases h

/-- A check before the run. -/
theorem guard {c : Prop} [Decidable c] (h : ¬ c → Consumes r x p) :
    Consumes r (if c then .fail else x) p := by
  split
  · exact fail
  next hc => exact h hc

/-- Room for elements, no more of them than bytes left. -/
theorem room {size : Nat} (hsize : size ≤ (s.unread r).length) (h : Consumes r x p) :
    Consumes r (x.after (.room size r)) p where
  inside := by
    intro e he
    cases he with
    | head => exact ⟨List.suffix_refl _, hsize⟩
    | tail _ he => exact h.inside e he
  reads_le := h.reads_le
  result := h.result

theorem mono (h : Consumes r x p) (hpq : ∀ v n, p v n → q v n) : Consumes r x q where
  inside := h.inside
  reads_le := h.reads_le
  result := by
    intro v r' hx
    obtain ⟨chunk, hunread, hreads, hp⟩ := h.result hx
    exact ⟨chunk, hunread, hreads, hpq v _ hp⟩

/-- The result of a run, put into another shape. -/
theorem map {f : α → β} {q : β → Nat → Prop} (h : Consumes r x p)
    (hpq : ∀ v n, p v n → q (f v) n) :
    Consumes r (x.map fun (v, r) => (f v, r)) q where
  inside := h.inside
  reads_le := h.reads_le
  result := by
    intro w r' hx
    obtain ⟨⟨v, r₁⟩, hresult, heq⟩ := Option.map_eq_some_iff.mp hx
    cases heq
    obtain ⟨chunk, hunread, hreads, hp⟩ := h.result hresult
    exact ⟨chunk, hunread, hreads, hpq v _ hp⟩

/-- One run after the other. -/
theorem bind {next : α × s.Reader → Observed s.Event (β × s.Reader)} {q : β → Nat → Prop}
    (h : Consumes r x p)
    (hnext : ∀ v r' n, p v n → Consumes r' (next (v, r')) fun w m => q w (n + m)) :
    Consumes r (x.bind next) q := by
  rw [Observed.bind]
  split
  next a hx =>
    obtain ⟨v, r₁⟩ := a
    obtain ⟨chunk, hunread, hreads, hp⟩ := h.result hx
    have hafter := hnext v r₁ _ hp
    have hlength : (s.unread r).length = chunk.length + (s.unread r₁).length := by
      rw [hunread, List.length_append]
    constructor
    case inside =>
      intro e he
      rcases List.mem_append.mp he with he | he
      · exact h.inside e he
      · exact (hafter.inside e he).mono ⟨chunk, hunread.symm⟩
    case reads_le =>
      have := hafter.reads_le
      rw [reads_append]
      omega
    case result =>
      intro w r' hw
      obtain ⟨chunk', hunread', hreads', hq⟩ := hafter.result hw
      refine ⟨chunk ++ chunk', ?_, ?_, ?_⟩
      · rw [hunread, hunread', List.append_assoc]
      · rw [reads_append, List.length_append]
        omega
      · rwa [List.length_append]
  next =>
    exact ⟨h.inside, h.reads_le, fun _ _ hnone => by cases hnone⟩

/-- A loop whose turns take what their elements cost. -/
theorem each {read : α → s.Reader → Observed s.Event (β × s.Reader)} {p : β → Prop}
    {cost : β → Nat} (h : ∀ old r, Consumes r (read old r) fun v n => p v ∧ cost v ≤ n)
    (olds : List α) (r : s.Reader) :
    Consumes r (Observed.each read olds r) fun xs n =>
      (∀ x ∈ xs.1, p x) ∧ (xs.1.map cost).sum ≤ n := by
  induction olds generalizing r with
  | nil => exact pure ⟨by simp, Nat.le_refl _⟩
  | cons old olds ih =>
      refine (h old r).bind fun v r' n hv => ?_
      let cons (ys : { ys : List β // ys.length = olds.length }) :
          { ys : List β // ys.length = (old :: olds).length } :=
        ⟨v :: ys.1, congrArg (· + 1) ys.2⟩
      refine (ih r').map (f := cons) fun xs m hxs => ⟨?_, ?_⟩
      · intro x hx
        cases hx with
        | head => exact hv.1
        | tail _ hx => exact hxs.1 x hx
      · rw [List.map_cons, List.sum_cons]
        exact Nat.add_le_add hv.2 hxs.2

end Consumes

end ByteStream
