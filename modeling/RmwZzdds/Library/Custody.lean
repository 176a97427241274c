import Mathlib.Data.List.Induction
import RmwZzdds.Library.Transition

/-!
# Custody

A borrower obtains loans from a lender, reads them and gives them back.  A loan
has the number of the place in the log where it was obtained.  A slot for a loan
that is empty can be read or given back as well, and that is an event without a
number.

*Balance.*  A log is balanced if every loan is given back once, and if a loan is
read or given back only while the borrower has it.

*Holding.*  `Holds log loan` derives the logs of a borrower that has one loan at
a time.  Its rules are the moves of such a borrower, and a log that it ends
without a loan is balanced.
-/

namespace Custody

open Transition

inductive Event where
  | obtained (number : ℕ)
  | read (loan : Option ℕ)
  | returned (loan : Option ℕ)
deriving DecidableEq, Repr

/-- The borrower has the loan. -/
def Held (log : List Event) (loan : Option ℕ) : Prop :=
  ∃ number, loan = some number ∧ .obtained number ∈ log ∧ .returned loan ∉ log

/-- What may follow in a log. -/
def Allowed (log : List Event) : Event → Prop
  | .obtained number => .obtained number ∉ log
  | .read loan | .returned loan => Held log loan

/-- Loans are used while they are held, and all are given back. -/
structure Balanced (log : List Event) : Prop where
  obeys : Obeys Allowed log
  returned_once : ∀ number, .obtained number ∈ log → log.count (.returned (some number)) = 1

/-- A loan that was given back is not given back again. -/
theorem count_returned_le {log : List Event} (h : Obeys Allowed log) (loan : Option ℕ) :
    log.count (.returned loan) ≤ 1 := by
  induction log using List.reverseRecOn with
  | nil => exact Nat.zero_le 1
  | append_singleton log event ih =>
      obtain ⟨hlog, hevent⟩ := (obeys_concat _ _ _).mp h
      rw [List.count_append, List.count_singleton]
      split
      · next hsame =>
        obtain rfl := eq_of_beq hsame
        obtain ⟨number, rfl, -, hunreturned⟩ := hevent
        have hzero := List.count_eq_zero_of_not_mem hunreturned
        omega
      · exact ih hlog

/-! ## One loan at a time -/

/-- The log of a borrower that has the loan, if any, and no other. -/
inductive Holds : List Event → Option ℕ → Prop where
  | nil : Holds [] none
  | obtain {log : List Event} :
      Holds log none → Holds (log ++ [.obtained log.length]) (some log.length)
  | read {log : List Event} {number : ℕ} :
      Holds log (some number) → Holds (log ++ [.read (some number)]) (some number)
  | giveBack {log : List Event} {number : ℕ} :
      Holds log (some number) → Holds (log ++ [.returned (some number)]) none

namespace Holds

variable {log : List Event} {loan : Option ℕ}

/-- The number of a loan is a place in the log. -/
theorem numbered (h : Holds log loan) {number : ℕ} (hmem : .obtained number ∈ log) :
    number < log.length := by
  induction h with
  | nil => cases hmem
  | obtain _ ih | read _ ih | giveBack _ ih =>
      obtain hold | hnew := List.mem_append.mp hmem
      · have hlt := ih hold
        simp
        omega
      · simp_all

/-- The loan that is held was obtained. -/
theorem obtained (h : Holds log loan) : ∀ number ∈ loan, .obtained number ∈ log := by
  induction h with
  | nil | giveBack => exact fun _ hnumber => nomatch hnumber
  | obtain =>
      rintro _ ⟨⟩
      exact List.mem_append_right _ (List.mem_singleton_self _)
  | read _ ih => exact fun number hnumber => List.mem_append_left _ (ih number hnumber)

/-- The loans that were given back are all but the one that is held. -/
theorem returned_iff (h : Holds log loan) (number : ℕ) :
    .returned (some number) ∈ log ↔ .obtained number ∈ log ∧ loan ≠ some number := by
  induction h with
  | nil => simp
  | @obtain log h ih =>
      have hnew : .obtained log.length ∉ log := fun hmem => Nat.lt_irrefl _ (h.numbered hmem)
      simp only [List.mem_append, List.mem_singleton, reduceCtorEq, or_false, ih,
        Event.obtained.injEq, ne_eq, not_false_eq_true, and_true, Option.some.injEq]
      grind
  | read _ ih => simp [ih]
  | @giveBack log held h ih =>
      have hheld := h.obtained held rfl
      simp only [List.mem_append, List.mem_singleton, Event.returned.injEq, ih, reduceCtorEq,
        or_false, ne_eq, not_false_eq_true, and_true, Option.some.injEq]
      grind

theorem held (h : Holds log loan) (hloan : loan.isSome) : Held log loan := by
  obtain ⟨number, rfl⟩ := Option.isSome_iff_exists.mp hloan
  exact ⟨number, rfl, h.obtained number rfl, fun hreturned => ((h.returned_iff number).mp hreturned).2 rfl⟩

theorem obeys (h : Holds log loan) : Obeys Allowed log := by
  induction h with
  | nil => exact obeys_nil _
  | obtain h ih =>
      exact (obeys_concat _ _ _).mpr ⟨ih, fun hmem => Nat.lt_irrefl _ (h.numbered hmem)⟩
  | read h ih | giveBack h ih => exact (obeys_concat _ _ _).mpr ⟨ih, h.held rfl⟩

/-- A borrower without a loan has given all of them back. -/
theorem balanced (h : Holds log none) : Balanced log where
  obeys := h.obeys
  returned_once number hobtained := by
    have hreturned := (h.returned_iff number).mpr ⟨hobtained, nofun⟩
    exact Nat.le_antisymm (count_returned_le h.obeys _) (List.one_le_count_iff.mpr hreturned)

end Holds

end Custody
