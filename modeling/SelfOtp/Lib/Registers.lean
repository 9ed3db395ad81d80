import Mathlib.Data.List.Basic
import Mathlib.Logic.Function.Basic

/-! Sequences of writes to registers, and of reports that count only once. -/
namespace SelfOtp.Registers

variable {α κ ν : Type} [DecidableEq κ]

/-! ### Last writes -/

/-- What the last write to the register wrote. -/
def lastWrite (k : κ) : List (κ × ν) → Option ν
  | [] => none
  | w :: rest => (lastWrite k rest).or (if w.1 = k then some w.2 else none)

theorem lastWrite_isSome {k : κ} {writes : List (κ × ν)} :
    (lastWrite k writes).isSome ↔ ∃ w ∈ writes, w.1 = k := by
  induction writes with
  | nil => simp [lastWrite]
  | cons w rest ih =>
    rw [lastWrite, Option.isSome_or, Bool.or_eq_true, ih]
    by_cases own : w.1 = k
    · simp [own]
    · simp [own]

/-- A register that is overwritten holds the last write, or else what it held before. -/
theorem lastWrite_getD {k : κ} (w : κ × ν) (rest : List (κ × ν)) (old : ν) :
    (lastWrite k rest).getD (if w.1 = k then w.2 else old) = (lastWrite k (w :: rest)).getD old := by
  rw [lastWrite]
  cases lastWrite k rest with
  | some v => rfl
  | none =>
    by_cases own : w.1 = k
    · simp [own]
    · simp [own]

/-! ### First reports -/

/-- The elements whose key has not been seen, neither before nor earlier in the sequence. -/
def fresh (key : α → κ) (seen : κ → Bool) : List α → List α
  | [] => []
  | a :: rest =>
    if seen (key a) then fresh key seen rest
    else a :: fresh key (Function.update seen (key a) true) rest

variable {key : α → κ} {seen : κ → Bool}

theorem fresh_seen {a : α} {rest : List α} (before : seen (key a) = true) :
    fresh key seen (a :: rest) = fresh key seen rest := if_pos before

theorem fresh_new {a : α} {rest : List α} (new : seen (key a) = false) :
    fresh key seen (a :: rest) = a :: fresh key (Function.update seen (key a) true) rest :=
  if_neg (by simp [new])

/-- Every key of the sequence that has not been seen before has its report. -/
theorem exists_fresh {P : κ → Prop} {elements : List α} :
    (∃ a ∈ fresh key seen elements, P (key a)) ↔
      ∃ a ∈ elements, seen (key a) = false ∧ P (key a) := by
  induction elements generalizing seen with
  | nil => simp [fresh]
  | cons a rest ih =>
    cases before : seen (key a) with
    | true =>
      rw [fresh_seen before, ih]
      simp [before]
    | false =>
      rw [fresh_new before]
      simp only [List.mem_cons, exists_eq_or_imp, ih, before, true_and]
      by_cases own : P (key a)
      · simp [own]
      · have others (b : α) : Function.update seen (key a) true (key b) = false ∧ P (key b) ↔
            seen (key b) = false ∧ P (key b) := by
          by_cases same : key b = key a
          · simp [same, own]
          · rw [Function.update_of_ne same]
        simp only [own, others]

end SelfOtp.Registers
