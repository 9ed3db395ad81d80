import Mathlib.Data.Nat.Notation
import Mathlib.Logic.Function.Basic
import Mathlib.Order.Defs.LinearOrder

/-! Codes that are good for one use, up to a time, and for a number of tries. -/
namespace SelfOtp.CodeStore

variable {κ γ ρ τ : Type}

/-- A code that has been put under a key; `reference` is handed back with its use. -/
structure Entry (γ ρ τ : Type) where
  code : γ
  reference : ρ
  expiresAt : τ
  wrong : ℕ

inductive Answer (ρ : Type) where
  | absent
  | wrong (remaining : ℕ)
  | exhausted
  | accepted (reference : ρ)
  deriving DecidableEq

abbrev Store (κ γ ρ τ : Type) := κ → Option (Entry γ ρ τ)

/-- The code that can be used at a time. -/
def live [LE τ] [DecidableLE τ] (s : Store κ γ ρ τ) (now : τ) (key : κ) : Option (Entry γ ρ τ) :=
  (s key).filter fun e => now ≤ e.expiresAt

/-- The latest code of a key replaces the one before. -/
def put [DecidableEq κ] (s : Store κ γ ρ τ) (key : κ) (code : γ) (reference : ρ) (expiresAt : τ) :
    Store κ γ ρ τ :=
  Function.update s key (some ⟨code, reference, expiresAt, 0⟩)

/-- A try. The right code is used up, and so is one whose last try fails. -/
def submit [DecidableEq κ] [DecidableEq γ] [LE τ] [DecidableLE τ] (max : ℕ) (s : Store κ γ ρ τ) (now : τ)
    (key : κ) (code : γ) : Store κ γ ρ τ × Answer ρ :=
  match live s now key with
  | none => (s, .absent)
  | some e =>
    if code = e.code then (Function.update s key none, .accepted e.reference)
    else if max ≤ e.wrong + 1 then (Function.update s key none, .exhausted)
    else (Function.update s key (some { e with wrong := e.wrong + 1 }), .wrong (max - (e.wrong + 1)))

section Rules

variable [DecidableEq κ] [DecidableEq γ] [LE τ] [DecidableLE τ] {s : Store κ γ ρ τ} {now : τ}
  {key other : κ} {code : γ} {max : ℕ} {e : Entry γ ρ τ}

omit [DecidableEq κ] [DecidableEq γ] in
theorem live_eq_some : live s now key = some e ↔ s key = some e ∧ now ≤ e.expiresAt := by
  simp [live, Option.filter_eq_some_iff]

/-- What a try finds, and what it leaves. -/
theorem submit_cases (max : ℕ) (s : Store κ γ ρ τ) (now : τ) (key : κ) (code : γ) :
    live s now key = none ∧ submit max s now key code = (s, .absent) ∨
      ∃ e, live s now key = some e ∧
        (code = e.code ∧ submit max s now key code = (Function.update s key none, .accepted e.reference) ∨
          code ≠ e.code ∧ max ≤ e.wrong + 1 ∧
            submit max s now key code = (Function.update s key none, .exhausted) ∨
          code ≠ e.code ∧ e.wrong + 1 < max ∧ submit max s now key code =
            (Function.update s key (some { e with wrong := e.wrong + 1 }), .wrong (max - (e.wrong + 1)))) := by
  unfold submit
  cases found : live s now key with
  | none => exact Or.inl ⟨rfl, rfl⟩
  | some e =>
    refine Or.inr ⟨e, rfl, ?_⟩
    by_cases right : code = e.code
    · simp [right]
    · by_cases last : max ≤ e.wrong + 1
      · simp [right, last]
      · simp [right, last, Nat.not_le.mp last]

/-- A try on one key leaves all other keys as they are. -/
theorem submit_other (apart : other ≠ key) : (submit max s now key code).1 other = s other := by
  rcases submit_cases max s now key code with ⟨-, same⟩ | ⟨e, -, ⟨-, same⟩ | ⟨-, -, same⟩ | ⟨-, -, same⟩⟩ <;>
    simp [same, apart]

end Rules

end SelfOtp.CodeStore
