import Mathlib.Algebra.BigOperators.Group.List.Basic
import Mathlib.Algebra.Group.Basic
import Mathlib.Tactic.Abel

/-! Ledgers: entries that each record the balance before and after. -/
namespace SelfOtp.Ledger

variable {ε β : Type} {before after : ε → β} {start middle final : β} {entries : List ε} {e : ε}

/-- The entries, in order, lead from the first balance to the last. -/
def Leads (before after : ε → β) (start : β) : List ε → β → Prop
  | [], final => final = start
  | e :: entries, final => before e = start ∧ Leads before after (after e) entries final

/-- An entry is appended. -/
theorem Leads.append (leads : Leads before after start entries (before e)) :
    Leads before after start (entries ++ [e]) (after e) := by
  induction entries generalizing start with
  | nil => exact ⟨leads, rfl⟩
  | cons first rest ih => exact ⟨leads.1, ih leads.2⟩

/-- The changes that the entries record add up to the change of the balance. -/
theorem Leads.sum [AddCommGroup β] (leads : Leads before after start entries final) :
    final = start + (entries.map fun e => after e - before e).sum := by
  induction entries generalizing start with
  | nil => simpa [Leads] using leads
  | cons first rest ih =>
    obtain ⟨from_start, leads⟩ := leads
    rw [ih leads, List.map_cons, List.sum_cons, from_start]
    abel

end SelfOtp.Ledger
