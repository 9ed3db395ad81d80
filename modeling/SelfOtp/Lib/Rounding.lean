import Mathlib.Data.Rat.Floor
import Mathlib.Tactic.FieldSimp
import Mathlib.Tactic.Linarith
import Mathlib.Tactic.Ring

/-! Fixed-point arithmetic: rounding rationals to a grid of `1/n`, halves upwards. -/
namespace SelfOtp.Rounding

/-- Nearest multiple of `1/n`; a tie goes up. -/
def roundTo (n : ℕ) (x : ℚ) : ℚ := (⌊x * n + 1 / 2⌋ : ℚ) / n

def OnGrid (n : ℕ) (x : ℚ) : Prop := ∃ z : ℤ, x = z / n

variable {n : ℕ} {a b x : ℚ}

theorem onGrid_roundTo : OnGrid n (roundTo n x) := ⟨⌊x * n + 1 / 2⌋, rfl⟩

theorem onGrid_intCast (h : 0 < n) (z : ℤ) : OnGrid n (z : ℚ) := by
  refine ⟨z * n, ?_⟩
  have : (n : ℚ) ≠ 0 := by exact_mod_cast h.ne'
  push_cast
  field_simp

theorem OnGrid.add (ha : OnGrid n a) (hb : OnGrid n b) : OnGrid n (a + b) := by
  obtain ⟨y, rfl⟩ := ha
  obtain ⟨z, rfl⟩ := hb
  exact ⟨y + z, by push_cast; ring⟩

theorem OnGrid.neg (ha : OnGrid n a) : OnGrid n (-a) := by
  obtain ⟨y, rfl⟩ := ha
  exact ⟨-y, by push_cast; ring⟩

theorem OnGrid.sub (ha : OnGrid n a) (hb : OnGrid n b) : OnGrid n (a - b) := by
  simpa only [sub_eq_add_neg] using ha.add hb.neg

theorem roundTo_nonneg (h : 0 ≤ x) : 0 ≤ roundTo n x := by
  have scaled : 0 ≤ x * n + 1 / 2 := by positivity
  have floored : (0 : ℚ) ≤ ⌊x * n + 1 / 2⌋ := by exact_mod_cast Int.floor_nonneg.mpr scaled
  exact div_nonneg floored (Nat.cast_nonneg n)

/-- A summand on the grid passes through rounding. -/
theorem roundTo_add (h : 0 < n) (ha : OnGrid n a) : roundTo n (a + x) = a + roundTo n x := by
  obtain ⟨z, rfl⟩ := ha
  have nonzero : (n : ℚ) ≠ 0 := by exact_mod_cast h.ne'
  have scaled : ((z : ℚ) / n + x) * n + 1 / 2 = (x * n + 1 / 2) + (z : ℤ) := by
    field_simp
    ring
  simp only [roundTo, scaled, Int.floor_add_intCast]
  push_cast
  ring

theorem roundTo_of_onGrid (h : 0 < n) (ha : OnGrid n a) : roundTo n a = a := by
  have zero : roundTo n 0 = 0 := by
    have : ⌊(0 : ℚ) * n + 1 / 2⌋ = 0 := by
      rw [Int.floor_eq_zero_iff]
      constructor <;> norm_num
    rw [roundTo, this, Int.cast_zero, zero_div]
  simpa [zero] using roundTo_add (x := 0) h ha

end SelfOtp.Rounding
