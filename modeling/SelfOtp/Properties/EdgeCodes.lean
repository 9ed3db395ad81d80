import Mathlib.Data.FinEnum
import Mathlib.Data.Fintype.BigOperators
import Mathlib.Data.Int.CardIntervalMod
import SelfOtp.Model.EdgeOtp

/-! How many byte arrays the loop of the Edge `generateOtp` maps to each code. -/
namespace SelfOtp.Edge

/-! ### The loop as a function of the byte array -/

/-- The `d`-th character of `digits`. -/
def digitUnit (d : ℕ) : UInt16 := (0x30 + d).toUInt16

/-- The code of the given digits: for `n` of them there are `10 ^ n`. -/
def otpCode {n : ℕ} (digits : Fin n → Fin 10) : JsString := List.ofFn fun i => digitUnit (digits i)

/-- The byte arrays that the loop maps to `code`. -/
def arraysGiving (n : ℕ) (code : JsString) : Finset (Fin n → UInt8) :=
  Finset.univ.filter fun bytes => otpDigits (List.ofFn bytes) n = code

theorem digitUnit_inj {a b : ℕ} (small : a < 10) (small' : b < 10) :
    digitUnit a = digitUnit b ↔ a = b := by
  constructor
  · intro same
    have same : (digitUnit a).toNat = (digitUnit b).toNat := by rw [same]
    simp only [digitUnit, Nat.toUInt16, UInt16.toNat_ofNat'] at same
    omega
  · rintro rfl
    rfl

/-- The loop appends one digit for each byte. -/
theorem otpDigits_ofFn {n : ℕ} (bytes : Fin n → UInt8) :
    otpDigits (List.ofFn bytes) n = List.ofFn fun i => digitUnit ((bytes i).toNat % 10) := by
  have each (i : Fin n) :
      otpDigit (List.ofFn bytes) i = [digitUnit ((bytes i).toNat % 10)] := by
    have read : (List.ofFn bytes)[i.val]? = some (bytes i) := by simp
    simp only [otpDigit, read, digitUnit]
  calc otpDigits (List.ofFn bytes) n
      = (List.finRange n).flatMap fun i : Fin n => otpDigit (List.ofFn bytes) i.val := by
        rw [otpDigits, ← List.map_coe_finRange_eq_range, List.flatMap_map]
    _ = (List.finRange n).map fun i : Fin n => digitUnit ((bytes i).toNat % 10) := by
        simp only [each, List.map_eq_flatMap]
    _ = List.ofFn fun i => digitUnit ((bytes i).toNat % 10) := (List.ofFn_eq_map).symm

theorem mem_arraysGiving {n : ℕ} {digits : Fin n → Fin 10} {bytes : Fin n → UInt8} :
    bytes ∈ arraysGiving n (otpCode digits) ↔ ∀ i, (bytes i).toNat % 10 = digits i := by
  rw [arraysGiving, Finset.mem_filter_univ, otpDigits_ofFn, otpCode, List.ofFn_inj, funext_iff]
  exact forall_congr' fun i => digitUnit_inj (Nat.mod_lt _ (by decide)) (digits i).isLt

/-! ### Counting -/

/-- Of the 256 bytes 26 leave a remainder up to 5, and 25 one of the others. -/
theorem card_bytes (d : Fin 10) :
    (Finset.univ.filter fun b : UInt8 => b.toNat % 10 = d).card = if d.val < 6 then 26 else 25 := by
  have moved : (Finset.univ.filter fun b : UInt8 => b.toNat % 10 = d).card =
      ((Finset.range 256).filter fun k => k ≡ d.val [MOD 10]).card := by
    apply Finset.card_bij fun b _ => b.toNat
    · intro b member
      have here := (Finset.mem_filter_univ _).mp member
      refine Finset.mem_filter.mpr ⟨Finset.mem_range.mpr b.toNat_lt, ?_⟩
      rw [Nat.ModEq, here, Nat.mod_eq_of_lt d.isLt]
    · intro a _ b _ same
      exact UInt8.toNat_inj.mp same
    · intro k member
      obtain ⟨small, here⟩ := Finset.mem_filter.mp member
      have small : k < 256 := Finset.mem_range.mp small
      have back : (UInt8.ofNat k).toNat = k := UInt8.toNat_ofNat_of_lt small
      refine ⟨UInt8.ofNat k, (Finset.mem_filter_univ _).mpr ?_, back⟩
      rw [back, here, Nat.mod_eq_of_lt d.isLt]
  -- 256 = 25 * 10 + 6
  rw [moved, ← Nat.count_eq_card_filter_range, Nat.count_modEq_card _ (by decide),
    Nat.mod_eq_of_lt d.isLt]
  split <;> rfl

/-- A code is given by 26 bytes for each of its digits up to 5, and by 25 for each other. -/
theorem card_arraysGiving {n : ℕ} (digits : Fin n → Fin 10) :
    (arraysGiving n (otpCode digits)).card = ∏ i, if (digits i).val < 6 then 26 else 25 := by
  -- each byte is chosen for its own digit
  have boxes : arraysGiving n (otpCode digits) =
      Fintype.piFinset fun i => Finset.univ.filter fun b : UInt8 => b.toNat % 10 = digits i := by
    ext bytes
    simp only [mem_arraysGiving, Fintype.mem_piFinset, Finset.mem_filter_univ]
  rw [boxes, Fintype.card_piFinset]
  exact Finset.prod_congr rfl fun i _ => card_bytes (digits i)

/-- The code of one digit `d`, `n` times. -/
theorem card_arraysGiving_const (n : ℕ) (d : Fin 10) :
    (arraysGiving n (otpCode fun _ : Fin n => d)).card = (if d.val < 6 then 26 else 25) ^ n := by
  rw [card_arraysGiving, Finset.prod_const, Finset.card_fin]

/-- The codes are uniform for no length: the code of zeros has more byte arrays than the code of
nines. -/
theorem otpDigits_not_uniform {n : ℕ} (pos : 1 ≤ n) :
    ¬ ∀ digits digits' : Fin n → Fin 10,
      (arraysGiving n (otpCode digits)).card = (arraysGiving n (otpCode digits')).card := by
  intro uniform
  have same := uniform (fun _ => 0) (fun _ => 9)
  rw [card_arraysGiving_const, card_arraysGiving_const] at same
  have less : 25 ^ n < 26 ^ n := Nat.pow_lt_pow_left (by decide) (Nat.pos_iff_ne_zero.mp pos)
  exact absurd same less.ne'

theorem otpDigits_not_uniform_six :
    1 ≤ 6 ∧ ¬ ∀ digits digits' : Fin 6 → Fin 10,
      (arraysGiving 6 (otpCode digits)).card = (arraysGiving 6 (otpCode digits')).card :=
  ⟨by decide, otpDigits_not_uniform (by decide)⟩

/-- Of one byte 26 values give the code `0`, and 25 the code `9`. -/
theorem zero_likelier_than_nine :
    (arraysGiving 1 (js "0")).card = 26 ∧ (arraysGiving 1 (js "9")).card = 25 :=
  ⟨card_arraysGiving_const 1 0, card_arraysGiving_const 1 9⟩

end SelfOtp.Edge
