import SelfOtp.Lib.Json

/-! UTF-16 without lone surrogates: an API that encodes such a string loses nothing. -/
namespace SelfOtp

theorem forall_mem_of_all {α : Type} {P : α → Prop} [DecidablePred P] {l : List α}
    (all : (l.all fun a => decide (P a)) = true) : ∀ a ∈ l, P a :=
  fun a member => of_decide_eq_true (List.all_eq_true.mp all a member)

namespace JsString

/-- No surrogate stands alone. -/
def WellFormed : JsString → Prop
  | [] => True
  | [u] => isHigh u = false ∧ isLow u = false
  | u :: v :: rest =>
    if isHigh u && isLow v then WellFormed rest
    else isHigh u = false ∧ isLow u = false ∧ WellFormed (v :: rest)

theorem WellFormed.of_plain {s : JsString} (plain : ∀ u ∈ s, isHigh u = false ∧ isLow u = false) :
    WellFormed s := by
  induction s with
  | nil => trivial
  | cons u rest ih =>
    have first := plain u List.mem_cons_self
    have others := ih fun v member => plain v (List.mem_cons_of_mem u member)
    cases rest with
    | nil => exact first
    | cons v rest =>
      simpa only [WellFormed, first.1, Bool.false_and, Bool.false_eq_true, if_false] using
        ⟨trivial, first.2, others⟩

theorem WellFormed.append {s t : JsString} (left : WellFormed s) (right : WellFormed t) :
    WellFormed (s ++ t) := by
  fun_induction WellFormed s with
  | case1 => exact right
  | case2 u =>
    cases t with
    | nil => exact left
    | cons v rest =>
      simpa only [List.cons_append, List.nil_append, WellFormed, left.1, Bool.false_and,
        Bool.false_eq_true, if_false] using ⟨trivial, left.2, right⟩
  | case3 u v rest pair ih => simpa only [List.cons_append, WellFormed, pair, if_true] using ih left
  | case4 u v rest lone ih =>
    simpa only [List.cons_append, WellFormed, lone, if_false] using ⟨left.1, left.2.1, ih left.2.2⟩

/-- The code units of a character. -/
def unitsOf (c : Char) : JsString :=
  if c.toNat < 0x10000 then [c.toNat.toUInt16]
  else [(0xD800 + (c.toNat - 0x10000) / 0x400).toUInt16, (0xDC00 + (c.toNat - 0x10000) % 0x400).toUInt16]

theorem ofString_eq (s : String) : ofString s = s.toList.flatMap unitsOf := rfl

theorem isHigh_iff {u : UInt16} : isHigh u = true ↔ 0xD800 ≤ u.toNat ∧ u.toNat ≤ 0xDBFF := by
  rw [isHigh, Bool.and_eq_true, decide_eq_true_iff, decide_eq_true_iff, UInt16.le_iff_toNat_le,
    UInt16.le_iff_toNat_le]
  rfl

theorem isLow_iff {u : UInt16} : isLow u = true ↔ 0xDC00 ≤ u.toNat ∧ u.toNat ≤ 0xDFFF := by
  rw [isLow, Bool.and_eq_true, decide_eq_true_iff, decide_eq_true_iff, UInt16.le_iff_toNat_le,
    UInt16.le_iff_toNat_le]
  rfl

theorem toNat_ofNat {n : ℕ} (valid : n.isValidChar) : (Char.ofNat n).toNat = n := by
  rw [Char.ofNat, dif_pos valid]
  rfl

theorem unitsOf_unit {u : UInt16} (high : isHigh u = false) (low : isLow u = false) :
    unitsOf (Char.ofNat u.toNat) = [u] := by
  have notHigh := (not_congr isHigh_iff).mp (Bool.eq_false_iff.mp high)
  have notLow := (not_congr isLow_iff).mp (Bool.eq_false_iff.mp low)
  have below := u.toNat_lt
  have valid : u.toNat.isValidChar := by
    unfold Nat.isValidChar
    omega
  rw [unitsOf, toNat_ofNat valid, if_pos below, Nat.toUInt16_eq, UInt16.ofNat_toNat]

theorem unitsOf_pair {u v : UInt16} (high : isHigh u = true) (low : isLow v = true) :
    unitsOf (Char.ofNat (0x10000 + (u.toNat - 0xD800) * 0x400 + (v.toNat - 0xDC00))) = [u, v] := by
  obtain ⟨lower, upper⟩ := isHigh_iff.mp high
  obtain ⟨lower', upper'⟩ := isLow_iff.mp low
  -- 20 bits, ten from each surrogate
  have valid : (0x10000 + (u.toNat - 0xD800) * 0x400 + (v.toNat - 0xDC00)).isValidChar := by
    unfold Nat.isValidChar
    omega
  have first : 0xD800 + (0x10000 + (u.toNat - 0xD800) * 0x400 + (v.toNat - 0xDC00) - 0x10000) / 0x400 =
      u.toNat := by omega
  have second : 0xDC00 + (0x10000 + (u.toNat - 0xD800) * 0x400 + (v.toNat - 0xDC00) - 0x10000) % 0x400 =
      v.toNat := by omega
  rw [unitsOf, toNat_ofNat valid, if_neg (by omega), first, second, Nat.toUInt16_eq, Nat.toUInt16_eq,
    UInt16.ofNat_toNat, UInt16.ofNat_toNat]

/-- The text that an API makes of a well-formed string has the same code units. -/
theorem ofString_asString {s : JsString} (wellFormed : WellFormed s) : ofString (asString s) = s := by
  rw [ofString_eq, asString, String.toList_ofList]
  fun_induction codePoints s with
  | case1 => rfl
  | case2 u =>
    simp only [wellFormed.1, wellFormed.2, Bool.or_self, Bool.false_eq_true, if_false, List.map_cons,
      List.map_nil, List.flatMap_cons, List.flatMap_nil, unitsOf_unit wellFormed.1 wellFormed.2,
      List.append_nil]
  -- a pair is one character, and a unit that stands alone is one as well
  | case3 u v rest pair ih =>
    obtain ⟨high, low⟩ := (Bool.and_eq_true _ _).mp pair
    rw [WellFormed, if_pos pair] at wellFormed
    rw [List.map_cons, List.flatMap_cons, unitsOf_pair high low, ih wellFormed]
    rfl
  | case4 u v rest lone ih =>
    rw [WellFormed, if_neg lone] at wellFormed
    obtain ⟨high, low, others⟩ := wellFormed
    simp only [high, low, Bool.or_self, Bool.false_eq_true, if_false]
    rw [List.map_cons, List.flatMap_cons, unitsOf_unit high low, ih others]
    rfl

theorem asString_injective {s t : JsString} (left : WellFormed s) (right : WellFormed t)
    (same : asString s = asString t) : s = t := by
  rw [← ofString_asString left, ← ofString_asString right, same]

end JsString

end SelfOtp
