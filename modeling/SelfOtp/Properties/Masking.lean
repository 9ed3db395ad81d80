import SelfOtp.Model.Crypto

/-! What `maskPhoneNumber` hides of an accepted phone number. -/
namespace SelfOtp

theorem validateE164Phone_iff {phoneNumber : String} :
    validateE164Phone phoneNumber = true ↔ ∃ d ds, (trim phoneNumber).toList = '+' :: d :: ds ∧
      ('1' ≤ d ∧ d ≤ '9') ∧ (1 ≤ ds.length ∧ ds.length ≤ 14) ∧ ∀ c ∈ ds, '0' ≤ c ∧ c ≤ '9' := by
  unfold validateE164Phone
  split
  next d ds shape =>
    simp only [Bool.and_eq_true, decide_eq_true_eq, List.all_eq_true]
    constructor
    · rintro ⟨⟨⟨⟨low, high⟩, some⟩, few⟩, digits⟩
      exact ⟨d, ds, shape, ⟨low, high⟩, ⟨some, few⟩, digits⟩
    · rintro ⟨d', ds', same, ⟨low, high⟩, ⟨some, few⟩, digits⟩
      obtain ⟨-, rest⟩ := List.cons.inj (shape.symm.trans same)
      obtain ⟨rfl, rfl⟩ := List.cons.inj rest
      exact ⟨⟨⟨⟨low, high⟩, some⟩, few⟩, digits⟩
  next other =>
    constructor
    · intro accepted
      cases accepted
    · rintro ⟨d, ds, shape, -⟩
      exact absurd shape (other d ds)

/-- Nothing is trimmed off a text without spaces. -/
theorem trim_ofList {cs : List Char} (solid : ∀ c ∈ cs, isJsSpace c = false) :
    trim (String.ofList cs) = String.ofList cs := by
  have front {cs : List Char} (solid : ∀ c ∈ cs, isJsSpace c = false) :
      cs.dropWhile isJsSpace = cs := by
    cases cs with
    | nil => rfl
    | cons c cs => rw [List.dropWhile_cons_of_neg (by simp [solid c List.mem_cons_self])]
  have back : ∀ c ∈ cs.reverse, isJsSpace c = false := fun c member =>
    solid c (List.mem_reverse.mp member)
  rw [trim, String.toList_ofList, front solid, front back, List.reverse_reverse]

/-- A number of `+` and digits is accepted, and is its own trimmed text. -/
theorem accepted_ofList {d : Char} {ds : List Char} (first : '1' ≤ d ∧ d ≤ '9')
    (length : 1 ≤ ds.length ∧ ds.length ≤ 14) (digits : ∀ c ∈ ds, '0' ≤ c ∧ c ≤ '9') :
    validateE164Phone (String.ofList ('+' :: d :: ds)) = true ∧
      (trim (String.ofList ('+' :: d :: ds))).toList = '+' :: d :: ds := by
  have digit {c : Char} (low : '0' ≤ c) (high : c ≤ '9') : isJsSpace c = false := by
    have low : 48 ≤ c.toNat := low
    have high : c.toNat ≤ 57 := high
    simp only [isJsSpace, Bool.or_eq_false_iff, Bool.and_eq_false_iff, decide_eq_false_iff_not,
      beq_eq_false_iff_ne]
    omega
  have solid : ∀ c ∈ '+' :: d :: ds, isJsSpace c = false := by
    intro c member
    rcases List.mem_cons.mp member with rfl | member
    · rfl
    rcases List.mem_cons.mp member with rfl | member
    · exact digit (Char.le_trans (by decide : '0' ≤ '1') first.1) first.2
    · exact digit (digits c member).1 (digits c member).2
  have same : (trim (String.ofList ('+' :: d :: ds))).toList = '+' :: d :: ds := by
    rw [trim_ofList solid, String.toList_ofList]
  exact ⟨validateE164Phone_iff.mpr ⟨d, ds, same, first, length, digits⟩, same⟩

/-! ### The mask -/

/-- Of a number of `n` characters the mask shows those before `hiddenFrom n` and those from
`hiddenTo n` on. -/
def hiddenFrom (n : ℕ) : ℕ := if n ≤ 7 then 3 else 5

def hiddenTo (n : ℕ) : ℕ := if n ≤ 7 then n else n - 4

theorem hidden_iff {n : ℕ} (three : 3 ≤ n) :
    hiddenFrom n < hiddenTo n ↔ n ≠ 3 ∧ n ≠ 8 ∧ n ≠ 9 := by
  unfold hiddenFrom hiddenTo
  split <;> omega

theorem maskPhoneNumber_toList (phoneNumber : String) :
    let clean := (trim phoneNumber).toList
    (maskPhoneNumber phoneNumber).toList =
      clean.take (hiddenFrom clean.length) ++ ("***".toList ++ clean.drop (hiddenTo clean.length)) := by
  simp only [maskPhoneNumber, hiddenFrom, hiddenTo]
  split
  · rw [List.drop_length, List.append_nil, String.toList_append, String.toList_ofList]
  · simp only [String.toList_append, String.toList_ofList, List.append_assoc]

/-- Two numbers of one length have the same mask if and only if they agree on what it shows. -/
theorem maskPhoneNumber_eq_iff {p q : String} (length : (trim q).length = (trim p).length) :
    maskPhoneNumber q = maskPhoneNumber p ↔
      (trim q).toList.take (hiddenFrom (trim p).length) = (trim p).toList.take (hiddenFrom (trim p).length) ∧
      (trim q).toList.drop (hiddenTo (trim p).length) = (trim p).toList.drop (hiddenTo (trim p).length) := by
  have count (s : String) : s.toList.length = s.length := String.length_toList
  rw [← String.toList_inj, maskPhoneNumber_toList, maskPhoneNumber_toList, count, count, length]
  constructor
  · intro same
    obtain ⟨front, back⟩ := List.append_inj same (by
      rw [List.length_take, List.length_take, count, count, length])
    exact ⟨front, List.append_cancel_left back⟩
  · rintro ⟨front, back⟩
    rw [front, back]

/-- What is shown twice or not hidden at all gives the number away. -/
theorem eq_of_take_of_drop {α : Type} {xs ys : List α} {a b : ℕ} (covered : b ≤ a)
    (front : xs.take a = ys.take a) (back : xs.drop b = ys.drop b) : xs = ys := by
  have inner : xs.take b = ys.take b := by
    have cut (zs : List α) : (zs.take a).take b = zs.take b := by
      rw [List.take_take, Nat.min_eq_left covered]
    rw [← cut xs, front, cut ys]
  calc xs = xs.take b ++ xs.drop b := (List.take_append_drop b xs).symm
    _ = ys.take b ++ ys.drop b := by rw [inner, back]
    _ = ys := List.take_append_drop b ys

/-- Some digit other than `c`. -/
def otherDigit (c : Char) : Char := if c = '0' then '1' else '0'

theorem otherDigit_ne (c : Char) : otherDigit c ≠ c := by
  unfold otherDigit
  split
  next zero => exact zero ▸ by decide
  next apart => exact Ne.symm apart

theorem otherDigit_digit (c : Char) : '0' ≤ otherDigit c ∧ otherDigit c ≤ '9' := by
  unfold otherDigit
  split <;> decide

/-- Changing a hidden digit gives another accepted number with the same mask. -/
theorem mask_collision {p : String} (accepted : validateE164Phone p = true)
    (hidden : hiddenFrom (trim p).length < hiddenTo (trim p).length) :
    ∃ q, validateE164Phone q = true ∧ trim q ≠ trim p ∧ (trim q).length = (trim p).length ∧
      maskPhoneNumber q = maskPhoneNumber p := by
  obtain ⟨d, ds, shape, first, length, digits⟩ := validateE164Phone_iff.mp accepted
  have size : (trim p).length = ds.length + 2 := by
    rw [← String.length_toList, shape]
    rfl
  -- the first hidden character comes after the plus sign and the first digit
  obtain ⟨i, position⟩ : ∃ i, hiddenFrom (trim p).length = i + 2 :=
    ⟨hiddenFrom (trim p).length - 2, by unfold hiddenFrom; split <;> rfl⟩
  have inside : i < ds.length := by
    have bound : hiddenTo (trim p).length ≤ (trim p).length := by
      unfold hiddenTo
      split
      · exact le_rfl
      · exact Nat.sub_le _ _
    omega
  let ds' := ds.set i (otherDigit ds[i])
  have digits' : ∀ c ∈ ds', '0' ≤ c ∧ c ≤ '9' := by
    intro c member
    rcases List.mem_or_eq_of_mem_set member with old | rfl
    · exact digits c old
    · exact otherDigit_digit _
  have size' : ds'.length = ds.length := List.length_set
  obtain ⟨accepted', same⟩ := accepted_ofList first (size' ▸ length) digits'
  have set : '+' :: d :: ds' = ('+' :: d :: ds).set (i + 2) (otherDigit ds[i]) := rfl
  have length' : (trim (String.ofList ('+' :: d :: ds'))).length = (trim p).length := by
    rw [← String.length_toList, ← String.length_toList, same, shape, set, List.length_set]
  refine ⟨String.ofList ('+' :: d :: ds'), accepted', ?_, length', ?_⟩
  · intro equal
    have equal : '+' :: d :: ds' = '+' :: d :: ds := by rw [← same, equal, shape]
    have digits : ds' = ds := (List.cons.inj (List.cons.inj equal).2).2
    have digit : ds'[i]? = ds[i]? := by rw [digits]
    rw [List.getElem?_set_self inside, List.getElem?_eq_getElem inside] at digit
    exact otherDigit_ne _ (Option.some.inj digit)
  -- what is shown stands before and behind the digit
  · rw [maskPhoneNumber_eq_iff length', same, shape, set, ← position]
    exact ⟨List.take_set_of_le le_rfl, List.drop_set_of_lt hidden⟩

/-- The mask of an accepted number leaves another number of its length possible if and only if the
number has neither three, nor eight, nor nine characters. -/
theorem mask_hides_iff {p : String} (accepted : validateE164Phone p = true) :
    (∃ q, validateE164Phone q = true ∧ trim q ≠ trim p ∧ (trim q).length = (trim p).length ∧
      maskPhoneNumber q = maskPhoneNumber p) ↔
    (trim p).length ≠ 3 ∧ (trim p).length ≠ 8 ∧ (trim p).length ≠ 9 := by
  have three : 3 ≤ (trim p).length := by
    obtain ⟨d, ds, shape, -, length, -⟩ := validateE164Phone_iff.mp accepted
    rw [← String.length_toList, shape]
    simp only [List.length_cons]
    omega
  rw [← hidden_iff three]
  constructor
  · rintro ⟨q, -, apart, length, same⟩
    by_contra covered
    obtain ⟨front, back⟩ := (maskPhoneNumber_eq_iff length).mp same
    exact apart (String.toList_inj.mp (eq_of_take_of_drop (Nat.not_lt.mp covered) front back))
  · exact mask_collision accepted

/-- A number of ten characters is hidden in part. -/
theorem mask_hides_of_ten :
    validateE164Phone "+491511234" = true ∧
    ∃ q, validateE164Phone q = true ∧ trim q ≠ trim "+491511234" ∧
      (trim q).length = (trim "+491511234").length ∧
      maskPhoneNumber q = maskPhoneNumber "+491511234" :=
  ⟨by decide, (mask_hides_iff (by decide)).mpr (by decide)⟩

/-- The mask of a number of eight characters shows it whole. -/
theorem mask_shows_eight :
    validateE164Phone "+1234567" = true ∧ maskPhoneNumber "+1234567" = "+1234***4567" ∧
    ¬ ∃ q, validateE164Phone q = true ∧ trim q ≠ trim "+1234567" ∧
      (trim q).length = (trim "+1234567").length ∧ maskPhoneNumber q = maskPhoneNumber "+1234567" := by
  refine ⟨by decide, by decide, ?_⟩
  rintro ⟨q, -, apart, length, same⟩
  have covered : hiddenTo (trim "+1234567").length ≤ hiddenFrom (trim "+1234567").length := by decide
  obtain ⟨front, back⟩ := (maskPhoneNumber_eq_iff length).mp same
  exact apart (String.toList_inj.mp (eq_of_take_of_drop covered front back))

end SelfOtp
