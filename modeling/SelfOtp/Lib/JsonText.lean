import Mathlib.Tactic.IntervalCases
import SelfOtp.Lib.Utf16

/-! JSON texts: `stringify` writes no two values alike, an infinite number apart. -/
namespace SelfOtp.Json

/-! ### String literals -/

def hexValue (u : UInt16) : ℕ := if u < 0x3A then u.toNat - 0x30 else u.toNat - 0x57

theorem hexValue_lowerHex {n : ℕ} (digit : n < 16) : hexValue (lowerHex n) = n := by
  interval_cases n <;> rfl

/-- The unit that `\e` stands for. -/
def unescape (e : UInt16) : UInt16 :=
  if e = 0x62 then 0x08
  else if e = 0x66 then 0x0C
  else if e = 0x6E then 0x0A
  else if e = 0x72 then 0x0D
  else if e = 0x74 then 0x09
  else e

/-- Reads one unit of a string literal; `none` at the end of the literal. -/
def readUnit : JsString → Option (UInt16 × JsString)
  | 0x22 :: _ => none
  | 0x5C :: 0x75 :: a :: b :: c :: d :: rest =>
    some ((hexValue a * 0x1000 + hexValue b * 0x100 + hexValue c * 16 + hexValue d).toUInt16, rest)
  | 0x5C :: e :: rest => some (unescape e, rest)
  | u :: rest => some (u, rest)
  | [] => none

theorem readUnit_plain {u : UInt16} {r : JsString} (quotation : u ≠ 0x22) (backslash : u ≠ 0x5C) :
    readUnit (u :: r) = some (u, r) := by
  simp [readUnit, backslash]

theorem readUnit_escapeUnit (u : UInt16) (r : JsString) :
    readUnit (escapeUnit u ++ r) = some (u, r) := by
  have below := u.toNat_lt
  -- the four digits put together again
  have digits : u.toNat / 0x1000 * 0x1000 + u.toNat / 0x100 % 16 * 0x100 + u.toNat / 16 % 16 * 16 +
      u.toNat % 16 = u.toNat := by omega
  change some ((_ : ℕ).toUInt16, r) = _
  rw [hexValue_lowerHex (by omega), hexValue_lowerHex (by omega), hexValue_lowerHex (by omega),
    hexValue_lowerHex (by omega), digits, Nat.toUInt16_eq, UInt16.ofNat_toNat]

theorem readUnit_quoteUnit (u : UInt16) (r : JsString) : readUnit (quoteUnit u ++ r) = some (u, r) := by
  unfold quoteUnit
  -- one case for each escape, and the last for a unit that stands for itself
  split_ifs with quotation backslash backspace formFeed lineFeed carriageReturn tab
  · rw [quotation]
    rfl
  · rw [backslash]
    rfl
  · rw [backspace]
    rfl
  · rw [formFeed]
    rfl
  · rw [lineFeed]
    rfl
  · rw [carriageReturn]
    rfl
  · rw [tab]
    rfl
  · exact readUnit_escapeUnit u r
  · exact readUnit_plain quotation backslash

theorem readUnit_surrogate {u : UInt16} {r : JsString}
    (surrogate : JsString.isHigh u = true ∨ JsString.isLow u = true) : readUnit (u :: r) = some (u, r) := by
  apply readUnit_plain <;> rintro rfl <;> revert surrogate <;> decide

/-- The text, without its quotation marks, is a literal of the string. -/
inductive Literal : JsString → JsString → Prop
  | nil : Literal [] []
  | cons {u : UInt16} {s piece text : JsString} (reads : ∀ r, readUnit (piece ++ r) = some (u, r))
      (rest : Literal s text) : Literal (u :: s) (piece ++ text)

theorem literal_quoted (s : JsString) : Literal s (quoted s) := by
  fun_induction quoted s with
  | case1 => exact .nil
  | case2 u =>
    have one := Literal.cons (readUnit_quoteUnit u) .nil
    rwa [List.append_nil] at one
  -- both surrogates of a pair stand for themselves
  | case3 u v rest pair ih =>
    obtain ⟨high, low⟩ := (Bool.and_eq_true _ _).mp pair
    change Literal (u :: v :: rest) ([u] ++ ([v] ++ quoted rest))
    exact .cons (fun _ => readUnit_surrogate (.inl high)) (.cons (fun _ => readUnit_surrogate (.inr low)) ih)
  | case4 u v rest lone ih => exact .cons (readUnit_quoteUnit u) ih

/-- A literal ends at its quotation mark, and is one of a single string. -/
theorem Literal.unique {s s' text text' r r' : JsString} (first : Literal s text)
    (second : Literal s' text') (same : text ++ 0x22 :: r = text' ++ 0x22 :: r') : s = s' ∧ r = r' := by
  -- unit by unit, for all literals that the second one may be
  induction first generalizing s' text' with
  | nil =>
    cases second with
    | nil => exact ⟨rfl, (List.cons.inj same).2⟩
    | cons reads _ =>
      -- one literal has ended where the other has another unit
      rw [List.nil_append, List.append_assoc] at same
      have ended := (congrArg readUnit same).trans (reads _)
      cases ended
  | cons reads _ ih =>
    cases second with
    | nil =>
      rw [List.nil_append, List.append_assoc] at same
      have ended := (reads _).symm.trans (congrArg readUnit same)
      cases ended
    | cons reads' rest' =>
      rw [List.append_assoc, List.append_assoc] at same
      have read := (reads _).symm.trans ((congrArg readUnit same).trans (reads' _))
      obtain ⟨rfl, same⟩ := Prod.mk.inj (Option.some.inj read)
      obtain ⟨rfl, rfl⟩ := ih rest' same
      exact ⟨rfl, rfl⟩

theorem quote_append (s r : JsString) : quote s ++ r = 0x22 :: (quoted s ++ 0x22 :: r) := by
  rw [quote, List.append_assoc, List.append_assoc]
  rfl

theorem quote_append_inj {s s' r r' : JsString} (same : quote s ++ r = quote s' ++ r') :
    s = s' ∧ r = r' := by
  rw [quote_append, quote_append] at same
  exact (literal_quoted s).unique (literal_quoted s') (List.cons.inj same).2

/-! ### Lists of texts -/

section Separated

variable {α : Type} {text : α → JsString} {xs ys : List α} {r r' : JsString}

/-- What may stand after a value: a comma, `]` or a brace. -/
def Delimited (r : JsString) : Prop := ∀ u ∈ r.head?, u = 0x2C ∨ u = 0x5D ∨ u = 0x7D

theorem Delimited.cons {u : UInt16} (delimiter : u = 0x2C ∨ u = 0x5D ∨ u = 0x7D) (r : JsString) :
    Delimited (u :: r) := by
  rintro v ⟨⟩
  exact delimiter

theorem Delimited.nil : Delimited [] := by rintro u ⟨⟩

/-- The texts of `a` and of `b` differ before they end, or are one text of one value. -/
def Splits (text : α → JsString) (a b : α) : Prop :=
  ∀ r r', Delimited r → Delimited r' → text a ++ r = text b ++ r' → a = b ∧ r = r'

def separated (text : α → JsString) : List α → JsString
  | [] => []
  | [a] => text a
  | a :: rest => text a ++ js "," ++ separated text rest

/-- What follows the first of the texts. -/
def remaining (text : α → JsString) : List α → JsString → JsString
  | [], r => r
  | b :: rest, r => 0x2C :: (separated text (b :: rest) ++ r)

theorem separated_cons_append (text : α → JsString) (a : α) (rest : List α) (r : JsString) :
    separated text (a :: rest) ++ r = text a ++ remaining text rest r := by
  cases rest with
  | nil => rfl
  | cons b rest =>
    rw [separated, List.append_assoc, List.append_assoc]
    · rfl
    · rintro ⟨⟩

theorem Delimited.remaining (delimited : Delimited r) (rest : List α) :
    Delimited (remaining text rest r) := by
  cases rest with
  | nil => exact delimited
  | cons b rest => exact .cons (.inl rfl) _

/-- A separated list ends at its closing unit, and is one of a single list. -/
theorem separated_inj {close : UInt16} (closes : close = 0x5D ∨ close = 0x7D)
    (splits : ∀ a ∈ xs, ∀ b ∈ ys, Splits text a b)
    (opens : ∀ a ∈ xs, ∀ r, ¬ Delimited (text a ++ r)) (opens' : ∀ b ∈ ys, ∀ r, ¬ Delimited (text b ++ r))
    (same : separated text xs ++ close :: r = separated text ys ++ close :: r') : xs = ys ∧ r = r' := by
  have ends (r : JsString) : Delimited (close :: r) := .cons (.inr closes) r
  have noComma : close ≠ 0x2C := by rcases closes with rfl | rfl <;> decide
  induction xs generalizing ys with
  | nil =>
    cases ys with
    | nil => exact ⟨rfl, (List.cons.inj same).2⟩
    | cons b ys =>
      rw [separated_cons_append] at same
      -- a text does not open with the unit that closes the list
      exact absurd ((congrArg Delimited same).mp (ends r)) (opens' b List.mem_cons_self _)
  | cons a xs ih =>
    cases ys with
    | nil =>
      rw [separated_cons_append] at same
      exact absurd ((congrArg Delimited same).mpr (ends r')) (opens a List.mem_cons_self _)
    | cons b ys =>
      rw [separated_cons_append, separated_cons_append] at same
      obtain ⟨rfl, others⟩ := splits a List.mem_cons_self b List.mem_cons_self _ _
        ((ends r).remaining xs) ((ends r').remaining ys) same
      -- both lists end here, or both go on after a comma
      cases xs with
      | nil =>
        cases ys with
        | nil => exact ⟨rfl, (List.cons.inj others).2⟩
        | cons b ys => exact absurd (List.cons.inj others).1 noComma
      | cons c xs =>
        cases ys with
        | nil => exact absurd (List.cons.inj others).1.symm noComma
        | cons d ys =>
          obtain ⟨equal, rfl⟩ := ih
            (fun a member b member' => splits a (List.mem_cons_of_mem _ member) b
              (List.mem_cons_of_mem _ member'))
            (fun a member => opens a (List.mem_cons_of_mem _ member))
            (fun b member => opens' b (List.mem_cons_of_mem _ member)) (List.cons.inj others).2
          exact ⟨congrArg (a :: ·) equal, rfl⟩

end Separated

/-! ### Values -/

@[elab_as_elim]
theorem induction_on {motive : Json → Prop} (null : motive null) (bool : ∀ b, motive (bool b))
    (number : ∀ text, motive (number text)) (string : ∀ s, motive (string s))
    (array : ∀ elements, (∀ e ∈ elements, motive e) → motive (array elements))
    (object : ∀ members, (∀ m ∈ members, motive m.2) → motive (object members)) (j : Json) :
    motive j :=
  @Json.rec motive (fun elements => ∀ e ∈ elements, motive e) (fun members => ∀ m ∈ members, motive m.2)
    (fun m => motive m.2) null bool number string array object (fun _ h => by cases h)
    (fun _ _ first others => List.forall_mem_cons.mpr ⟨first, others⟩) (fun _ h => by cases h)
    (fun _ _ first others => List.forall_mem_cons.mpr ⟨first, others⟩) (fun _ _ value => value) j

/-- The texts that `Number::toString` gives for finite numbers are of this form. -/
structure Decimal (text : String) : Prop where
  nonempty : text.toList ≠ []
  characters : text.toList ⊆ "0123456789+-.e".toList

/-- No number of the value is infinite. -/
inductive Finite : Json → Prop
  | null : Finite null
  | bool (b : Bool) : Finite (bool b)
  | number {text : String} (decimal : Decimal text) : Finite (number text)
  | string (s : JsString) : Finite (string s)
  | array {elements : List Json} (each : ∀ e ∈ elements, Finite e) : Finite (array elements)
  | object {members : List (JsString × Json)} (each : ∀ m ∈ members, Finite m.2) : Finite (object members)

def memberText (m : JsString × Json) : JsString := quote m.1 ++ 0x3A :: stringify m.2

theorem stringifyElements_eq (elements : List Json) :
    stringifyElements elements = separated stringify elements := by
  induction elements with
  | nil => rfl
  | cons e rest ih =>
    cases rest with
    | nil => rfl
    | cons f rest => rw [stringifyElements, separated, ih] <;> rintro ⟨⟩

theorem stringifyMembers_eq (members : List (JsString × Json)) :
    stringifyMembers members = separated memberText members := by
  induction members with
  | nil => rfl
  | cons m rest ih =>
    obtain ⟨name, value⟩ := m
    have colon : quote name ++ js ":" ++ stringify value = memberText (name, value) := by
      rw [List.append_assoc]
      rfl
    cases rest with
    | nil => exact colon
    | cons n rest => rw [stringifyMembers, separated, ih, colon] <;> rintro ⟨⟩

theorem stringify_array_append (elements : List Json) (r : JsString) :
    stringify (array elements) ++ r = 0x5B :: (separated stringify elements ++ 0x5D :: r) := by
  rw [stringify, stringifyElements_eq, List.append_assoc, List.append_assoc]
  rfl

theorem stringify_object_append (members : List (JsString × Json)) (r : JsString) :
    stringify (object members) ++ r = 0x7B :: (separated memberText members ++ 0x7D :: r) := by
  rw [stringify, stringifyMembers_eq, List.append_assoc, List.append_assoc]
  rfl

def kind : Json → ℕ
  | null => 0
  | bool _ => 1
  | number _ => 2
  | string _ => 3
  | array _ => 4
  | object _ => 5

/-- The kind of value that a text with this first unit has, and 6 for a delimiter. -/
def unitKind (u : UInt16) : ℕ :=
  if u = 0x6E then 0
  else if u = 0x74 ∨ u = 0x66 then 1
  else if u = 0x22 then 3
  else if u = 0x5B then 4
  else if u = 0x7B then 5
  else if u = 0x2C ∨ u = 0x5D ∨ u = 0x7D then 6
  else 2

theorem unitKind_number : ∀ c ∈ "0123456789+-.e".toList, unitKind c.toNat.toUInt16 = 2 :=
  forall_mem_of_all (by decide)

theorem Decimal.finite {text : String} (decimal : Decimal text) :
    ¬ (text = "Infinity" ∨ text = "-Infinity") := by
  rintro (rfl | rfl) <;> exact absurd (@decimal.characters 'I' (by decide)) (by decide)

theorem Decimal.stringify_eq {text : String} (decimal : Decimal text) :
    stringify (number text) = js text := by
  rw [stringify, if_neg decimal.finite]

/-- A text is read back from its units. -/
theorem Decimal.characters_eq {text : String} (decimal : Decimal text) :
    (js text).map (fun u => Char.ofNat u.toNat) = text.toList := by
  have each : ∀ c ∈ "0123456789+-.e".toList, Char.ofNat c.toNat.toUInt16.toNat = c :=
    forall_mem_of_all (by decide)
  rw [js, List.map_map]
  conv_rhs => rw [← List.map_id text.toList]
  exact List.map_congr_left fun c member => each c (decimal.characters member)

theorem Decimal.injective {text text' : String} (decimal : Decimal text) (decimal' : Decimal text')
    (same : js text = js text') : text = text' := by
  have characters := congrArg (List.map fun u => Char.ofNat u.toNat) same
  rw [decimal.characters_eq, decimal'.characters_eq] at characters
  exact String.toList_inj.mp characters

theorem Decimal.unitKind {text : String} (decimal : Decimal text) :
    ∀ u ∈ js text, Json.unitKind u = 2 := by
  intro u member
  obtain ⟨c, there, rfl⟩ := List.mem_map.mp member
  exact unitKind_number c (decimal.characters there)

theorem Finite.opens {j : Json} (finite : Finite j) (r : JsString) :
    ∃ u rest, stringify j ++ r = u :: rest ∧ unitKind u = j.kind := by
  cases finite with
  | null => exact ⟨_, _, rfl, rfl⟩
  | bool b => cases b <;> exact ⟨_, _, rfl, rfl⟩
  | @number text decimal =>
    obtain ⟨c, rest, first⟩ := List.exists_cons_of_ne_nil decimal.nonempty
    refine ⟨c.toNat.toUInt16, rest.map (fun c => c.toNat.toUInt16) ++ r, ?_, ?_⟩
    · rw [decimal.stringify_eq, js, first]
      rfl
    · exact unitKind_number c (decimal.characters (first ▸ List.mem_cons_self))
  | string s => exact ⟨_, _, quote_append s r, rfl⟩
  | array => exact ⟨_, _, stringify_array_append _ r, rfl⟩
  | object => exact ⟨_, _, stringify_object_append _ r, rfl⟩

theorem not_delimited_of_unitKind {u : UInt16} {rest : JsString} (value : unitKind u ≠ 6) :
    ¬ Delimited (u :: rest) := by
  intro delimited
  rcases delimited u rfl with rfl | rfl | rfl <;> exact value rfl

theorem kind_ne (j : Json) : j.kind ≠ 6 := by cases j <;> rintro ⟨⟩

theorem Finite.not_delimited {j : Json} (finite : Finite j) (r : JsString) :
    ¬ Delimited (stringify j ++ r) := by
  obtain ⟨u, rest, opening, same⟩ := finite.opens r
  rw [opening]
  exact not_delimited_of_unitKind (same ▸ j.kind_ne)

theorem memberText_append (m : JsString × Json) (r : JsString) :
    memberText m ++ r = quote m.1 ++ 0x3A :: (stringify m.2 ++ r) := by
  rw [memberText, List.append_assoc]
  rfl

theorem memberText_not_delimited (m : JsString × Json) (r : JsString) : ¬ Delimited (memberText m ++ r) := by
  rw [memberText_append, quote_append]
  exact not_delimited_of_unitKind (by decide)

/-- Texts without delimiters end where a delimiter stands. -/
theorem eq_of_delimited {s s' r r' : JsString} (inner : ∀ u ∈ s, unitKind u ≠ 6)
    (inner' : ∀ u ∈ s', unitKind u ≠ 6) (ends : Delimited r) (ends' : Delimited r')
    (same : s ++ r = s' ++ r') : s = s' ∧ r = r' := by
  induction s generalizing s' with
  | nil =>
    cases s' with
    | nil => exact ⟨rfl, same⟩
    -- here the one text has ended, and the other goes on with no delimiter
    | cons v s' =>
      exact absurd ((congrArg Delimited same).mp ends)
        (not_delimited_of_unitKind (inner' v List.mem_cons_self))
  | cons u s ih =>
    cases s' with
    | nil =>
      exact absurd ((congrArg Delimited same).mpr ends')
        (not_delimited_of_unitKind (inner u List.mem_cons_self))
    | cons v s' =>
      obtain ⟨rfl, others⟩ := List.cons.inj same
      obtain ⟨rfl, rest⟩ := ih (fun w member => inner w (List.mem_cons_of_mem _ member))
        (fun w member => inner' w (List.mem_cons_of_mem _ member)) others
      exact ⟨rfl, rest⟩

theorem Finite.same_kind {x y : Json} {r r' : JsString} (finite : Finite x) (finite' : Finite y)
    (same : stringify x ++ r = stringify y ++ r') : x.kind = y.kind := by
  obtain ⟨u, _, opening, kind⟩ := finite.opens r
  obtain ⟨v, _, opening', kind'⟩ := finite'.opens r'
  rw [opening, opening'] at same
  rw [← kind, ← kind', (List.cons.inj same).1]

theorem splits_member {name name' : JsString} {value value' : Json}
    (splits : Splits stringify value value') : Splits memberText (name, value) (name', value') := by
  intro r r' ends ends' same
  rw [memberText_append, memberText_append] at same
  obtain ⟨rfl, others⟩ := quote_append_inj same
  obtain ⟨rfl, rest⟩ := splits r r' ends ends' (List.cons.inj others).2
  exact ⟨rfl, rest⟩

/-- The text of a value shows where it ends, and is the text of no other. -/
theorem Finite.splits {x : Json} (finite : Finite x) : ∀ {y : Json}, Finite y → Splits stringify x y := by
  -- by induction on the first value; the first unit tells that the second one is of its kind
  induction x using induction_on with
  | null =>
    intro y finite' r r' _ _ same
    have kinds := finite.same_kind finite' same
    cases y with
    | null => exact ⟨rfl, (List.append_right_inj _).mp same⟩
    | bool | number | string | array | object => cases kinds
  | bool b =>
    intro y finite' r r' _ _ same
    have kinds := finite.same_kind finite' same
    cases y with
    | bool b' =>
      cases b <;> cases b'
      · exact ⟨rfl, (List.append_right_inj _).mp same⟩
      · exact absurd (List.cons.inj same).1 (by decide)
      · exact absurd (List.cons.inj same).1 (by decide)
      · exact ⟨rfl, (List.append_right_inj _).mp same⟩
    | null | number | string | array | object => cases kinds
  | number text =>
    intro y finite' r r' ends ends' same
    have kinds := finite.same_kind finite' same
    cases finite with
    | number decimal =>
      cases finite' with
      | number decimal' =>
        -- a number ends where a delimiter stands: no unit of it is one
        rw [decimal.stringify_eq, decimal'.stringify_eq] at same
        have inner {text : String} (decimal : Decimal text) : ∀ u ∈ js text, unitKind u ≠ 6 :=
          fun u member => by rw [decimal.unitKind u member]; decide
        obtain ⟨texts, rest⟩ := eq_of_delimited (inner decimal) (inner decimal') ends ends' same
        exact ⟨congrArg Json.number (decimal.injective decimal' texts), rest⟩
      | null | bool | string | array | object => cases kinds
  | string s =>
    intro y finite' r r' _ _ same
    have kinds := finite.same_kind finite' same
    cases y with
    | string s' =>
      obtain ⟨rfl, rest⟩ := quote_append_inj same
      exact ⟨rfl, rest⟩
    | null | bool | number | array | object => cases kinds
  | array elements ih =>
    intro y finite' r r' _ _ same
    have kinds := finite.same_kind finite' same
    cases finite with
    | array each =>
      cases finite' with
      | array each' =>
        rw [stringify_array_append, stringify_array_append] at same
        obtain ⟨rfl, rest⟩ := separated_inj (.inl rfl)
          (fun e member f member' => ih e member (each e member) (each' f member'))
          (fun e member => (each e member).not_delimited) (fun f member => (each' f member).not_delimited)
          (List.cons.inj same).2
        exact ⟨rfl, rest⟩
      | null | bool | number | string | object => cases kinds
  | object members ih =>
    intro y finite' r r' _ _ same
    have kinds := finite.same_kind finite' same
    cases finite with
    | object each =>
      cases finite' with
      | object each' =>
        rw [stringify_object_append, stringify_object_append] at same
        obtain ⟨rfl, rest⟩ := separated_inj (.inr rfl)
          (fun m member n member' => splits_member (ih m member (each m member) (each' n member')))
          (fun m _ => memberText_not_delimited m) (fun n _ => memberText_not_delimited n)
          (List.cons.inj same).2
        exact ⟨rfl, rest⟩
      | null | bool | number | string | array => cases kinds

theorem Finite.stringify_injective {x y : Json} (finite : Finite x) (finite' : Finite y)
    (same : stringify x = stringify y) : x = y :=
  (finite.splits finite' [] [] .nil .nil (by rw [same])).1

/-! ### Encoding -/

open JsString (WellFormed)

theorem wellFormed_js {s : String} (ascii : (s.toList.all fun c => decide (c.toNat < 0x80)) = true) :
    WellFormed (js s) := by
  refine .of_plain fun u member => ?_
  obtain ⟨c, there, rfl⟩ := List.mem_map.mp member
  have below := forall_mem_of_all ascii c there
  interval_cases c.toNat <;> decide

theorem wellFormed_escapeUnit (u : UInt16) : WellFormed (escapeUnit u) := by
  have below := u.toNat_lt
  have plain {n : ℕ} (digit : n < 16) :
      JsString.isHigh (lowerHex n) = false ∧ JsString.isLow (lowerHex n) = false := by
    interval_cases n <;> decide
  refine (wellFormed_js (by decide)).append (.of_plain ?_)
  simp only [List.forall_mem_cons]
  exact ⟨plain (by omega), plain (by omega), plain (by omega), plain (by omega), by rintro _ ⟨⟩⟩

theorem wellFormed_quoteUnit (u : UInt16) : WellFormed (quoteUnit u) := by
  unfold quoteUnit
  split_ifs with _ _ _ _ _ _ _ escaped
  -- the seven escapes of two characters
  iterate 7 exact wellFormed_js (by decide)
  · exact wellFormed_escapeUnit u
  · simp only [Bool.or_eq_true, not_or, Bool.not_eq_true] at escaped
    exact ⟨escaped.1.2, escaped.2⟩

theorem wellFormed_quoted (s : JsString) : WellFormed (quoted s) := by
  fun_induction quoted s with
  | case1 => trivial
  | case2 u => exact wellFormed_quoteUnit u
  -- a lone surrogate is escaped, so the literal has none
  | case3 u v rest pair ih => simpa only [WellFormed, pair, if_true] using ih
  | case4 u v rest lone ih => exact (wellFormed_quoteUnit u).append ih

theorem wellFormed_separated {α : Type} {text : α → JsString} {xs : List α}
    (each : ∀ a ∈ xs, WellFormed (text a)) : WellFormed (separated text xs) := by
  fun_induction separated text xs with
  | case1 => trivial
  | case2 a => exact each a List.mem_cons_self
  | case3 a rest _ ih =>
    refine ((each a List.mem_cons_self).append ?_).append
      (ih fun b member => each b (List.mem_cons_of_mem a member))
    exact wellFormed_js (by decide)

theorem wellFormed_quote (s : JsString) : WellFormed (quote s) :=
  ((wellFormed_js (by decide)).append (wellFormed_quoted s)).append (wellFormed_js (by decide))

theorem Finite.wellFormed {j : Json} (finite : Finite j) : WellFormed (stringify j) := by
  induction j using induction_on with
  | null => exact wellFormed_js (by decide)
  | bool b => cases b <;> exact wellFormed_js (by decide)
  | number text =>
    cases finite with
    | number decimal =>
      rw [decimal.stringify_eq]
      have ascii : ∀ c ∈ "0123456789+-.e".toList, c.toNat < 0x80 := forall_mem_of_all (by decide)
      exact wellFormed_js (List.all_eq_true.mpr fun c member =>
        decide_eq_true (ascii c (decimal.characters member)))
  | string s => exact wellFormed_quote s
  | array elements ih =>
    cases finite with
    | array each =>
      rw [stringify, stringifyElements_eq]
      exact ((wellFormed_js (by decide)).append (wellFormed_separated fun e member =>
        ih e member (each e member))).append (wellFormed_js (by decide))
  | object members ih =>
    cases finite with
    | object each =>
      have colon : WellFormed [0x3A] := ⟨rfl, rfl⟩
      rw [stringify, stringifyMembers_eq]
      exact ((wellFormed_js (by decide)).append (wellFormed_separated fun m member =>
        (wellFormed_quote m.1).append (colon.append (ih m member (each m member))))).append
          (wellFormed_js (by decide))

/-! ### Infinite numbers -/

mutual

/-- What the text of a value denotes: an infinite number is written as `null`. -/
def written : Json → Json
  | null => null
  | bool b => bool b
  | number text => if text = "Infinity" ∨ text = "-Infinity" then null else number text
  | string s => string s
  | array elements => array (writtenElements elements)
  | object members => object (writtenMembers members)

def writtenElements : List Json → List Json
  | [] => []
  | e :: rest => written e :: writtenElements rest

def writtenMembers : List (JsString × Json) → List (JsString × Json)
  | [] => []
  | (name, value) :: rest => (name, written value) :: writtenMembers rest

end

theorem writtenElements_eq (elements : List Json) : writtenElements elements = elements.map written := by
  induction elements with
  | nil => rfl
  | cons e rest ih => rw [writtenElements, ih, List.map_cons]

theorem writtenMembers_eq (members : List (JsString × Json)) :
    writtenMembers members = members.map fun m => (m.1, written m.2) := by
  induction members with
  | nil => rfl
  | cons m rest ih => rw [writtenMembers, ih, List.map_cons]

/-- A value that `JSON.parse` yields: no object has a name twice, and a number beyond the range is
infinite. -/
inductive Valid : Json → Prop
  | null : Valid null
  | bool (b : Bool) : Valid (bool b)
  | number {text : String} (written : Decimal text ∨ text = "Infinity" ∨ text = "-Infinity") :
    Valid (number text)
  | string (s : JsString) : Valid (string s)
  | array {elements : List Json} (each : ∀ e ∈ elements, Valid e) : Valid (array elements)
  | object {members : List (JsString × Json)} (distinct : (members.map (·.1)).Nodup)
      (each : ∀ m ∈ members, Valid m.2) : Valid (object members)

theorem separated_congr {α : Type} {text text' : α → JsString} {xs : List α}
    (each : ∀ a ∈ xs, text a = text' a) : separated text xs = separated text' xs := by
  fun_induction separated text xs with
  | case1 => rfl
  | case2 a => exact each a List.mem_cons_self
  | case3 a rest many ih =>
    rw [separated, each a List.mem_cons_self, ih fun b member => each b (List.mem_cons_of_mem a member)]
    exact many

theorem separated_map {α β : Type} (text : β → JsString) (f : α → β) (xs : List α) :
    separated text (xs.map f) = separated (fun a => text (f a)) xs := by
  induction xs with
  | nil => rfl
  | cons a rest ih =>
    cases rest with
    | nil => rfl
    | cons b rest =>
      change text (f a) ++ js "," ++ separated text ((b :: rest).map f) = _
      rw [ih]
      rfl

theorem stringify_written (j : Json) : stringify (written j) = stringify j := by
  induction j using induction_on with
  | null | bool | string => rfl
  | number text =>
    rw [written]
    split
    -- `stringify` writes what `null` is written as
    · next infinite => rw [stringify, stringify, if_pos infinite]
    · rfl
  | array elements ih =>
    rw [written, writtenElements_eq, stringify, stringify, stringifyElements_eq, stringifyElements_eq,
      separated_map, separated_congr ih]
  | object members ih =>
    have each : ∀ m ∈ members, memberText (m.1, written m.2) = memberText m := fun m member => by
      rw [memberText, memberText, ih m member]
    rw [written, writtenMembers_eq, stringify, stringify, stringifyMembers_eq, stringifyMembers_eq,
      separated_map, separated_congr each]

/-- Encoded texts are the same when the values differ in nothing but infinite numbers. -/
theorem asString_stringify_eq_iff {x y : Json} (finite : Finite (written x)) (finite' : Finite (written y)) :
    (stringify x).asString = (stringify y).asString ↔ written x = written y := by
  rw [← stringify_written x, ← stringify_written y]
  constructor
  · intro same
    exact finite.stringify_injective finite'
      (JsString.asString_injective finite.wellFormed finite'.wellFormed same)
  · intro same
    rw [same]

end SelfOtp.Json
