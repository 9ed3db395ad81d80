import Mathlib.Data.Int.Log
import Mathlib.Data.List.DropRight
import Mathlib.Data.Rat.Floor
import SelfOtp.Lib.Json

/-! JavaScript numbers: the conversions of JSON values to them, and the lengths and loop bounds
that they make. -/
namespace SelfOtp

/-- A `Number`; the two zeros are one. -/
inductive JsNumber where
  | nan
  | infinity (negative : Bool)
  | finite (q : ℚ)
  deriving DecidableEq

namespace JsString

/-- White space and line terminators. -/
def isSpace (u : UInt16) : Bool :=
  (9 ≤ u && u ≤ 13) || u == 0x20 || u == 0xA0 || u == 0x1680 || (0x2000 ≤ u && u ≤ 0x200A) ||
    u == 0x2028 || u == 0x2029 || u == 0x202F || u == 0x205F || u == 0x3000 || u == 0xFEFF

/-- `String.prototype.trim`. -/
def trim (s : JsString) : JsString :=
  ((s.dropWhile isSpace).reverse.dropWhile isSpace).reverse

theorem trim_trim (s : JsString) : s.trim.trim = s.trim := by
  have trimmed (s : JsString) : s.trim = List.rdropWhile isSpace (s.dropWhile isSpace) := rfl
  -- what is left, if anything, is left of a text with no space in front
  have front : s.trim.dropWhile isSpace = s.trim := by
    rw [trimmed]
    refine List.dropWhile_eq_self_iff.mpr fun inside => ?_
    have before : List.rdropWhile isSpace (s.dropWhile isSpace) <+: s.dropWhile isSpace :=
      List.rdropWhile_prefix _ _
    rw [before.getElem]
    exact List.dropWhile_get_zero_not isSpace s (lt_of_lt_of_le inside before.length_le)
  rw [trimmed s.trim, front, trimmed, List.rdropWhile_idempotent]

end JsString

namespace JsNumber

/-! ### Texts -/

/-- The nearest integer; a tie goes to the even one. -/
def roundEven (q : ℚ) : ℤ :=
  let rest := q - ⌊q⌋
  if rest < 1 / 2 ∨ rest = 1 / 2 ∧ ⌊q⌋ % 2 = 0 then ⌊q⌋ else ⌊q⌋ + 1

/-- The binary64 number nearest to `q`. -/
def ofRat (q : ℚ) : JsNumber :=
  if q = 0 then finite 0
  else
    -- the distance to the next number: 53 significant bits, fewer at the lower end
    let unit : ℚ := 2 ^ max (Int.log 2 |q| - 52) (-1074)
    let rounded := roundEven (q / unit) * unit
    if 2 ^ 1024 ≤ |rounded| then infinity (decide (q < 0)) else finite rounded

def digit (base : ℕ) (u : UInt16) : Option ℕ :=
  let value :=
    if 0x30 ≤ u && u ≤ 0x39 then some (u.toNat - 0x30)
    else if 0x41 ≤ u && u ≤ 0x5A then some (u.toNat - 0x41 + 10)
    else if 0x61 ≤ u && u ≤ 0x7A then some (u.toNat - 0x61 + 10)
    else none
  value.filter (· < base)

/-- One or more digits, up to the end of the text. -/
def digits (base : ℕ) (s : JsString) : Option ℕ :=
  if s = [] then none
  else s.foldl (fun value u => do return base * (← value) + (← digit base u)) (some 0)

def isDecimal (u : UInt16) : Bool := (digit 10 u).isSome

/-- `true` for a minus sign. -/
def sign : JsString → Bool × JsString
  | 0x2D :: rest => (true, rest)
  | 0x2B :: rest => (false, rest)
  | s => (false, s)

def exponent : JsString → Option ℤ
  | [] => some 0
  | u :: rest =>
    if u = 0x65 ∨ u = 0x45 then
      let (negative, ds) := sign rest
      (digits 10 ds).map fun n => if negative then -(n : ℤ) else n
    else none

/-- `StrUnsignedDecimalLiteral`, but for `Infinity`. -/
def decimal (s : JsString) : Option ℚ := do
  let (whole, rest) := s.span isDecimal
  let (fraction, rest) := match rest with
    | 0x2E :: rest => rest.span isDecimal
    | rest => ([], rest)
  let mantissa ← digits 10 (whole ++ fraction)
  let e ← exponent rest
  return mantissa * 10 ^ (e - fraction.length)

/-- The base that `0x`, `0o` or `0b` announces, and what follows. -/
def based : JsString → Option (ℕ × JsString)
  | 0x30 :: u :: rest =>
    if u = 0x78 ∨ u = 0x58 then some (16, rest)
    else if u = 0x6F ∨ u = 0x4F then some (8, rest)
    else if u = 0x62 ∨ u = 0x42 then some (2, rest)
    else none
  | _ => none

/-- `StringToNumber`. -/
def ofText (s : JsString) : JsNumber :=
  let text := s.trim
  if text = [] then finite 0
  else match based text with
    | some (base, ds) =>
      match digits base ds with
      | some n => ofRat n
      | none => nan
    | none =>
      let (negative, body) := sign text
      if body = js "Infinity" then infinity negative
      else match decimal body with
        | some q => ofRat (if negative then -q else q)
        | none => nan

example : ofText (js " -12.50e1\n") = finite (-125) := by decide +kernel

/-! ### Lengths and bounds -/

def truncate (q : ℚ) : ℤ := if 0 ≤ q then ⌊q⌋ else ⌈q⌉

/-- `ToIndex`; `none` when it throws. -/
def toIndex : JsNumber → Option ℕ
  | nan => some 0
  | infinity _ => none
  | finite q => if 0 ≤ truncate q ∧ truncate q < 2 ^ 53 then some (truncate q).toNat else none

/-- `ToLength`. -/
def toLength : JsNumber → ℕ
  | nan => 0
  | infinity negative => if negative then 0 else 2 ^ 53 - 1
  | finite q => min (truncate q).toNat (2 ^ 53 - 1)

/-- How often a loop runs that counts `i` up from 0 while `i < x`; `none` when it does not end. -/
def below : JsNumber → Option ℕ
  | nan => some 0
  | infinity negative => if negative then some 0 else none
  | finite q => some ⌈q⌉.toNat

end JsNumber

namespace Json

/-- `ToNumber`; `none` when it throws. -/
def toNumber : Json → Option JsNumber
  | null => some (.finite 0)
  | bool b => some (.finite (if b then 1 else 0))
  | number text => some (.ofText (js text))
  | string s => some (.ofText s)
  | array elements => (toText (array elements)).map .ofText
  | object members => (toText (object members)).map .ofText

/-- The property name is an array index less than `n`. -/
def isIndexBelow (n : ℕ) (name : JsString) : Bool :=
  match JsNumber.digits 10 name with
  | some i => decide (i < n) && js (toString i) == name
  | none => false

/-- The length of `new Uint8Array(j)`; `none` when it throws. -/
def uint8ArrayLength : Json → Option ℕ
  | array elements =>
    if elements.all fun e => (toNumber e).isSome then some elements.length else none
  -- an array-like: its elements are converted too
  | object members => do
    let length ← match member members (js "length") with
      | some j => (toNumber j).map JsNumber.toLength
      | none => some 0
    if members.all fun (name, value) => !isIndexBelow length name || (toNumber value).isSome then
      some length
    else none
  | null => some 0
  | bool b => some (if b then 1 else 0)
  | number text => (JsNumber.ofText (js text)).toIndex
  | string s => (JsNumber.ofText s).toIndex

/-- `j[a] || j[b]`: `none` when it throws. -/
def either (j : Json) (a b : String) : Option (Option Json) :=
  match j.get a with
  | none => none
  | some first => if first.any truthy then some first else j.get b

end Json

end SelfOtp
