import Mathlib.Data.Nat.Notation

/-! JSON values as JavaScript programs use them. -/
namespace SelfOtp

/-- A JavaScript string: its UTF-16 code units. -/
abbrev JsString := List UInt16

/-- The string of a literal of ASCII characters. -/
def js (s : String) : JsString := s.toList.map fun c => c.toNat.toUInt16

namespace JsString

def isHigh (u : UInt16) : Bool := 0xD800 ≤ u && u ≤ 0xDBFF

def isLow (u : UInt16) : Bool := 0xDC00 ≤ u && u ≤ 0xDFFF

/-- The code points, with U+FFFD for a surrogate that stands alone. -/
def codePoints : JsString → List ℕ
  | [] => []
  | [u] => [if isHigh u || isLow u then 0xFFFD else u.toNat]
  | u :: v :: rest =>
    if isHigh u && isLow v then
      (0x10000 + (u.toNat - 0xD800) * 0x400 + (v.toNat - 0xDC00)) :: codePoints rest
    else (if isHigh u || isLow u then 0xFFFD else u.toNat) :: codePoints (v :: rest)

def utf8Bytes (p : ℕ) : List UInt8 :=
  if p < 0x80 then [p.toUInt8]
  else if p < 0x800 then [(0xC0 + p / 0x40).toUInt8, (0x80 + p % 0x40).toUInt8]
  else if p < 0x10000 then
    [(0xE0 + p / 0x1000).toUInt8, (0x80 + p / 0x40 % 0x40).toUInt8, (0x80 + p % 0x40).toUInt8]
  else
    [(0xF0 + p / 0x40000).toUInt8, (0x80 + p / 0x1000 % 0x40).toUInt8,
      (0x80 + p / 0x40 % 0x40).toUInt8, (0x80 + p % 0x40).toUInt8]

/-- The bytes of the string where an API takes UTF-8. -/
def utf8 (s : JsString) : List UInt8 := (codePoints s).flatMap utf8Bytes

def ofString (s : String) : JsString :=
  s.toList.flatMap fun c =>
    if c.toNat < 0x10000 then [c.toNat.toUInt16]
    else [(0xD800 + (c.toNat - 0x10000) / 0x400).toUInt16, (0xDC00 + (c.toNat - 0x10000) % 0x400).toUInt16]

/-- The text of the string where an API encodes it. -/
def asString (s : JsString) : String := String.ofList ((codePoints s).map Char.ofNat)

example : asString (ofString "a\u00e9\u20ac") = "a\u00e9\u20ac" := by decide

end JsString

/-- A value that a JSON text denotes. The text of a number is the one that `Number::toString`
gives; the members of an object are in property order, no name twice. -/
inductive Json where
  | null
  | bool (b : Bool)
  | number (text : String)
  | string (s : JsString)
  | array (elements : List Json)
  | object (members : List (JsString × Json))

namespace Json

def truthy : Json → Bool
  | null => false
  | bool b => b
  | number text => text ≠ "0"
  | string s => s ≠ []
  | array _ => true
  | object _ => true

/-- The own property of an object: `none` when it has none. -/
def member (members : List (JsString × Json)) (name : JsString) : Option Json :=
  (members.find? (·.1 == name)).map (·.2)

/-- `j[name]` for a name that no prototype has: `none` when it throws, and `some none` when it is
undefined. -/
def get (j : Json) (name : String) : Option (Option Json) :=
  match j with
  | null => none
  | object members => some (member members (js name))
  | bool _ | number _ | string _ | array _ => some none

/-- `v || default`. -/
def orElse (v : Option Json) (default : Json) : Json :=
  match v with
  | some j => if j.truthy then j else default
  | none => default

/-- What `for ... of` goes through; `none` when the value is not iterable. A string is gone
through by code units here, by code points there; no character has properties of its own. -/
def iterate : Json → Option (List Json)
  | array elements => some elements
  | string s => some (s.map fun u => string [u])
  | null | bool _ | number _ | object _ => none

mutual

/-- The value in a template literal; `none` when the conversion throws. -/
def toText : Json → Option JsString
  | null => some (js "null")
  | bool b => some (js (if b then "true" else "false"))
  | number text => some (js text)
  | string s => some s
  | array elements => joinText elements
  -- an own `toString` is no function, and then `valueOf` yields no primitive value
  | object members =>
    if (member members (js "toString")).isSome then none else some (js "[object Object]")

/-- `Array.prototype.join`. -/
def joinText : List Json → Option JsString
  | [] => some []
  | [e] => if e matches null then some [] else toText e
  | e :: rest =>
    match if e matches null then some [] else toText e, joinText rest with
    | some first, some others => some (first ++ js "," ++ others)
    | _, _ => none

end

def lowerHex (n : ℕ) : UInt16 := if n < 10 then (0x30 + n).toUInt16 else (0x57 + n).toUInt16

/-- `\uXXXX`. -/
def escapeUnit (u : UInt16) : JsString :=
  js "\\u" ++ [lowerHex (u.toNat / 0x1000), lowerHex (u.toNat / 0x100 % 16),
    lowerHex (u.toNat / 16 % 16), lowerHex (u.toNat % 16)]

def quoteUnit (u : UInt16) : JsString :=
  if u = 0x22 then js "\\\""
  else if u = 0x5C then js "\\\\"
  else if u = 0x08 then js "\\b"
  else if u = 0x0C then js "\\f"
  else if u = 0x0A then js "\\n"
  else if u = 0x0D then js "\\r"
  else if u = 0x09 then js "\\t"
  else if u < 0x20 || JsString.isHigh u || JsString.isLow u then escapeUnit u
  else [u]

/-- The characters of a string literal; surrogates are escaped only when they stand alone. -/
def quoted : JsString → JsString
  | [] => []
  | [u] => quoteUnit u
  | u :: v :: rest =>
    if JsString.isHigh u && JsString.isLow v then u :: v :: quoted rest
    else quoteUnit u ++ quoted (v :: rest)

def quote (s : JsString) : JsString := js "\"" ++ quoted s ++ js "\""

mutual

/-- `JSON.stringify`. -/
def stringify : Json → JsString
  | null => js "null"
  | bool b => js (if b then "true" else "false")
  | number text => if text = "Infinity" ∨ text = "-Infinity" then js "null" else js text
  | string s => quote s
  | array elements => js "[" ++ stringifyElements elements ++ js "]"
  | object members => js "\x7b" ++ stringifyMembers members ++ js "\x7d"

def stringifyElements : List Json → JsString
  | [] => []
  | [e] => stringify e
  | e :: rest => stringify e ++ js "," ++ stringifyElements rest

def stringifyMembers : List (JsString × Json) → JsString
  | [] => []
  | [(name, value)] => quote name ++ js ":" ++ stringify value
  | (name, value) :: rest =>
    quote name ++ js ":" ++ stringify value ++ js "," ++ stringifyMembers rest

end

example : (object [(js "a b", array [number "1", string (js "x\"\n"), null])]).stringify =
    js "\x7b\"a b\":[1,\"x\\\"\\n\",null]\x7d" := by decide

end Json

end SelfOtp
