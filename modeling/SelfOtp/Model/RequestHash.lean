import Mathlib.Data.List.Sort
import SelfOtp.Model.Middleware

/-! `hashRequestBody` of `idempotency.ts`, for any JSON body. -/
namespace SelfOtp

namespace Json

/-- `Object.keys(bodyData || {})`. -/
def keys : Json → List JsString
  | object members => members.map (·.1)
  -- the names of the elements are their indices
  | array elements => (List.range elements.length).map fun i => js (toString i)
  | string s => (List.range s.length).map fun i => js (toString i)
  | null | bool _ | number _ => []

/-- What an object that has no such member inherits under the name. `JSON.stringify` leaves out
functions, so this is what `__proto__` yields: `Object.prototype`, whose own prototype is null. -/
def inherited (name : JsString) : Option Json :=
  if name = js "__proto__" then some (object [(js "__proto__", null)]) else none

/-- The members of the listed names, in the order of the list. -/
def listed (names : List JsString) (members : List (JsString × Json)) : List (JsString × Json) :=
  names.filterMap fun name => ((member members name).or (inherited name)).map (name, ·)

mutual

/-- What `JSON.stringify(value, names)` writes of a value: the names select members at every
depth. -/
def kept (names : List JsString) : Json → Json
  | null => null
  | bool b => bool b
  | number text => number text
  | string s => string s
  | array elements => array (keptElements names elements)
  -- only of objects: an array keeps all its elements
  | object members => object (listed names (keptMembers names members))

def keptElements (names : List JsString) : List Json → List Json
  | [] => []
  | e :: rest => kept names e :: keptElements names rest

def keptMembers (names : List JsString) : List (JsString × Json) → List (JsString × Json)
  | [] => []
  | (name, value) :: rest => (name, kept names value) :: keptMembers names rest

end

/-- `Object.keys(bodyData || {}).sort()`, which compares code units. -/
def sortedKeys (bodyData : Json) : List JsString := bodyData.keys.insertionSort (· ≤ ·)

def sortedJson (bodyData : Json) : JsString := stringify (kept (sortedKeys bodyData) bodyData)

def hashRequestBody (sha256 : String → String) (bodyData : Json) : String :=
  sha256 (sortedJson bodyData).asString

example : sortedJson (object [(js "b", number "1"), (js "a", object [(js "c", null), (js "b", bool true)])]) =
    js "\x7b\"a\":\x7b\"b\":true\x7d,\"b\":1\x7d" := by decide

end Json

/-- The parsed body of a send. -/
def SendBody.toJson (numberText : ℚ → String) (bodyData : SendBody) : Json :=
  .object ((js "phone_number", .string (JsString.ofString bodyData.phoneNumber)) ::
    bodyData.otp.toList.map (fun otp => (js "otp", .string (JsString.ofString otp))) ++
    [(js "ttl_seconds", .number (numberText bodyData.ttlSeconds)),
      (js "template_name", .string (JsString.ofString bodyData.templateName)),
      (js "language_code", .string (JsString.ofString bodyData.languageCode))])

/-- The hash of a send is the hash of its body. -/
theorem hashRequestBody_eq (env : Env) (numberText : ℚ → String) (bodyData : SendBody) :
    hashRequestBody env numberText bodyData =
      Json.hashRequestBody env.sha256 (bodyData.toJson numberText) := by
  obtain ⟨phoneNumber, otp, ttlSeconds, templateName, languageCode⟩ := bodyData
  cases otp <;> rfl

end SelfOtp
