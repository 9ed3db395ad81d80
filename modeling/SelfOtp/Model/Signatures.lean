import SelfOtp.Model.Webhooks

/-! The two `verifyMetaSignature` (`common/utils/crypto.ts` and the Edge `_shared/crypto.ts`) on
JavaScript strings of any code units. -/
namespace SelfOtp

/-- HMAC-SHA256 of a key and data. -/
abbrev HmacSha256 := List UInt8 → List UInt8 → Digest

/-- The character of a code unit; a surrogate is none. -/
def unitChar (u : UInt16) : Char := Char.ofNat u.toNat

/-- `digest("hex")` as a JavaScript string. -/
def hexText (bytes : List UInt8) : JsString := (hex bytes).map fun c => c.toNat.toUInt16

def asciiLower (u : UInt16) : UInt16 := if 0x41 ≤ u ∧ u ≤ 0x5A then u + 0x20 else u

/-- What the Unicode tables make of a code unit beyond ASCII, between what stands before and after
it. No such character has a lower case of hexadecimal digits alone. -/
structure CaseTable where
  lower : JsString → UInt16 → JsString → JsString
  beyond : ∀ before u after, 0x80 ≤ u → ∃ v ∈ lower before u after, isHexDigit (unitChar v) = false

namespace CaseTable

def lowerFrom (T : CaseTable) (before : JsString) : JsString → JsString
  | [] => []
  | u :: after =>
    (if u < 0x80 then [asciiLower u] else T.lower before u after) ++ T.lowerFrom (before ++ [u]) after

/-- `String.prototype.toLowerCase`. -/
def toLowerCase (T : CaseTable) (s : JsString) : JsString := T.lowerFrom [] s

end CaseTable

/-- The function of `common/utils/crypto.ts`; `none` when it throws. -/
def Node.verifyMetaSignature (hmacSha256 : HmacSha256) (rawBody : JsString)
    (signatureHeader : Option JsString) (appSecret : JsString) : Option Bool :=
  match signatureHeader with
  | none => some false
  | some header =>
    if header = [] ∨ ¬ (js "sha256=").isPrefixOf header then some false
    else
      let signature := header.drop 7
      let expectedSignature := hexText (hmacSha256 appSecret.utf8 rawBody.utf8).1
      if signature.length ≠ expectedSignature.length then some false
      else timingSafeEqual (bufferFromHex (signature.map unitChar))
        (bufferFromHex (expectedSignature.map unitChar))

/-- The function of the Edge `_shared/crypto.ts`. -/
def Edge.verifyMetaSignature (T : CaseTable) (hmacSha256 : HmacSha256) (rawBody : JsString)
    (signatureHeader : Option JsString) (appSecret : JsString) : Bool :=
  match signatureHeader with
  | none => false
  | some header =>
    if header = [] ∨ appSecret = [] then false
    else
      match header.splitOn 0x3D with
      | [scheme, expectedHash] =>
        if scheme ≠ js "sha256" then false
        else
          let computedHash := hexText (hmacSha256 appSecret.utf8 rawBody.utf8).1
          T.toLowerCase computedHash == T.toLowerCase expectedHash
      | _ => false

end SelfOtp
