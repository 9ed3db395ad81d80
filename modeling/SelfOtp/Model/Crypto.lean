import SelfOtp.Model.Basic

/-! `common/utils/crypto.ts` and the generators of `OTPService`. -/
namespace SelfOtp

/-- `/^\+[1-9]\d{1,14}$/` on the trimmed number. -/
def validateE164Phone (phoneNumber : String) : Bool :=
  match (trim phoneNumber).toList with
  | '+' :: d :: ds =>
    '1' ≤ d && d ≤ '9' && 1 ≤ ds.length && ds.length ≤ 14 && ds.all fun c => '0' ≤ c && c ≤ '9'
  | _ => false

def maskPhoneNumber (phoneNumber : String) : String :=
  let clean := (trim phoneNumber).toList
  if clean.length ≤ 7 then String.ofList (clean.take 3) ++ "***"
  else String.ofList (clean.take 5) ++ "***" ++ String.ofList (clean.drop (clean.length - 4))

def hashPhoneNumber (env : Env) (phoneNumber : String) : String := env.hmac (trim phoneNumber)

def hashOtpCode (env : Env) (otpCode : String) : String := env.hmac (trim otpCode)

def verifyOtpCode (env : Env) (submittedOtp storedOtpHash : String) : Bool :=
  hashOtpCode env submittedOtp == storedOtpHash

def hashApiKey (env : Env) (rawKey : String) : String := env.sha256 (rawKey ++ ":" ++ env.pepper)

/-- `generateOtpDigits(length)`; `draw` is what the random generator yields. -/
def generateOtpDigits (length draw : ℕ) : String :=
  toString (10 ^ (length - 1) + draw % (10 ^ length - 10 ^ (length - 1)))

/-- `generateRequestId()` from the 12 random bytes, read as one number. -/
def generateRequestId (bytes : ℕ) : String := "req_" ++ String.ofList (hexDigits 24 bytes)

/-- No generated request id is a UUID. -/
theorem uuidRegex_generateRequestId (bytes : ℕ) : uuidRegex (generateRequestId bytes) = false := by
  have first : isHexDigit 'r' = false := by decide
  simp [uuidRegex, generateRequestId, matchesBlocks, first]

end SelfOtp
