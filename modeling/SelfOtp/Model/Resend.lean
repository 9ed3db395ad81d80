import SelfOtp.Model.Send

/-! `POST /v1/otp/resend` (`otp.routes.ts`), after the body has been validated. -/
namespace SelfOtp

/-- A resend of the row as it was read, with its new code. `now` is when it was read. -/
structure Redispatch where
  record : OtpRequest
  newOtpCode : String
  now : Millis
  deriving DecidableEq

inductive ResendPc where
  | findRecord
  | expire (record : Id)
  | cooldown (record : OtpRequest) (now : Millis)
  | debit (d : Redispatch)
  | update (d : Redispatch)
  | store (d : Redispatch)
  | setCooldown (d : Redispatch)
  | enqueue (d : Redispatch)
  | fallback (d : Redispatch)
  | fallbackSent (d : Redispatch)
  | replied (d : Redispatch)
  | rejected (error : AppError)
  | internalError
  deriving DecidableEq

structure ResendCall where
  requestId : String
  applicationId : Id
  customer : Customer
  draw : ℕ
  process : ℕ
  pc : ResendPc
  deriving DecidableEq

/-- The body of the 202 answer. -/
structure ResendResponse where
  requestId : String
  phoneNumber : String
  deliveryStatus : OtpStatus
  expiresAt : Millis
  costCredits : ℚ
  resendCount : ℕ

namespace Redispatch

/-- `Math.floor((otpRecord.expires_at.getTime() - now.getTime()) / 1000)`. -/
def remaining (d : Redispatch) : ℕ := (d.record.expiresAt - d.now) / 1000

def ttlSeconds (d : Redispatch) : ℕ := if d.remaining < 60 then 300 else d.remaining

def newExpiresAt (d : Redispatch) : Millis :=
  if d.remaining < 60 then d.now + 300 * 1000 else d.record.expiresAt

def response (env : Env) (d : Redispatch) : ResendResponse :=
  ⟨d.record.requestId, maskPhoneNumber d.record.phoneNumber, d.record.status, d.newExpiresAt,
    env.otpCreditCost, 1⟩

end Redispatch

namespace ResendCall

def goto (c : ResendCall) (pc : ResendPc) : ResendCall := { c with pc := pc }

def alreadyVerified : AppError :=
  ⟨400, "This OTP has already been successfully verified.", "ALREADY_VERIFIED", []⟩

def requestExpired : AppError :=
  ⟨400, "The OTP request has expired. Please request a new OTP.", "OTP_EXPIRED", []⟩

def cooldownError : AppError :=
  RateLimitError
    "An OTP was recently sent to this phone number. Please wait 60 seconds."
    "COOLDOWN_ACTIVE"

def phoneHash (env : Env) (record : OtpRequest) : String := hashPhoneNumber env record.phoneNumber

def job (env : Env) (c : ResendCall) (d : Redispatch) : SendOtpJobData :=
  { otpRequestDbId := d.record.id
    requestId := d.record.requestId
    phoneNumber := d.record.phoneNumber
    otpCode := d.newOtpCode
    templateName := "otp_auth_v1"
    languageCode := "en_US"
    customerId := c.customer.id
    costCredits := env.otpCreditCost }

def step (env : Env) (w : World) (c : ResendCall) (a : Answer) : Option (World × ResendCall) :=
  match c.pc with
  | .findRecord =>
    if a.ok then
      match w.db.findOtpRequest c.requestId c.applicationId with
      | none => some (w, c.goto (.rejected (otpNotFound c.requestId)))
      | some record =>
        if record.status = .verified then some (w, c.goto (.rejected alreadyVerified))
        -- `now` is read once, here, and used for the new expiry later
        else if record.expiresAt < w.now then some (w, c.goto (.expire record.id))
        else some (w, c.goto (.cooldown record w.now))
    else some (w, c.goto .internalError)
  | .expire record =>
    if a.ok then
      some (w.mapDb (·.setStatus record .expired), c.goto (.rejected requestExpired))
    else some (w, c.goto .internalError)
  | .cooldown record now =>
    if checkPhoneCooldown env w c.process (phoneHash env record) a.ok then
      some (w, c.goto (.rejected cooldownError))
    else some (w, c.goto (.debit ⟨record, generateOtpDigits 6 c.draw, now⟩))
  -- the debit names the request id, as every resend of the request does
  | .debit d =>
    if a.ok then
      match WalletService.deductCreditsAtomic resolves (w.db.wallets c.customer.id) env.otpCreditCost
          "otp_resend" d.record.requestId with
      | .ok (_, wallet) => some (w.mapDb (·.setWallet c.customer.id wallet), c.goto (.update d))
      | .error (.app error) => some (w, c.goto (.rejected error))
      | .error .database => some (w, c.goto .internalError)
    else some (w, c.goto .internalError)
  -- the row gets the new hash but keeps its status and its attempts
  | .update d =>
    if a.ok then
      some (w.mapDb (·.updateOtpRequest d.record.id fun r =>
          { r with otpHash := hashOtpCode env d.newOtpCode, expiresAt := d.newExpiresAt }),
        c.goto (.store d))
    else some (w, c.goto .internalError)
  | .store d =>
    some (storeOtp w c.process (c.applicationId, phoneHash env d.record)
        (storedOtp env d.newOtpCode d.record.requestId) d.ttlSeconds a.ok,
      c.goto (.setCooldown d))
  | .setCooldown d =>
    some (setPhoneCooldown env w c.process (phoneHash env d.record) a.ok, c.goto (.enqueue d))
  | .enqueue d =>
    if a.ok then some (addSendOtpJob w (c.job env d), c.goto (.replied d))
    else some (w, c.goto (.fallback d))
  -- a failed delivery is not refunded, and the answer is 202 all the same
  | .fallback d =>
    if a.ok then
      let w := sendOtp w d.record.phoneNumber d.newOtpCode "otp_auth_v1" "en_US" a.delivery
      if a.delivery.success then some (w, c.goto (.fallbackSent d))
      else some (w, c.goto (.replied d))
    else some (w, c.goto .internalError)
  | .fallbackSent d =>
    if a.ok then some (w.mapDb (·.setStatus d.record.id .sent), c.goto (.replied d))
    else some (w, c.goto .internalError)
  | .replied _ => none
  | .rejected _ => none
  | .internalError => none

end ResendCall

end SelfOtp
