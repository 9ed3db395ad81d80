import SelfOtp.Model.Crypto
import SelfOtp.Model.World

/-! `OTPService` (`otp.service.ts`) and the phone block of `rate-limit.ts`. Each step is one
awaited call together with the code up to the next `await`. -/
namespace SelfOtp

/-! ### storeOtp, cooldown, blockPhoneNumber -/

def storedOtp (env : Env) (otpCode requestId : String) : StoredOtp :=
  ⟨hashOtpCode env otpCode, requestId, 0⟩

def Memory.setOtp (m : Memory) (key : OtpKey) (otp : StoredOtp) (expiresAt : ℚ) : Memory :=
  { m with
    otp := Function.update m.otp key (some m.nextObject)
    heap := Function.update m.heap m.nextObject ⟨otp, expiresAt⟩
    nextObject := m.nextObject + 1 }

/-- The `redis.set` of `storeOtp`, with the in-memory fallback when it fails. -/
def storeOtp (w : World) (process : ℕ) (key : OtpKey) (data : StoredOtp) (ttlSeconds : ℚ)
    (ok : Bool) : World :=
  match (if ok then w.redis.otp.setEx w.now key data ttlSeconds else none) with
  | some otp => w.mapRedis fun r => { r with otp := otp }
  | none => w.mapMemory process fun m => m.setOtp key data (seconds w.now + ttlSeconds)

def setPhoneCooldown (env : Env) (w : World) (process : ℕ) (phoneHash : String) (ok : Bool) :
    World :=
  match (if ok then w.redis.cooldown.setEx w.now phoneHash () env.otpCooldownSeconds else none) with
  | some cooldown => w.mapRedis fun r => { r with cooldown := cooldown }
  | none => w.mapMemory process fun m =>
      { m with cooldown := Function.update m.cooldown phoneHash (some (seconds w.now)) }

def checkPhoneCooldown (env : Env) (w : World) (process : ℕ) (phoneHash : String) (ok : Bool) :
    Bool :=
  if ok && (w.redis.cooldown.get w.now phoneHash).isSome then true
  else
    let lastTime := ((w.memory process).cooldown phoneHash).getD 0
    seconds w.now - lastTime < env.otpCooldownSeconds

def blockPhoneNumber (w : World) (process : ℕ) (phoneHash : String) (durationSeconds : ℚ)
    (ok : Bool) : World :=
  match (if ok then w.redis.blockedPhones.setEx w.now phoneHash () durationSeconds else none) with
  | some blocked => w.mapRedis fun r => { r with blockedPhones := blocked }
  | none => w.mapMemory process fun m =>
      { m with
        blockedPhones :=
          Function.update m.blockedPhones phoneHash (some (seconds w.now + durationSeconds)) }

/-! ### verifyOtp -/

def otpExpired : AppError :=
  ⟨400, "The verification code has expired or was not requested.", "OTP_EXPIRED", []⟩

def maxAttemptsExceeded : AppError :=
  ⟨400, "Maximum verification attempts exceeded. Please request a new OTP.",
    "MAX_ATTEMPTS_EXCEEDED", []⟩

def invalidOtp (remaining : ℕ) : AppError :=
  ⟨400, "The verification code is incorrect.", "INVALID_OTP", [("remaining_attempts", remaining)]⟩

structure VerifyResult where
  requestId : String
  phoneNumber : String
  verifiedAt : Millis
  message : String
  deriving DecidableEq

/-- `storedData` with the values read off it at the lookup. `object` refers to the in-memory
object; data parsed from Redis is a private copy. -/
structure Fetched where
  data : StoredOtp
  object : Option ℕ
  attempts : ℕ
  deriving DecidableEq

/-- The awaited call a `verifyOtp` call is at. `record` is the id of `otpRecord`. -/
inductive VerifyPc where
  | lookup
  | findRecord (f : Fetched)
  | incorrectAttempts (f : Fetched) (record : Id)
  | incorrectVerification (f : Fetched) (record : Id)
  | maxStatus (f : Fetched) (record : Id)
  | maxBlock (f : Fetched)
  | maxDelete (f : Fetched)
  | ttl (f : Fetched)
  | writeBack (f : Fetched) (ttl : ℤ)
  | delete (f : Fetched) (record : Option Id)
  | verifiedStatus (f : Fetched) (record : Id) (verifiedTime : Millis)
  | correctVerification (f : Fetched) (record : Id) (verifiedTime : Millis)
  | verified (result : VerifyResult)
  | rejected (error : AppError)
  | internalError
  deriving DecidableEq

structure VerifyCall where
  phoneNumber : String
  submittedCode : String
  applicationId : Id
  ipAddress : Option String
  userAgent : Option String
  process : ℕ
  /-- `isValid`, once the codes have been compared. -/
  isValid : Option Bool
  pc : VerifyPc
  deriving DecidableEq

namespace VerifyCall

def phoneHash (env : Env) (c : VerifyCall) : String := hashPhoneNumber env c.phoneNumber

def key (env : Env) (c : VerifyCall) : OtpKey := (c.applicationId, c.phoneHash env)

def goto (c : VerifyCall) (pc : VerifyPc) : VerifyCall := { c with pc := pc }

/-- The entry found in Redis or else, when it has not expired, in the process memory. -/
def lookup (c : VerifyCall) (env : Env) (w : World) (ok : Bool) : Option Fetched :=
  match (if ok then w.redis.otp.get w.now (c.key env) else none) with
  -- `JSON.parse` gives the call a copy of its own
  | some data => some ⟨data, none, data.attempts + 1⟩
  | none =>
    let memory := w.memory c.process
    match memory.otp (c.key env) with
    | some object =>
      let data := memory.heap object
      -- the map yields the object itself, so that later writes to it are shared
      if seconds w.now ≤ data.expiresAt then some ⟨data.otp, some object, data.otp.attempts + 1⟩
      else none
    | none => none

/-- After the bookkeeping of a wrong code. -/
def afterIncorrect (env : Env) (f : Fetched) (record : Option Id) : VerifyPc :=
  if env.otpMaxVerifyAttempts ≤ f.attempts then
    match record with
    | some id => .maxStatus f id
    | none => .maxBlock f
  else .ttl f

/-- `storedData.attempts = attempts`, on an object that the map may still refer to. -/
def mutate (c : VerifyCall) (w : World) (f : Fetched) : World :=
  match f.object with
  | none => w
  | some object => w.mapMemory c.process fun m =>
      let data := m.heap object
      { m with
        heap := Function.update m.heap object
          { data with otp := { data.otp with attempts := f.attempts } } }

/-- `storedData` as it is now. -/
def storedData (c : VerifyCall) (w : World) (f : Fetched) : StoredOtp :=
  match f.object with
  | none => f.data
  | some object => ((w.memory c.process).heap object).otp

/-- `redis.del(key)`, whose failure is ignored, and `inMemoryOtpStore.delete(key)`. -/
def deleteEntry (c : VerifyCall) (env : Env) (w : World) (ok : Bool) : World :=
  let w := if ok then w.mapRedis fun r => { r with otp := r.otp.del (c.key env) } else w
  w.mapMemory c.process fun m => { m with otp := Function.update m.otp (c.key env) none }

def result (c : VerifyCall) (f : Fetched) (verifiedTime : Millis) : VerifyResult :=
  ⟨f.data.requestId, maskPhoneNumber c.phoneNumber, verifiedTime, "OTP verified successfully"⟩

def verification (c : VerifyCall) (f : Fetched) (record : Id) (result : OtpVerificationResult) :
    OtpVerification :=
  ⟨record, f.attempts, result, c.ipAddress, c.userAgent⟩

def step (env : Env) (w : World) (c : VerifyCall) (ok : Bool) : Option (World × VerifyCall) :=
  match c.pc with
  | .lookup =>
    match c.lookup env w ok with
    | some f => some (w, c.goto (.findRecord f))
    | none => some (w, c.goto (.rejected otpExpired))
  | .findRecord f =>
    if ok then
      let record := (w.db.findOtpRequest f.data.requestId c.applicationId).map (·.id)
      -- the codes are compared only now, after the query, with the hash read before it
      if verifyOtpCode env c.submittedCode f.data.otpHash then
        some (w, { c with isValid := some true, pc := .delete f record })
      else
        let f' := { f with data := { f.data with attempts := f.attempts } }
        let next := match record with
          | some id => .incorrectAttempts f' id
          | none => afterIncorrect env f' none
        -- `storedData.attempts = attempts` runs in the same turn as the comparison
        some (c.mutate w f, { c with isValid := some false, pc := next })
    else some (w, c.goto .internalError)
  | .incorrectAttempts f record =>
    if ok then
      some (w.mapDb (·.updateOtpRequest record fun r => { r with attempts := f.attempts }),
        c.goto (.incorrectVerification f record))
    else some (w, c.goto .internalError)
  | .incorrectVerification f record =>
    if ok then
      some (w.mapDb (·.createVerification (c.verification f record .incorrect)),
        c.goto (afterIncorrect env f (some record)))
    else some (w, c.goto .internalError)
  | .maxStatus f record =>
    if ok then some (w.mapDb (·.setStatus record .expired), c.goto (.maxBlock f))
    else some (w, c.goto .internalError)
  -- `blockPhoneNumber` falls back to memory: it does not throw
  | .maxBlock f =>
    some (blockPhoneNumber w c.process (c.phoneHash env) 3600 ok, c.goto (.maxDelete f))
  | .maxDelete _ => some (c.deleteEntry env w ok, c.goto (.rejected maxAttemptsExceeded))
  -- a failed `redis.ttl`, or no life left, skips the write: the `catch` is empty
  | .ttl f =>
    let remaining := env.otpMaxVerifyAttempts - f.attempts
    let ttl := w.redis.otp.ttl w.now (c.key env)
    if ok && 0 < ttl then some (w, c.goto (.writeBack f ttl))
    else some (w, c.goto (.rejected (invalidOtp remaining)))
  -- the whole record is written again, as it is now, with the life read before
  | .writeBack f ttl =>
    let remaining := env.otpMaxVerifyAttempts - f.attempts
    let done := c.goto (.rejected (invalidOtp remaining))
    match (if ok then w.redis.otp.setEx w.now (c.key env) (c.storedData w f) ttl else none) with
    | some otp => some (w.mapRedis fun r => { r with otp := otp }, done)
    | none => some (w, done)
  | .delete f record =>
    -- `verifiedTime` is taken right after the deletion
    let w := c.deleteEntry env w ok
    match record with
    | some id => some (w, c.goto (.verifiedStatus f id w.now))
    | none => some (w, c.goto (.verified (c.result f w.now)))
  | .verifiedStatus f record verifiedTime =>
    if ok then
      some (w.mapDb (·.updateOtpRequest record fun r =>
          { r with status := .verified, attempts := f.attempts, verifiedAt := some verifiedTime }),
        c.goto (.correctVerification f record verifiedTime))
    else some (w, c.goto .internalError)
  | .correctVerification f record verifiedTime =>
    if ok then
      some (w.mapDb (·.createVerification (c.verification f record .correct)),
        c.goto (.verified (c.result f verifiedTime)))
    else some (w, c.goto .internalError)
  | .verified _ => none
  | .rejected _ => none
  | .internalError => none

end VerifyCall

/-! ### getOtpStatus -/

structure StatusView where
  requestId : String
  phoneNumber : String
  status : OtpStatus
  attempts : ℕ
  maxAttempts : ℕ
  expiresAt : Millis
  verifiedAt : Option Millis

def otpNotFound (requestId : String) : AppError :=
  ⟨404, "OTP request with ID '" ++ requestId ++ "' was not found.", "OTP_NOT_FOUND", []⟩

inductive StatusPc where
  | findRecord
  | expire (record : OtpRequest)
  | answered (view : StatusView)
  | rejected (error : AppError)
  | internalError

structure StatusCall where
  requestId : String
  applicationId : Id
  pc : StatusPc

namespace StatusCall

def view (r : OtpRequest) (status : OtpStatus) : StatusView :=
  ⟨r.requestId, maskPhoneNumber r.phoneNumber, status, r.attempts, r.maxAttempts, r.expiresAt,
    r.verifiedAt⟩

/-- The request is over its time and in none of the three final statuses. -/
def lapsed (now : Millis) (r : OtpRequest) : Bool :=
  r.status != .verified && r.status != .expired && r.status != .failed && r.expiresAt < now

def step (w : World) (c : StatusCall) (ok : Bool) : Option (World × StatusCall) :=
  match c.pc with
  | .findRecord =>
    if ok then
      match w.db.findOtpRequest c.requestId c.applicationId with
      | none => some (w, { c with pc := .rejected (otpNotFound c.requestId) })
      | some r =>
        if lapsed w.now r then some (w, { c with pc := .expire r })
        else some (w, { c with pc := .answered (view r r.status) })
    else some (w, { c with pc := .internalError })
  | .expire r =>
    if ok then some (w.mapDb (·.setStatus r.id .expired), { c with pc := .answered (view r .expired) })
    else some (w, { c with pc := .internalError })
  | .answered _ => none
  | .rejected _ => none
  | .internalError => none

end StatusCall

end SelfOtp
