import SelfOtp.Model.Middleware
import SelfOtp.Model.OtpService

/-! `POST /v1/otp/send` (`otp.routes.ts`), after the body has been validated. -/
namespace SelfOtp

/-- The rate limits of the handler, in the order they are checked. -/
inductive SendLimit where
  | ip | phone | customer | apiKey
  deriving DecidableEq

/-- What the handler has settled on when it creates the `otp_requests` row. -/
structure Dispatch where
  record : Id
  requestId : String
  otpCode : String
  expiresAt : Millis
  deriving DecidableEq

inductive SendPc where
  | customerBlocked
  | phoneBlocked
  | idempotencyCache (idempotencyKey : String)
  | idempotencyRecord (idempotencyKey : String)
  | limit (limit : SendLimit) (call : LimitCall)
  | cooldown
  | create (otpCode requestId : String) (expiresAt : Millis)
  | debit (d : Dispatch)
  | store (d : Dispatch)
  | setCooldown (d : Dispatch)
  | enqueue (d : Dispatch)
  | fallback (d : Dispatch)
  | fallbackSent (d : Dispatch)
  | fallbackFailed (d : Dispatch) (reason : String)
  | fallbackRefund (d : Dispatch) (reason : String)
  | saveCache (d : Dispatch) (idempotencyKey : String)
  | saveRecord (d : Dispatch) (idempotencyKey : String)
  | replied (statusCode : ℕ) (response : SendResponse)
  | rejected (error : AppError)
  | internalError
  deriving DecidableEq

/-- A request whose API key has been authenticated. `draw` and `bytes` are what the random
generators yield for it. -/
structure SendCall where
  body : SendBody
  apiKeyId : Id
  applicationId : Id
  customer : Customer
  clientIp : String
  idempotencyKey : Option String
  draw : ℕ
  bytes : ℕ
  process : ℕ
  pc : SendPc
  deriving DecidableEq

namespace SendCall

def goto (c : SendCall) (pc : SendPc) : SendCall := { c with pc := pc }

def phoneHash (env : Env) (c : SendCall) : String := hashPhoneNumber env c.body.phoneNumber

def customerBlockedError : AppError :=
  ForbiddenError "Customer account is suspended or blocked due to policy violations."
    "CUSTOMER_BLOCKED"

def phoneBlockedError : AppError :=
  ForbiddenError
    "This phone number is temporarily blocked due to excessive failed attempts or abuse."
    "PHONE_BLOCKED"

def cooldownError : AppError :=
  RateLimitError
    "An OTP was recently requested for this phone number. Please wait 60 seconds."
    "COOLDOWN_ACTIVE"

def limitError : SendLimit → AppError
  | .ip => RateLimitError "Too many requests from this IP address. Please slow down."
      "IP_RATE_LIMITED"
  | .phone => RateLimitError "Too many OTP requests for this phone number. Please wait."
      "PHONE_RATE_LIMITED"
  | .customer => RateLimitError "Customer rate limit exceeded." "CUSTOMER_RATE_LIMITED"
  | .apiKey => RateLimitError "API key rate limit exceeded." "API_KEY_RATE_LIMITED"

def limitCall (env : Env) (w : World) (c : SendCall) : SendLimit → LimitCall
  | .ip => .start w c.process (.ip c.clientIp) 10 60
  | .phone => .start w c.process (.phone (c.phoneHash env)) 3 600
  | .customer => .start w c.process (.customer c.customer.id) 60 60
  | .apiKey => .start w c.process (.apiKey c.apiKeyId) env.defaultApiKeyRateLimitRps 1

def nextLimit (env : Env) (w : World) (c : SendCall) : SendLimit → SendPc
  | .ip => .limit .phone (c.limitCall env w .phone)
  | .phone => .limit .customer (c.limitCall env w .customer)
  | .customer => .limit .apiKey (c.limitCall env w .apiKey)
  | .apiKey => .cooldown

/-- The key of the request, unless the header is missing or empty. -/
def key (c : SendCall) : Option String := c.idempotencyKey.filter (· ≠ "")

def response (env : Env) (c : SendCall) (d : Dispatch) : SendResponse :=
  ⟨d.requestId, maskPhoneNumber c.body.phoneNumber, "created", d.expiresAt, env.otpCreditCost⟩

/-- After the dispatch. -/
def finish (env : Env) (c : SendCall) (d : Dispatch) : SendPc :=
  match c.key with
  | some idempotencyKey => .saveCache d idempotencyKey
  | none => .replied 202 (c.response env d)

def row (env : Env) (c : SendCall) (id : Id) (otpCode requestId : String) (expiresAt : Millis) :
    OtpRequest :=
  { id := id
    customerId := c.customer.id
    applicationId := c.applicationId
    apiKeyId := some c.apiKeyId
    requestId := requestId
    phoneNumber := c.body.phoneNumber
    otpHash := hashOtpCode env otpCode
    status := .created
    expiresAt := expiresAt
    attempts := 0
    maxAttempts := env.otpMaxVerifyAttempts
    verifiedAt := none }

def job (env : Env) (c : SendCall) (d : Dispatch) : SendOtpJobData :=
  { otpRequestDbId := d.record
    requestId := d.requestId
    phoneNumber := c.body.phoneNumber
    otpCode := d.otpCode
    templateName := c.body.templateName
    languageCode := c.body.languageCode
    customerId := c.customer.id
    costCredits := env.otpCreditCost }

def step (env : Env) (w : World) (c : SendCall) (a : Answer) : Option (World × SendCall) :=
  match c.pc with
  | .customerBlocked =>
    if isCustomerBlocked w c.process c.customer.id a.ok || c.customer.status != .active then
      some (w, c.goto (.rejected customerBlockedError))
    else some (w, c.goto .phoneBlocked)
  -- an absent or empty key skips the look-up
  | .phoneBlocked =>
    if isPhoneBlocked w c.process (c.phoneHash env) a.ok then
      some (w, c.goto (.rejected phoneBlockedError))
    else match c.key with
      | some idempotencyKey => some (w, c.goto (.idempotencyCache idempotencyKey))
      | none => some (w, c.goto (.limit .ip (c.limitCall env w .ip)))
  | .idempotencyCache idempotencyKey =>
    match cachedResponse w c.process c.applicationId idempotencyKey a.ok with
    | some cached => some (w, c.goto (.replied 200 cached))
    | none => some (w, c.goto (.idempotencyRecord idempotencyKey))
  | .idempotencyRecord idempotencyKey =>
    match recordedResponse w c.applicationId idempotencyKey "/v1/otp/send" a.ok with
    | some cached => some (w, c.goto (.replied 200 cached))
    | none => some (w, c.goto (.limit .ip (c.limitCall env w .ip)))
  -- a limit may take several Redis commands; the call stays with it until it answers
  | .limit limit call =>
    let (w, outcome) := call.step w a.ok
    match outcome with
    | .pending call => some (w, c.goto (.limit limit call))
    | .done isLimited _ =>
      if isLimited then some (w, c.goto (.rejected (limitError limit)))
      else some (w, c.goto (c.nextLimit env w limit))
  | .cooldown =>
    if checkPhoneCooldown env w c.process (c.phoneHash env) a.ok then
      some (w, c.goto (.rejected cooldownError))
    else
      let otpCode := match c.body.otp with
        | some otp => otp
        | none => generateOtpDigits 6 c.draw
      -- `new Date` cuts the fraction of a millisecond off
      let expiresAt := (w.now + 1000 * c.body.ttlSeconds : ℚ).floor.toNat
      some (w, c.goto (.create otpCode (generateRequestId c.bytes) expiresAt))
  -- the row comes before the debit: a send that cannot pay leaves it behind
  | .create otpCode requestId expiresAt =>
    match (if a.ok then
        w.db.createOtpRequest (c.row env w.nextId otpCode requestId expiresAt) else none) with
    | some db => some ({ w with db := db, nextId := w.nextId + 1 },
        c.goto (.debit ⟨w.nextId, requestId, otpCode, expiresAt⟩))
    | none => some (w, c.goto .internalError)
  | .debit d =>
    if a.ok then
      match WalletService.deductCreditsAtomic resolves (w.db.wallets c.customer.id) env.otpCreditCost
          "otp_request" (uuidText d.record) with
      | .ok (_, wallet) => some (w.mapDb (·.setWallet c.customer.id wallet), c.goto (.store d))
      | .error (.app error) => some (w, c.goto (.rejected error))
      | .error .database => some (w, c.goto .internalError)
    else some (w, c.goto .internalError)
  | .store d =>
    some (storeOtp w c.process (c.applicationId, c.phoneHash env)
        (storedOtp env d.otpCode d.requestId) c.body.ttlSeconds a.ok,
      c.goto (.setCooldown d))
  | .setCooldown d =>
    some (setPhoneCooldown env w c.process (c.phoneHash env) a.ok, c.goto (.enqueue d))
  -- only a refused `add` leads to the fallback
  | .enqueue d =>
    if a.ok then some (addSendOtpJob w (c.job env d), c.goto (c.finish env d))
    else some (w, c.goto (.fallback d))
  -- inside the `catch` nothing is caught: a thrown error ends the request
  | .fallback d =>
    if a.ok then
      let w := sendOtp w c.body.phoneNumber d.otpCode c.body.templateName c.body.languageCode
        a.delivery
      if a.delivery.success then some (w, c.goto (.fallbackSent d))
      else some (w, c.goto (.fallbackFailed d (a.delivery.reason "Delivery failed")))
    else some (w, c.goto .internalError)
  | .fallbackSent d =>
    if a.ok then some (w.mapDb (·.setStatus d.record .sent), c.goto (c.finish env d))
    else some (w, c.goto .internalError)
  | .fallbackFailed d reason =>
    if a.ok then
      some (w.mapDb (·.setStatus d.record .failed), c.goto (.fallbackRefund d reason))
    else some (w, c.goto .internalError)
  -- the refund names the request id, the debit the id of the row
  | .fallbackRefund d reason =>
    if a.ok then
      match WalletService.refundCredits resolves (w.db.wallets c.customer.id) env.otpCreditCost
          "otp_request_failure" d.requestId reason with
      | .ok (_, wallet) =>
        some (w.mapDb (·.setWallet c.customer.id wallet), c.goto (c.finish env d))
      | .error (.app error) => some (w, c.goto (.rejected error))
      | .error .database => some (w, c.goto .internalError)
    else some (w, c.goto .internalError)
  -- `saveIdempotentResponse` swallows the errors of both of its writes
  | .saveCache d idempotencyKey =>
    some (cacheResponse w c.process c.applicationId idempotencyKey (c.response env d) a.ok,
      c.goto (.saveRecord d idempotencyKey))
  | .saveRecord d idempotencyKey =>
    some (recordResponse w ⟨c.customer.id, c.applicationId, idempotencyKey, "/v1/otp/send", 202,
        c.response env d⟩ a.ok,
      c.goto (.replied 202 (c.response env d)))
  | .replied .. => none
  | .rejected _ => none
  | .internalError => none

end SendCall

end SelfOtp
