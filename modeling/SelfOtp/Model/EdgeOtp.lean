import SelfOtp.Model.EdgeDatabase

/-! The Edge function `otp` (`supabase/functions/otp/index.ts`) with `_shared/crypto.ts` and
`_shared/meta.ts`. Each step is one awaited call together with the code up to the next `await`. -/
namespace SelfOtp.Edge

/-- A call of `sendWhatsAppOtp`, and whether it succeeded. -/
structure MetaCall where
  calledAt : Millis
  recipientPhone : Json
  otpCode : JsString
  templateName : Json
  language : Json
  success : Bool

structure MetaSendResult where
  success : Bool
  messageId : JsString
  deriving DecidableEq

structure World where
  now : Millis
  /-- The next primary key. -/
  nextId : Id
  db : Database
  metaCalls : List MetaCall

/-- How an awaited call ends: `ok`, or else with the error `error`. `delivery` is the result of
`sendWhatsAppOtp`, which never rejects. -/
structure Answer where
  ok : Bool
  error : JsString
  delivery : MetaSendResult
  deriving DecidableEq

/-! ### `crypto.ts` -/

/-- V8's `String::kMaxLength`. -/
def maxStringLength : ℕ := 2 ^ 29 - 24

/-- `digits[randomBytes[i] % 10]`; beyond the bytes it is undefined, and added as a text. -/
def otpDigit (randomBytes : List UInt8) (i : ℕ) : JsString :=
  match randomBytes[i]? with
  | some byte => [(0x30 + byte.toNat % 10).toUInt16]
  | none => js "undefined"

/-- The loop of `generateOtp`, `n` times. -/
def otpDigits (randomBytes : List UInt8) (n : ℕ) : JsString :=
  (List.range n).flatMap (otpDigit randomBytes)

/-- `generateOtp(length)`; `none` when it throws. -/
def generateOtp (length : Json) (random : ℕ → UInt8) : Option JsString := do
  let size ← length.uint8ArrayLength
  -- the quota of `getRandomValues`
  if 65536 < size then none
  let n ← (← length.toNumber).below
  let otp := otpDigits ((List.range size).map random) n
  if maxStringLength < otp.length then none else return otp

def hashApiKey (env : Env) (apiKey : String) : String := env.sha256 (apiKey ++ ":" ++ env.pepper)

def hashOtp (env : Env) (code : JsString) : String := env.hmac code.trim.utf8

/-- `wotp_` and 24 digits of a random UUID. -/
def newRequestId (uuid : ℕ) : JsString := js ("wotp_" ++ String.ofList (hexDigits 24 uuid))

/-! ### Requests and replies -/

inductive Action where
  | send | verify | resend
  deriving DecidableEq

/-- A POST request. `body` is the JSON value of its body, if it has one; `random` and `uuid` are what
the random generators yield for it. -/
structure Request where
  action : Action
  apiKey : Option String
  idempotencyKey : Option JsString
  body : Option Json
  random : ℕ → UInt8
  uuid : ℕ

structure VerifyData where
  id : Id
  requestId : JsString
  verifiedAt : Millis
  deriving DecidableEq

structure ResendData where
  id : Id
  requestId : JsString
  expiresAt : Millis
  cooldownSeconds : ℕ
  deriving DecidableEq

/-- `crashed` is the answer of the catch-all: 500, `INTERNAL_SERVER_ERROR` and the engine's text. -/
inductive Reply where
  | sent (status : ℕ) (data : SendData)
  | verified (data : VerifyData)
  | resent (data : ResendData)
  | error (message : JsString) (code : String) (status : ℕ)
  | crashed
  deriving DecidableEq

def errorResponse (message code : String) (status : ℕ) : Reply := .error (js message) code status

/-- `await req.json().catch(() => ({}))`. -/
def Request.json (request : Request) : Json := request.body.getD (.object [])

/-- `authenticateApiKey`, once the key has been looked up. -/
def authenticateApiKey (env : Env) (w : World) (apiKey : String) (ok : Bool) : Except Reply ApiKey :=
  match (if ok then w.db.findApiKey (hashApiKey env apiKey) else none) with
  | none => .error (errorResponse "Invalid API key" "UNAUTHORIZED" 401)
  | some keyRecord =>
    match keyRecord.status with
    | .revoked => .error (errorResponse "API key is revoked" "UNAUTHORIZED" 403)
    | .expired => .error (errorResponse "API key is expired" "UNAUTHORIZED" 403)
    | .active =>
      if keyRecord.expiresAt.any (· < w.now) then
        .error (errorResponse "API key has expired" "UNAUTHORIZED" 403)
      else .ok keyRecord

/-! ### POST /send -/

/-- What the insert is made with. -/
structure Prepared where
  otpHash : String
  requestId : JsString
  expiresAt : Millis
  deriving DecidableEq

/-- A write whose end is not awaited. -/
inductive Write where
  | message (row : Message)
  | idempotencyKey (row : IdempotencyKey)
  deriving DecidableEq

inductive SendPc where
  | lookup (key : JsString)
  | deduct (description : JsString)
  | hash (otpCode : JsString)
  | dispatch (otpCode : JsString) (d : Prepared)
  | insert (d : Prepared) (metaResult : MetaSendResult)
  | refund (message : JsString)
  | answered (reply : Reply) (writes : List Write)
  deriving DecidableEq

structure SendCall where
  keyRecord : ApiKey
  phoneNumber : Json
  idempotencyKey : Option Json
  length : Json
  templateName : Json
  language : Json
  random : ℕ → UInt8
  uuid : ℕ
  pc : SendPc

namespace SendCall

def goto (c : SendCall) (pc : SendPc) : SendCall := { c with pc := pc }

/-- The template literals of the description and of the filter throw for a value without a text. -/
def textOr (j : Json) (next : JsString → SendPc) : SendPc :=
  match j.toText with
  | some text => next text
  | none => .answered .crashed []

def describe (phoneNumber : Json) : SendPc :=
  textOr phoneNumber fun text => .deduct (js "WhatsApp OTP to " ++ text)

/-- The handler up to its first awaited query. -/
def start (keyRecord : ApiKey) (request : Request) : Except Reply SendCall :=
  let body := request.json
  match body.either "phone_number" "recipient_phone" with
  | none => .error .crashed
  | some phone =>
    match phone.filter Json.truthy with
    | none => .error (errorResponse "phone_number is required" "VALIDATION_ERROR" 400)
    | some phoneNumber =>
      let field (name : String) (default : Json) := Json.orElse ((body.get name).getD none) default
      let header := request.idempotencyKey.filter (· ≠ [])
      let idempotencyKey := match header with
        | some key => some (.string key)
        | none => ((body.get "idempotency_key").getD none).filter Json.truthy
      .ok {
        keyRecord, phoneNumber, idempotencyKey
        length := field "length" (.number "6")
        templateName := field "template_name" (.string (js "otp_verification"))
        language := field "language" (.string (js "en_US"))
        random := request.random
        uuid := request.uuid
        pc := match idempotencyKey with
          | some key => textOr key .lookup
          | none => describe phoneNumber }

def row (c : SendCall) (w : World) (d : Prepared) (metaResult : MetaSendResult) : OtpRequest :=
  { id := w.nextId
    customerId := c.keyRecord.customerId
    applicationId := c.keyRecord.applicationId
    apiKeyId := c.keyRecord.id
    requestId := d.requestId
    phoneNumber := columnText c.phoneNumber
    otpHash := d.otpHash
    status := if metaResult.success then .sent else .failed
    expiresAt := d.expiresAt
    attempts := 0
    maxAttempts := 5
    verifiedAt := none
    createdAt := w.now }

def message (c : SendCall) (inserted : OtpRequest) (metaResult : MetaSendResult) : Message :=
  { customerId := c.keyRecord.customerId
    otpRequestId := inserted.id
    provider := "meta"
    providerMessageId := metaResult.messageId
    phoneNumber := inserted.phoneNumber
    messageType := "authentication"
    status := if metaResult.success then .sent else .failed }

def responsePayload (env : Env) (inserted : OtpRequest) : SendData :=
  ⟨inserted.id, inserted.requestId, inserted.phoneNumber, inserted.status, inserted.expiresAt,
    env.otpCooldownSeconds⟩

/-- The writes after the insert, which the answer does not wait for. -/
def writes (env : Env) (c : SendCall) (w : World) (inserted : OtpRequest)
    (metaResult : MetaSendResult) : List Write :=
  (if metaResult.messageId = [] then [] else [.message (c.message inserted metaResult)]) ++
    match c.idempotencyKey with
    | some key => [.idempotencyKey ⟨c.keyRecord.customerId, c.keyRecord.applicationId,
        columnText key, 200, responsePayload env inserted, w.now + 86400 * 1000⟩]
    | none => []

def write (w : World) : Write → World
  | .message row => { w with db := { w.db with messages := w.db.messages ++ [row] } }
  | .idempotencyKey row => { w with db := w.db.upsertIdempotencyKey row }

def step (env : Env) (w : World) (c : SendCall) (a : Answer) : Option (World × SendCall) :=
  match c.pc with
  -- an error of this query counts as no cached response
  | .lookup key =>
    let rows := w.db.idempotencyKeys.filter fun k =>
      k.customerId == c.keyRecord.customerId && k.key == key
    match (if a.ok then single rows else none) with
    | some cached =>
      if w.now < cached.expiresAt then
        some (w, c.goto (.answered (.sent cached.responseCode cached.responseBody) []))
      else some (w, c.goto (describe c.phoneNumber))
    | none => some (w, c.goto (describe c.phoneNumber))
  -- the code is generated when the credit has been deducted; the call names no `p_reference_id`
  | .deduct description =>
    match (if a.ok then
        w.db.deductWalletCredit c.keyRecord.customerId env.otpCreditCost none description else none) with
    | none => some (w, c.goto (.answered
        (errorResponse "Insufficient wallet balance to send OTP" "INSUFFICIENT_FUNDS" 402) []))
    | some (_, .insufficient ..) =>
      some (w, c.goto (.answered (errorResponse "INSUFFICIENT_FUNDS" "INSUFFICIENT_FUNDS" 402) []))
    | some (db, .success _) =>
      match generateOtp c.length c.random with
      | some otpCode => some ({ w with db := db }, c.goto (.hash otpCode))
      | none => some ({ w with db := db }, c.goto (.answered .crashed []))
  | .hash otpCode =>
    some (w, c.goto (.dispatch otpCode
      ⟨hashOtp env otpCode, newRequestId c.uuid, w.now + env.otpExpirySeconds * 1000⟩))
  | .dispatch otpCode d =>
    let call : MetaCall :=
      ⟨w.now, c.phoneNumber, otpCode, c.templateName, c.language, a.delivery.success⟩
    some ({ w with metaCalls := w.metaCalls ++ [call] }, c.goto (.insert d a.delivery))
  | .insert d metaResult =>
    let inserted := c.row w d metaResult
    match (if a.ok then w.db.insertOtpRequest inserted else none) with
    | some db => some ({ w with db := db, nextId := w.nextId + 1 },
        c.goto (.answered (.sent 200 (responsePayload env inserted)) (c.writes env w inserted metaResult)))
    | none => some (w, c.goto (.refund
        (if a.error = [] then js "Failed to record OTP request" else a.error)))
  -- its result is not looked at; again no `p_reference_id`, and the procedure's own description
  | .refund message =>
    let db := match (if a.ok then
        w.db.refundWalletCredit c.keyRecord.customerId env.otpCreditCost none
          (js "OTP Delivery Failure Refund") else none) with
      | some (db, _) => db
      | none => w.db
    some ({ w with db := db }, c.goto (.answered (.error message "SERVER_ERROR" 500) []))
  | .answered reply (first :: rest) =>
    some (if a.ok then write w first else w, c.goto (.answered reply rest))
  | .answered _ [] => none

end SendCall

/-! ### POST /verify -/

inductive VerifyPc where
  | findRow
  | expire (otp : OtpRequest)
  | recordAttempt (otp : OtpRequest)
  /-- `attempts` is `attemptData?.attempts`. -/
  | compare (otp : OtpRequest) (code : JsString) (attempts : Option ℕ)
  | markVerified (otp : OtpRequest) (now : Millis)
  | answered (reply : Reply)
  deriving DecidableEq

structure VerifyCall where
  customerId : Id
  requestId : JsString
  code : Json
  pc : VerifyPc

/-- `requestId` as the filters take it; they throw for a value without a text. -/
def requestIdText (requestId : Json) : Except Reply JsString :=
  match requestId.toText with
  | some text => .ok text
  | none => .error .crashed

def notFound : Reply := errorResponse "OTP request not found" "NOT_FOUND" 404

def alreadyVerified : Reply := errorResponse "OTP has already been verified" "ALREADY_VERIFIED" 400

namespace VerifyCall

def goto (c : VerifyCall) (pc : VerifyPc) : VerifyCall := { c with pc := pc }

def start (keyRecord : ApiKey) (request : Request) : Except Reply VerifyCall :=
  let body := request.json
  match body.either "request_id" "id", body.either "code" "otp" with
  | some requestId, some code =>
    match requestId.filter Json.truthy, code.filter Json.truthy with
    | some requestId, some code => do
      return ⟨keyRecord.customerId, ← requestIdText requestId, code, .findRow⟩
    | _, _ => .error (errorResponse "request_id and code are required" "VALIDATION_ERROR" 400)
  | _, _ => .error .crashed

/-- `(otp.max_attempts || 5) - (attemptData?.attempts || 1)`. -/
def remaining (otp : OtpRequest) (attempts : Option ℕ) : ℤ :=
  (if otp.maxAttempts = 0 then 5 else otp.maxAttempts) - (attempts.filter (· ≠ 0)).getD 1

def invalidCode (remaining : ℤ) : Reply :=
  errorResponse ("Invalid verification code. " ++ toString remaining ++ " attempt(s) remaining.")
    "INVALID_CODE" 400

def step (env : Env) (w : World) (c : VerifyCall) (a : Answer) : Option (World × VerifyCall) :=
  match c.pc with
  | .findRow =>
    match (if a.ok then single (w.db.findOtpRequests c.customerId c.requestId) else none) with
    | none => some (w, c.goto (.answered notFound))
    | some otp =>
      if otp.status = .verified then some (w, c.goto (.answered alreadyVerified))
      else if otp.expiresAt < w.now then some (w, c.goto (.expire otp))
      else some (w, c.goto (.recordAttempt otp))
  | .expire otp =>
    some (if a.ok then { w with db := w.db.setStatus otp.id .expired } else w,
      c.goto (.answered (errorResponse "OTP has expired" "OTP_EXPIRED" 400)))
  -- without an answer of the procedure the code is compared all the same
  | .recordAttempt otp =>
    let (db, attemptData) := if a.ok then w.db.recordOtpAttempt otp.id else (w.db, .notFound)
    match attemptData, c.code.toText with
    | .found _ _ true, _ => some ({ w with db := db }, c.goto (.answered
        (errorResponse "Maximum verification attempts exceeded" "MAX_ATTEMPTS_EXCEEDED" 400)))
    | _, none => some ({ w with db := db }, c.goto (.answered .crashed))
    | .found attempts _ false, some code =>
      some ({ w with db := db }, c.goto (.compare otp code (some attempts)))
    | .notFound, some code => some ({ w with db := db }, c.goto (.compare otp code none))
  -- with the hash of the row as it was read
  | .compare otp code attempts =>
    if hashOtp env code.trim ≠ otp.otpHash then
      some (w, c.goto (.answered (invalidCode (remaining otp attempts))))
    else some (w, c.goto (.markVerified otp w.now))
  | .markVerified otp now =>
    let db := w.db.updateOtpRequest otp.id fun r =>
      { r with status := .verified, verifiedAt := some now }
    some (if a.ok then { w with db := db } else w,
      c.goto (.answered (.verified ⟨otp.id, otp.requestId, now⟩)))
  | .answered _ => none

end VerifyCall

/-! ### POST /resend -/

inductive ResendPc where
  | findRow
  | hash (otp : OtpRequest) (otpCode : JsString)
  | dispatch (otp : OtpRequest) (otpCode : JsString) (otpHash : String) (expiresAt : Millis)
  | update (otp : OtpRequest) (otpHash : String) (expiresAt : Millis)
  | answered (reply : Reply)
  deriving DecidableEq

structure ResendCall where
  customerId : Id
  requestId : JsString
  random : ℕ → UInt8
  pc : ResendPc

namespace ResendCall

def goto (c : ResendCall) (pc : ResendPc) : ResendCall := { c with pc := pc }

def start (keyRecord : ApiKey) (request : Request) : Except Reply ResendCall :=
  match request.json.either "request_id" "id" with
  | none => .error .crashed
  | some requestId =>
    match requestId.filter Json.truthy with
    | none => .error (errorResponse "request_id is required" "VALIDATION_ERROR" 400)
    | some requestId => do
      return ⟨keyRecord.customerId, ← requestIdText requestId, request.random, .findRow⟩

def elapsedSeconds (w : World) (otp : OtpRequest) : ℚ := ((w.now : ℚ) - otp.createdAt) / 1000

def cooldownActive (env : Env) (elapsed : ℚ) : Reply :=
  errorResponse ("Please wait " ++ toString ⌈env.otpCooldownSeconds - elapsed⌉ ++
    " seconds before requesting a new code.") "COOLDOWN_ACTIVE" 429

def step (env : Env) (w : World) (c : ResendCall) (a : Answer) : Option (World × ResendCall) :=
  match c.pc with
  | .findRow =>
    match (if a.ok then single (w.db.findOtpRequests c.customerId c.requestId) else none) with
    | none => some (w, c.goto (.answered notFound))
    | some otp =>
      if otp.status = .verified then some (w, c.goto (.answered alreadyVerified))
      -- the wait is measured from the creation of the row
      else if elapsedSeconds w otp < env.otpCooldownSeconds then
        some (w, c.goto (.answered (cooldownActive env (elapsedSeconds w otp))))
      else match generateOtp (.number "6") c.random with
        | some otpCode => some (w, c.goto (.hash otp otpCode))
        | none => some (w, c.goto (.answered .crashed))
  | .hash otp otpCode =>
    some (w, c.goto (.dispatch otp otpCode (hashOtp env otpCode)
      (w.now + env.otpExpirySeconds * 1000)))
  -- the result of the dispatch is not looked at
  | .dispatch otp otpCode otpHash expiresAt =>
    let call : MetaCall := ⟨w.now, .string otp.phoneNumber, otpCode,
      .string (js "otp_verification"), .string (js "en_US"), a.delivery.success⟩
    some ({ w with metaCalls := w.metaCalls ++ [call] }, c.goto (.update otp otpHash expiresAt))
  -- the attempts stay as they are
  | .update otp otpHash expiresAt =>
    let db := w.db.updateOtpRequest otp.id fun r =>
      { r with otpHash := otpHash, status := .sent, expiresAt := expiresAt }
    some (if a.ok then { w with db := db } else w, c.goto (.answered
      (.resent ⟨otp.id, otp.requestId, expiresAt, env.otpCooldownSeconds⟩)))
  | .answered _ => none

end ResendCall

end SelfOtp.Edge
