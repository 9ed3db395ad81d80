import SelfOtp.Model.Wallet

/-! Rows of the tables in `schema.prisma` that the modelled code reads or writes. -/
namespace SelfOtp

inductive CustomerStatus where
  | active | suspended | blocked | deleted
  deriving DecidableEq

inductive UserStatus where
  | active | suspended | blocked | deleted
  deriving DecidableEq

inductive ApiKeyStatus where
  | active | revoked | expired
  deriving DecidableEq

inductive OtpStatus where
  | created | queued | sent | delivered | verified | expired | failed | blocked
  deriving DecidableEq

inductive OtpVerificationResult where
  | correct | incorrect | expired | locked
  deriving DecidableEq

inductive MessageStatus where
  | queued | sent | delivered | read | failed
  deriving DecidableEq

inductive MessageEventType where
  | sent | delivered | read | failed | deleted
  deriving DecidableEq

inductive WebhookProcessingStatus where
  | received | processed | failed | ignored
  deriving DecidableEq

structure Customer where
  id : Id
  companyName : String
  email : String
  status : CustomerStatus
  deriving DecidableEq

structure User where
  id : Id
  email : String
  status : UserStatus
  deriving DecidableEq

structure CustomerUser where
  customerId : Id
  userId : Id
  deriving DecidableEq

structure Application where
  id : Id
  customerId : Id
  name : String
  description : Option String
  deriving DecidableEq

structure ApiKey where
  id : Id
  customerId : Id
  applicationId : Id
  name : String
  keyPrefix : String
  keyHash : String
  status : ApiKeyStatus
  deriving DecidableEq

structure OtpRequest where
  id : Id
  customerId : Id
  applicationId : Id
  apiKeyId : Option Id
  requestId : String
  phoneNumber : String
  otpHash : String
  status : OtpStatus
  expiresAt : Millis
  attempts : ℕ
  maxAttempts : ℕ
  verifiedAt : Option Millis
  deriving DecidableEq

structure OtpVerification where
  otpRequestId : Id
  attemptNumber : ℕ
  result : OtpVerificationResult
  ipAddress : Option String
  userAgent : Option String
  deriving DecidableEq

structure Message where
  id : Id
  customerId : Id
  otpRequestId : Option Id
  phoneNumber : String
  provider : String
  providerMessageId : Option String
  status : MessageStatus
  errorMessage : Option String
  sentAt : Option Millis
  deliveredAt : Option Millis
  readAt : Option Millis
  failedAt : Option Millis
  deriving DecidableEq

structure MessageEvent where
  messageId : Id
  eventType : MessageEventType
  providerMessageId : Option String
  deriving DecidableEq

structure WebhookEvent where
  id : Id
  externalEventId : String
  eventType : String
  processingStatus : WebhookProcessingStatus
  processedAt : Option Millis
  deriving DecidableEq

/-- The body of a successful `POST /v1/otp/send` answer. -/
structure SendResponse where
  requestId : String
  phoneNumber : String
  deliveryStatus : String
  expiresAt : Millis
  costCredits : ℚ
  deriving DecidableEq

structure IdempotencyKey where
  customerId : Id
  applicationId : Id
  idempotencyKey : String
  endpoint : String
  responseStatus : ℕ
  responseBody : SendResponse
  deriving DecidableEq

structure Database where
  customers : List Customer
  users : List User
  customerUsers : List CustomerUser
  applications : List Application
  apiKeys : List ApiKey
  otpRequests : List OtpRequest
  otpVerifications : List OtpVerification
  messages : List Message
  messageEvents : List MessageEvent
  webhookEvents : List WebhookEvent
  idempotencyKeys : List IdempotencyKey
  /-- The `wallets` row of each customer; `customer_id` is unique. -/
  wallets : Id → Option Wallet

namespace Database

def empty : Database := ⟨[], [], [], [], [], [], [], [], [], [], [], fun _ => none⟩

/-- `otp_requests.update({ where: { id }, data })`; no code path deletes such a row. -/
def updateOtpRequest (db : Database) (id : Id) (data : OtpRequest → OtpRequest) : Database :=
  { db with otpRequests := db.otpRequests.map fun r => if r.id = id then data r else r }

def setStatus (db : Database) (id : Id) (status : OtpStatus) : Database :=
  db.updateOtpRequest id fun r => { r with status := status }

/-- `otp_requests.create`: the request id is unique, and the customer, the application and the
API key must exist. -/
def createOtpRequest (db : Database) (row : OtpRequest) : Option Database :=
  if (∀ r ∈ db.otpRequests, r.requestId ≠ row.requestId) ∧
      (∃ c ∈ db.customers, c.id = row.customerId) ∧
      (∃ a ∈ db.applications, a.id = row.applicationId) ∧
      (∀ id ∈ row.apiKeyId, ∃ k ∈ db.apiKeys, k.id = id) then
    some { db with otpRequests := db.otpRequests ++ [row] }
  else none

/-- `otp_requests.findFirst({ where: { request_id, application_id } })`. -/
def findOtpRequest (db : Database) (requestId : String) (applicationId : Id) : Option OtpRequest :=
  db.otpRequests.find? fun r => r.requestId == requestId && r.applicationId == applicationId

def createVerification (db : Database) (row : OtpVerification) : Database :=
  { db with otpVerifications := db.otpVerifications ++ [row] }

def setWallet (db : Database) (customerId : Id) (wallet : Wallet) : Database :=
  { db with wallets := Function.update db.wallets customerId (some wallet) }

end Database

end SelfOtp
