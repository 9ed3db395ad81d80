import SelfOtp.Lib.JsNumber
import SelfOtp.Model.Tables

/-! What the Supabase Edge functions read and write: their configuration, the tables, and the
stored procedures of `supabase/migrations/20260905000000_init_schema.sql`. A procedure is one
transaction under the lock of its row, and its `NUMERIC` amounts are exact. -/
namespace SelfOtp.Edge

/-- The configuration. `hmac` is HMAC-SHA256 under `PEPPER` and `sha256` is SHA-256, both in
hexadecimal. -/
structure Env where
  otpExpirySeconds : ℕ
  otpCooldownSeconds : ℕ
  otpCreditCost : ℚ
  pepper : String
  hmac : List UInt8 → String
  sha256 : String → String

/-! ### Tables -/

structure ApiKey where
  id : Id
  customerId : Id
  applicationId : Id
  keyHash : String
  status : ApiKeyStatus
  expiresAt : Option Millis
  deriving DecidableEq

structure OtpRequest where
  id : Id
  customerId : Id
  applicationId : Id
  apiKeyId : Id
  requestId : JsString
  phoneNumber : JsString
  otpHash : String
  status : OtpStatus
  expiresAt : Millis
  attempts : ℕ
  maxAttempts : ℕ
  verifiedAt : Option Millis
  createdAt : Millis
  deriving DecidableEq

/-- A `wallet_transactions` row; `amount` is signed. -/
structure Transaction where
  amount : ℚ
  transactionType : WalletTxnType
  balanceAfter : ℚ
  referenceId : Option String
  description : JsString
  deriving DecidableEq

/-- A `wallets` row with its transactions, oldest first. -/
structure Wallet where
  balance : ℚ
  transactions : List Transaction
  deriving DecidableEq

structure Message where
  customerId : Id
  otpRequestId : Id
  provider : String
  providerMessageId : JsString
  phoneNumber : JsString
  messageType : String
  status : MessageStatus
  deriving DecidableEq

/-- The `data` of the answer to `POST /send`. -/
structure SendData where
  id : Id
  requestId : JsString
  phoneNumber : JsString
  status : OtpStatus
  expiresAt : Millis
  cooldownSeconds : ℕ
  deriving DecidableEq

structure IdempotencyKey where
  customerId : Id
  applicationId : Id
  key : JsString
  responseCode : ℕ
  responseBody : SendData
  expiresAt : Millis
  deriving DecidableEq

structure Database where
  apiKeys : List ApiKey
  otpRequests : List OtpRequest
  /-- The wallet of each customer; `customer_id` is unique. -/
  wallets : Id → Option Wallet
  messages : List Message
  idempotencyKeys : List IdempotencyKey

/-- `.single()`: exactly one row, or else an error. -/
def single {α : Type} : List α → Option α
  | [row] => some row
  | _ => none

/-- The text that a JSON value becomes in a text column. -/
def columnText : Json → JsString
  | .string s => s
  | j => j.stringify

namespace Database

/-- `api_keys` by `key_hash`. -/
def findApiKey (db : Database) (keyHash : String) : Option ApiKey :=
  single (db.apiKeys.filter (·.keyHash == keyHash))

/-- The text is the id, as a `uuid` column compares them: the case of its digits does not matter. -/
def isId (text : JsString) (id : Id) : Bool :=
  let lower := text.map fun u => if 0x41 ≤ u && u ≤ 0x46 then u + 0x20 else u
  lower == js (uuidText id)

/-- The rows of the customer with this `request_id` or, where the text is a UUID, with this `id`. -/
def findOtpRequests (db : Database) (customerId : Id) (requestId : JsString) : List OtpRequest :=
  db.otpRequests.filter fun r =>
    r.customerId == customerId && (r.requestId == requestId || isId requestId r.id)

def updateOtpRequest (db : Database) (id : Id) (data : OtpRequest → OtpRequest) : Database :=
  { db with otpRequests := db.otpRequests.map fun r => if r.id = id then data r else r }

def setStatus (db : Database) (id : Id) (status : OtpStatus) : Database :=
  db.updateOtpRequest id fun r => { r with status := status }

/-- `insert` into `otp_requests`; the request id is unique. -/
def insertOtpRequest (db : Database) (row : OtpRequest) : Option Database :=
  if ∀ r ∈ db.otpRequests, r.requestId ≠ row.requestId then
    some { db with otpRequests := db.otpRequests ++ [row] }
  else none

/-- `upsert` into `idempotency_keys`: the row brings no primary key, so a second one of the customer
with this key is refused. -/
def upsertIdempotencyKey (db : Database) (row : IdempotencyKey) : Database :=
  if ∀ k ∈ db.idempotencyKeys, ¬(k.customerId = row.customerId ∧ k.key = row.key) then
    { db with idempotencyKeys := db.idempotencyKeys ++ [row] }
  else db

def setWallet (db : Database) (customerId : Id) (wallet : Wallet) : Database :=
  { db with wallets := Function.update db.wallets customerId (some wallet) }

/-! ### Stored procedures -/

/-- The object that `deduct_wallet_credit` returns. -/
inductive Deduction where
  | insufficient (currentBalance required : ℚ)
  | success (newBalance : ℚ)
  deriving DecidableEq

/-- `deduct_wallet_credit`; `none` when it raises an exception. -/
def deductWalletCredit (db : Database) (customerId : Id) (amount : ℚ)
    (referenceId : Option String) (description : JsString) : Option (Database × Deduction) :=
  match db.wallets customerId with
  | none => none
  | some wallet =>
    if wallet.balance < amount then some (db, .insufficient wallet.balance amount)
    else
      let newBalance := wallet.balance - amount
      some (db.setWallet customerId ⟨newBalance, wallet.transactions ++
        [⟨-amount, .debit, newBalance, referenceId, description⟩]⟩, .success newBalance)

/-- `refund_wallet_credit`; `none` when it raises an exception. -/
def refundWalletCredit (db : Database) (customerId : Id) (amount : ℚ)
    (referenceId : Option String) (description : JsString) : Option (Database × ℚ) :=
  match db.wallets customerId with
  | none => none
  | some wallet =>
    let newBalance := wallet.balance + amount
    some (db.setWallet customerId ⟨newBalance, wallet.transactions ++
      [⟨amount, .refund, newBalance, referenceId, description⟩]⟩, newBalance)

/-- The object that `record_otp_attempt` returns. -/
inductive Attempt where
  | notFound
  | found (attempts maxAttempts : ℕ) (exceeded : Bool)
  deriving DecidableEq

/-- `record_otp_attempt`. -/
def recordOtpAttempt (db : Database) (id : Id) : Database × Attempt :=
  match db.otpRequests.find? (·.id == id) with
  | none => (db, .notFound)
  | some req =>
    let newAttempts := req.attempts + 1
    if req.maxAttempts ≤ newAttempts then
      (db.updateOtpRequest id fun r => { r with attempts := newAttempts, status := .failed },
        .found newAttempts req.maxAttempts true)
    else
      (db.updateOtpRequest id fun r => { r with attempts := newAttempts },
        .found newAttempts req.maxAttempts false)

end Database

end SelfOtp.Edge
