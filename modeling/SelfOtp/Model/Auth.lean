import SelfOtp.Model.Crypto
import SelfOtp.Model.Middleware

/-! `plugins/auth.ts`: API-key requests and dashboard (JWT) requests. -/
namespace SelfOtp

namespace Database

/-- `customers` row by its primary key. -/
def findCustomer (db : Database) (id : Id) : Option Customer := db.customers.find? (·.id == id)

/-- `api_keys.findFirst({ where: { key_hash, status: "active" } })` with its application and
its customer, which exist by foreign key. -/
def findApiKey (db : Database) (keyHash : String) : Option (ApiKey × Application × Customer) := do
  let apiKey ← db.apiKeys.find? fun k => k.keyHash == keyHash && k.status == .active
  let application ← db.applications.find? (·.id == apiKey.applicationId)
  let customer ← db.findCustomer apiKey.customerId
  return (apiKey, application, customer)

/-- `customer_users.findFirst({ where: { user_id } })` with its customer. -/
def findCustomerOf (db : Database) (userId : Id) : Option Customer := do
  let link ← db.customerUsers.find? (·.userId == userId)
  db.findCustomer link.customerId

end Database

/-- What `authenticateApiKey` puts on the request. -/
structure Session where
  apiKey : ApiKey
  application : Application
  customer : Customer
  deriving DecidableEq

inductive AuthPc where
  | findKey
  | limit (session : Session) (call : LimitCall)
  | authenticated (session : Session)
  | rejected (error : AppError)
  | internalError
  deriving DecidableEq

/-- A call of `authenticateApiKey`. -/
structure AuthCall where
  rawApiKey : Option String
  process : ℕ
  pc : AuthPc
  deriving DecidableEq

namespace AuthCall

def goto (c : AuthCall) (pc : AuthPc) : AuthCall := { c with pc := pc }

def missingKey : AppError :=
  UnauthorizedError "API key required in 'X-API-Key' header." "UNAUTHORIZED"

def invalidKey : AppError := UnauthorizedError "Invalid or revoked API key." "UNAUTHORIZED"

def suspended : AppError :=
  ForbiddenError "Customer account is suspended or disabled." "FORBIDDEN"

def limited : AppError := RateLimitError "API key rate limit exceeded." "RATE_LIMIT_EXCEEDED"

/-- The call up to its first `await`. -/
def start (rawApiKey : Option String) (process : ℕ) : AuthCall :=
  match rawApiKey.filter (· ≠ "") with
  | some rawApiKey => ⟨some rawApiKey, process, .findKey⟩
  | none => ⟨none, process, .rejected missingKey⟩

def step (env : Env) (w : World) (c : AuthCall) (ok : Bool) : Option (World × AuthCall) :=
  match c.pc with
  | .findKey =>
    if ok then
      match w.db.findApiKey (hashApiKey env (c.rawApiKey.getD "")) with
      | none => some (w, c.goto (.rejected invalidKey))
      | some (apiKey, application, customer) =>
        if customer.status ≠ .active then some (w, c.goto (.rejected suspended))
        else some (w, c.goto (.limit ⟨apiKey, application, customer⟩
          (.start w c.process (.auth apiKey.id) 60 60)))
    else some (w, c.goto .internalError)
  | .limit session call =>
    let (w, outcome) := call.step w ok
    match outcome with
    | .pending call => some (w, c.goto (.limit session call))
    | .done isLimited _ =>
      if isLimited then some (w, c.goto (.rejected limited))
      else some (w, c.goto (.authenticated session))
  | .authenticated _ => none
  | .rejected _ => none
  | .internalError => none

end AuthCall

/-- What `authenticateJwt` does, for a token whose signature is valid and whose `sub` is a
user id. Every error but its own becomes `Could not validate credentials.` -/
inductive JwtPc where
  | findUser
  | findCustomer (userId : Id)
  | authenticated (customer : Customer)
  | rejected (error : AppError)
  deriving DecidableEq

namespace JwtPc

def userInactive : AppError := UnauthorizedError "User not found or inactive." "UNAUTHORIZED"

def customerInactive : AppError :=
  ForbiddenError "Customer account is suspended or inactive." "FORBIDDEN"

def invalidCredentials : AppError :=
  UnauthorizedError "Could not validate credentials." "UNAUTHORIZED"

def step (db : Database) (sub : Id) (ok : Bool) : JwtPc → Option JwtPc
  | findUser =>
    if ok then
      match db.users.find? (·.id == sub) with
      | some user =>
        if user.status = .active then some (findCustomer user.id) else some (rejected userInactive)
      | none => some (rejected userInactive)
    else some (rejected invalidCredentials)
  | findCustomer userId =>
    if ok then
      match db.findCustomerOf userId with
      | some customer =>
        if customer.status = .active then some (authenticated customer)
        else some (rejected customerInactive)
      | none => some (rejected customerInactive)
    else some (rejected invalidCredentials)
  | authenticated _ => none
  | rejected _ => none

end JwtPc

end SelfOtp
