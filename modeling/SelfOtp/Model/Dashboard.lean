import SelfOtp.Model.Auth

/-! The routes under `/v1/applications`, `/v1/api-keys`, `/v1/wallet` and `/v1/account`, and
`POST /v1/auth/register`. -/
namespace SelfOtp

namespace Database

/-- `applications.create`. -/
def createApplication (db : Database) (row : Application) : Option Database :=
  if row.name.length ≤ 100 ∧ ∃ c ∈ db.customers, c.id = row.customerId then
    some { db with applications := db.applications ++ [row] }
  else none

/-- `applications.delete`: its API keys go with it, and OTP requests or idempotency keys that
refer to one of these rows prevent it. -/
def deleteApplication (db : Database) (id : Id) : Option Database :=
  if (∃ a ∈ db.applications, a.id = id) ∧ (∀ r ∈ db.otpRequests, r.applicationId ≠ id) ∧
      (∀ k ∈ db.apiKeys, k.applicationId = id → ∀ r ∈ db.otpRequests, r.apiKeyId ≠ some k.id) ∧
      (∀ i ∈ db.idempotencyKeys, i.applicationId ≠ id) then
    some { db with
      applications := db.applications.filter (·.id ≠ id)
      apiKeys := db.apiKeys.filter (·.applicationId ≠ id) }
  else none

/-- `api_keys.create`: the key hash is unique, and the customer and the application exist. -/
def createApiKey (db : Database) (row : ApiKey) : Option Database :=
  if (∀ k ∈ db.apiKeys, k.keyHash ≠ row.keyHash) ∧ (∃ c ∈ db.customers, c.id = row.customerId) ∧
      (∃ a ∈ db.applications, a.id = row.applicationId) then
    some { db with apiKeys := db.apiKeys ++ [row] }
  else none

def revokeApiKey (db : Database) (id : Id) : Database :=
  { db with
    apiKeys := db.apiKeys.map fun k => if k.id = id then { k with status := .revoked } else k }

/-- `applications.findFirst({ where: { id, customer_id } })`. -/
def findApplication (db : Database) (id customerId : Id) : Option Application :=
  db.applications.find? fun a => a.id == id && a.customerId == customerId

/-- `otp_requests.count` of a customer. -/
def countRequests (db : Database) (customerId : Id) (status : OtpStatus → Bool) : ℕ :=
  db.otpRequests.countP fun r => r.customerId == customerId && status r.status

end Database

/-- The requests that an API key may make as well. -/
inductive AccountRequest where
  | balance
  | account
  | usage
  deriving DecidableEq

inductive DashboardRequest where
  | listApplications
  | getApplication (appId : Id)
  | createApplication (name : String)
  | deleteApplication (appId : Id)
  /-- `rawSecret` is what the random generator yields, in hexadecimal. -/
  | createApiKey (applicationId : Id) (name rawSecret : String)
  | listApiKeys
  | revokeApiKey (keyId : Id)
  | topup (amount : ℚ) (referenceId : String)
  | transactions
  | account (request : AccountRequest)
  deriving DecidableEq

inductive DashboardAnswer where
  | applications (rows : List Application)
  | application (row : Application)
  | apiKey (row : ApiKey) (rawSecretKey : String)
  | apiKeys (rows : List ApiKey)
  | noContent
  | balance (balance : ℚ) (wallet : Wallet)
  | account (customer : Customer) (wallet : Wallet)
  | transactions (rows : List WalletTransaction)
  | usage (customerId : Id) (total verified failed : ℕ)
  deriving DecidableEq

inductive DashboardPc where
  | authenticate (sub : Id) (pc : JwtPc)
  /-- The first database call of the handler. -/
  | handle (customer : Customer)
  | deleteApplication (customer : Customer) (app : Application)
  | revokeApiKey (customer : Customer) (apiKey : ApiKey)
  | readWallet (customer : Customer) (newBalance : ℚ)
  | readTransactions (customer : Customer)
  | countVerified (customer : Customer) (total : ℕ)
  | countFailed (customer : Customer) (total verified : ℕ)
  | answered (customer : Customer) (answer : DashboardAnswer)
  | rejected (error : AppError)
  | internalError
  deriving DecidableEq

structure DashboardCall where
  request : DashboardRequest
  pc : DashboardPc
  deriving DecidableEq

namespace DashboardCall

def goto (c : DashboardCall) (pc : DashboardPc) : DashboardCall := { c with pc := pc }

def applicationNotFound : AppError := NotFoundError "Application not found" "NOT_FOUND"

def keyNotFound : AppError := NotFoundError "API key not found." "KEY_NOT_FOUND"

/-- `generateApiKey()` and the row that is created with it. -/
def apiKeyRow (env : Env) (id customerId applicationId : Id) (name rawSecret : String) : ApiKey :=
  { id := id
    customerId := customerId
    applicationId := applicationId
    name := name
    keyPrefix := "wotp_live_" ++ String.ofList (rawSecret.toList.take 6)
    keyHash := hashApiKey env ("wotp_live_" ++ rawSecret)
    status := .active }

/-- `getOrCreateWallet(customer.id)` outside a transaction. -/
def wallet (w : World) (customer : Customer) : Wallet :=
  WalletService.getOrCreateWallet (w.db.wallets customer.id)

def openWallet (w : World) (customer : Customer) : World :=
  w.mapDb (·.setWallet customer.id (wallet w customer))

/-- The handler up to and including its first database call. -/
def handle (env : Env) (w : World) (c : DashboardCall) (customer : Customer) :
    World × DashboardCall :=
  let answer (a : DashboardAnswer) := c.goto (.answered customer a)
  match c.request with
  -- newest first: rows are appended
  | .listApplications =>
    (w, answer (.applications (w.db.applications.filter (·.customerId == customer.id)).reverse))
  | .getApplication appId =>
    match w.db.findApplication appId customer.id with
    | some app => (w, answer (.application app))
    | none => (w, c.goto (.rejected applicationNotFound))
  | .createApplication name =>
    let app : Application := ⟨w.nextId, customer.id, name, none⟩
    match w.db.createApplication app with
    | some db => ({ w with db := db, nextId := w.nextId + 1 }, answer (.application app))
    | none => (w, c.goto .internalError)
  | .deleteApplication appId =>
    match w.db.findApplication appId customer.id with
    | some app => (w, c.goto (.deleteApplication customer app))
    | none => (w, c.goto (.rejected applicationNotFound))
  | .createApiKey applicationId name rawSecret =>
    -- the route does not ask whose application it is; the foreign key asks that it exists
    let apiKey := apiKeyRow env w.nextId customer.id applicationId name rawSecret
    match w.db.createApiKey apiKey with
    | some db => ({ w with db := db, nextId := w.nextId + 1 },
        answer (.apiKey apiKey ("wotp_live_" ++ rawSecret)))
    | none => (w, c.goto .internalError)
  | .listApiKeys =>
    (w, answer (.apiKeys (w.db.apiKeys.filter fun k =>
      k.customerId == customer.id && k.status == .active).reverse))
  | .revokeApiKey keyId =>
    match w.db.apiKeys.find? fun k => k.id == keyId && k.customerId == customer.id with
    | some apiKey => (w, c.goto (.revokeApiKey customer apiKey))
    | none => (w, c.goto (.rejected keyNotFound))
  | .topup amount referenceId =>
    match WalletService.topupWallet resolves (w.db.wallets customer.id) amount referenceId with
    | .ok (newBalance, wallet) =>
      (w.mapDb (·.setWallet customer.id wallet), c.goto (.readWallet customer newBalance))
    | .error (.app error) => (w, c.goto (.rejected error))
    | .error .database => (w, c.goto .internalError)
  | .transactions => (openWallet w customer, c.goto (.readTransactions customer))
  | .account .balance =>
    (openWallet w customer, answer (.balance (wallet w customer).balance (wallet w customer)))
  | .account .account => (openWallet w customer, answer (.account customer (wallet w customer)))
  | .account .usage =>
    (w, c.goto (.countVerified customer (w.db.countRequests customer.id fun _ => true)))

def step (env : Env) (w : World) (c : DashboardCall) (ok : Bool) : Option (World × DashboardCall) :=
  match c.pc with
  | .authenticate sub jwt =>
    match jwt.step w.db sub ok with
    | none => none
    | some (.authenticated customer) => some (w, c.goto (.handle customer))
    | some (.rejected error) => some (w, c.goto (.rejected error))
    | some jwt => some (w, c.goto (.authenticate sub jwt))
  | .handle customer =>
    if ok then some (c.handle env w customer) else some (w, c.goto .internalError)
  -- `applications.delete` takes the id alone: the owner was checked by the query before
  | .deleteApplication customer app =>
    match (if ok then w.db.deleteApplication app.id else none) with
    | some db => some ({ w with db := db }, c.goto (.answered customer .noContent))
    | none => some (w, c.goto .internalError)
  | .revokeApiKey customer apiKey =>
    if ok then
      some (w.mapDb (·.revokeApiKey apiKey.id), c.goto (.answered customer .noContent))
    else some (w, c.goto .internalError)
  -- the balance that is shown is the transaction's, the wallet is read again
  | .readWallet customer newBalance =>
    if ok then
      some (openWallet w customer,
        c.goto (.answered customer (.balance newBalance (wallet w customer))))
    else some (w, c.goto .internalError)
  | .readTransactions customer =>
    if ok then
      some (w, c.goto (.answered customer
        (.transactions ((wallet w customer).transactions.reverse.take 100))))
    else some (w, c.goto .internalError)
  | .countVerified customer total =>
    if ok then
      some (w, c.goto (.countFailed customer total
        (w.db.countRequests customer.id (· == .verified))))
    else some (w, c.goto .internalError)
  | .countFailed customer total verified =>
    if ok then
      some (w, c.goto (.answered customer (.usage customer.id total verified
        (w.db.countRequests customer.id (· == .failed)))))
    else some (w, c.goto .internalError)
  | .answered .. => none
  | .rejected _ => none
  | .internalError => none

end DashboardCall

/-! ### Registration -/

inductive RegisterPc where
  | findUser
  | create
  | registered (userId customerId : Id)
  | rejected (error : AppError)
  | internalError
  deriving DecidableEq

structure RegisterCall where
  email : String
  companyName : String
  pc : RegisterPc
  deriving DecidableEq

namespace RegisterCall

def goto (c : RegisterCall) (pc : RegisterPc) : RegisterCall := { c with pc := pc }

def emailExists : AppError := ⟨400, "An account with this email already exists.", "EMAIL_EXISTS", []⟩

/-- The transaction: a customer, a user, their link, a default application and a wallet. -/
def create (w : World) (c : RegisterCall) : Option World :=
  let customer : Customer := ⟨w.nextId, c.companyName, c.email, .active⟩
  let user : User := ⟨w.nextId + 1, c.email, .active⟩
  let app : Application := ⟨w.nextId + 2, customer.id, c.companyName ++ " - Default",
    some "Auto-created default application"⟩
  if (∀ other ∈ w.db.customers, other.email ≠ c.email) ∧
      (∀ other ∈ w.db.users, other.email ≠ c.email) ∧ c.companyName.length ≤ 255 then
    let db : Database := { w.db with
      customers := w.db.customers ++ [customer]
      users := w.db.users ++ [user]
      customerUsers := w.db.customerUsers ++ [⟨customer.id, user.id⟩] }
    (db.createApplication app).map fun db => { w with
      db := db.setWallet customer.id (WalletService.getOrCreateWallet (db.wallets customer.id))
      nextId := w.nextId + 3 }
  else none

def step (w : World) (c : RegisterCall) (ok : Bool) : Option (World × RegisterCall) :=
  match c.pc with
  | .findUser =>
    if ok then
      match w.db.users.find? (·.email == c.email) with
      | some _ => some (w, c.goto (.rejected emailExists))
      | none => some (w, c.goto .create)
    else some (w, c.goto .internalError)
  | .create =>
    match (if ok then c.create w else none) with
    | some w' => some (w', c.goto (.registered (w.nextId + 1) w.nextId))
    | none => some (w, c.goto .internalError)
  | .registered .. => none
  | .rejected _ => none
  | .internalError => none

end RegisterCall

end SelfOtp
