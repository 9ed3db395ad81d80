import SelfOtp.Lib.Pool
import SelfOtp.Model.RefreshTokens

/-! `POST /v1/auth/login`, `/refresh` and `/logout` (`auth.routes.ts`), once their bodies are validated,
interleaved at every awaited call. -/
namespace SelfOtp

/-- `verifyPassword` is `argon2.verify`, from the stored hash and the password. -/
structure LoginEnv extends SessionEnv where
  accessTokenExpireMinutes : ℚ
  verifyPassword : String → String → Bool

/-- What `fastify.jwt.sign` is given; its `type` is "access". -/
structure AccessToken where
  sub : Id
  /-- The empty text for a user without a customer. -/
  customerId : Option Id
  expiresAt : ℚ
  deriving DecidableEq

/-- The body of a 200 answer; its `token_type` is "bearer". -/
structure Tokens where
  accessToken : AccessToken
  refreshToken : String
  deriving DecidableEq

structure SessionStore where
  tokens : TokenStore
  /-- The column `password_hash` of the users. -/
  passwordHash : Id → String

def LoginEnv.sign (env : LoginEnv) (s : SessionStore) (sub : Id) (customerId : Option Id) : AccessToken :=
  ⟨sub, customerId, seconds s.tokens.now + 60 * env.accessTokenExpireMinutes⟩

/-! ### POST /v1/auth/login -/

inductive LoginPc where
  | findUser
  | verifyPassword (user : User) (passwordHash : String)
  | findCustomer (user : User)
  | createToken (accessToken : AccessToken) (c : CreateInitialToken)
  | updateLastLogin (tokens : Tokens)
  | answered (tokens : Tokens)
  | rejected (error : AppError)
  | internalError
  deriving DecidableEq

/-- `rawToken` is what the random generator yields for the call. -/
structure LoginCall where
  email : String
  password : String
  rawToken : String
  pc : LoginPc
  deriving DecidableEq

namespace LoginCall

def goto (c : LoginCall) (pc : LoginPc) : LoginCall := { c with pc := pc }

def invalidCredentials : AppError := UnauthorizedError "Incorrect email or password." "INVALID_CREDENTIALS"

def step (env : LoginEnv) (s : SessionStore) (c : LoginCall) (a : TokenAnswer) :
    Option (SessionStore × LoginCall) :=
  match c.pc with
  | .findUser =>
    if a.ok then
      match s.tokens.users.find? (·.email == c.email) with
      | some user => some (s, c.goto (.verifyPassword user (s.passwordHash user.id)))
      | none => some (s, c.goto (.rejected invalidCredentials))
    else some (s, c.goto .internalError)
  -- `verifyPassword` answers `false` when argon2 throws
  | .verifyPassword user passwordHash =>
    if a.ok && env.verifyPassword passwordHash c.password then
      some (s, c.goto (.findCustomer user))
    else some (s, c.goto (.rejected invalidCredentials))
  | .findCustomer user =>
    if a.ok then
      let customerId := (s.tokens.customerUsers.find? (·.userId == user.id)).map (·.customerId)
      some (s, c.goto (.createToken (env.sign s user.id customerId) ⟨user.id, c.rawToken, .create⟩))
    else some (s, c.goto .internalError)
  | .createToken accessToken create =>
    match create.step env.toSessionEnv s.tokens a with
    | some (tokens, create) =>
      match create.pc with
      | .created => some ({ s with tokens := tokens }, c.goto (.updateLastLogin ⟨accessToken, c.rawToken⟩))
      | .internalError => some ({ s with tokens := tokens }, c.goto .internalError)
      | .create => some ({ s with tokens := tokens }, c.goto (.createToken accessToken create))
    | none => none
  -- `.catch(() => {})`
  | .updateLastLogin tokens => some (s, c.goto (.answered tokens))
  | .answered _ => none
  | .rejected _ => none
  | .internalError => none

end LoginCall

/-! ### POST /v1/auth/refresh -/

inductive RefreshCall where
  | rotate (c : RotateToken)
  | answered (tokens : Tokens)
  | rejected (error : AppError)
  | internalError
  deriving DecidableEq

namespace RefreshCall

def step (env : LoginEnv) (s : SessionStore) (c : RefreshCall) (a : TokenAnswer) :
    Option (SessionStore × RefreshCall) :=
  match c with
  | rotate c =>
    match c.step env.toSessionEnv s.tokens a with
    | some (tokens, c) =>
      let s : SessionStore := { s with tokens := tokens }
      match c.pc with
      | .rotated r => some (s, answered ⟨env.sign s r.user.id r.customerId, c.newRawToken⟩)
      | .rejected error => some (s, rejected error)
      | .reuseDetected _ => some (s, rejected RotateToken.reuse)
      | .internalError => some (s, internalError)
      | _ => some (s, rotate c)
    | none => none
  | answered _ => none
  | rejected _ => none
  | internalError => none

end RefreshCall

/-! ### POST /v1/auth/logout -/

inductive LogoutPc where
  | revokeFamily (c : RevokeFamilyByToken)
  | jwtVerify
  | revokeAll (c : RevokeAllUserTokens)
  /-- `Logged out successfully`. -/
  | answered
  | internalError
  deriving DecidableEq

/-- `bearer` is the payload of the token in the `Authorization` header, if `jwtVerify` accepts it. -/
structure LogoutCall where
  refreshToken : Option String
  bearer : Option AccessToken
  pc : LogoutPc
  deriving DecidableEq

namespace LogoutCall

def goto (c : LogoutCall) (pc : LogoutPc) : LogoutCall := { c with pc := pc }

/-- `if (refreshToken)`. -/
def start (refreshToken : Option String) (bearer : Option AccessToken) : LogoutCall :=
  match refreshToken with
  | some rawToken =>
    if rawToken = "" then ⟨none, bearer, .jwtVerify⟩
    else ⟨some rawToken, bearer, .revokeFamily ⟨rawToken, .find⟩⟩
  | none => ⟨none, bearer, .jwtVerify⟩

def step (env : LoginEnv) (s : SessionStore) (c : LogoutCall) (a : TokenAnswer) :
    Option (SessionStore × LogoutCall) :=
  match c.pc with
  | .revokeFamily revoke =>
    match revoke.step env.toSessionEnv s.tokens a with
    | some (tokens, revoke) =>
      let s : SessionStore := { s with tokens := tokens }
      match revoke.pc with
      | .revoked _ | .unknown => some (s, c.goto .jwtVerify)
      | .internalError => some (s, c.goto .internalError)
      | _ => some (s, c.goto (.revokeFamily revoke))
    | none => none
  | .jwtVerify =>
    match c.bearer, c.refreshToken with
    | some payload, none => some (s, c.goto (.revokeAll ⟨payload.sub, .start⟩))
    | _, _ => some (s, c.goto .answered)
  | .revokeAll revoke =>
    match revoke.step s.tokens a with
    | some (tokens, revoke) =>
      let s : SessionStore := { s with tokens := tokens }
      -- what fails in the `try` block is passed over
      match revoke.pc with
      | .done _ | .failed => some (s, c.goto .answered)
      | _ => some (s, c.goto (.revokeAll revoke))
    | none => none
  | .answered => none
  | .internalError => none

end LogoutCall

/-! ### The requests together -/

inductive SessionThread where
  | login (c : LoginCall)
  | refresh (c : RefreshCall)
  | logout (c : LogoutCall)

inductive SessionEvent where
  | tick (d : Millis)
  /-- Other requests change the users, their customers and their passwords. -/
  | users (users : List User) (customerUsers : List CustomerUser) (passwordHash : Id → String)
  | login (email password rawToken : String)
  | refresh (rawToken newRawToken : String)
  | logout (refreshToken : Option String) (bearer : Option AccessToken)

namespace SessionThread

def resume (env : LoginEnv) (s : SessionStore) (t : SessionThread) (a : TokenAnswer) :
    Option (SessionStore × SessionThread) :=
  match t with
  | login c => (c.step env s a).map fun (s, c) => (s, login c)
  | refresh c => (c.step env s a).map fun (s, c) => (s, refresh c)
  | logout c => (c.step env s a).map fun (s, c) => (s, logout c)

def external (s : SessionStore) (event : SessionEvent) : Option (SessionStore × List SessionThread) :=
  match event with
  | .tick d => some ({ s with tokens := { s.tokens with now := s.tokens.now + d } }, [])
  | .users users customerUsers passwordHash =>
    some (⟨{ s.tokens with users := users, customerUsers := customerUsers }, passwordHash⟩, [])
  | .login email password rawToken => some (s, [login ⟨email, password, rawToken, .findUser⟩])
  | .refresh rawToken newRawToken => some (s, [refresh (.rotate ⟨rawToken, newRawToken, .select⟩)])
  | .logout refreshToken bearer => some (s, [logout (.start refreshToken bearer)])

/-- The tokens that the request has been answered with. -/
def tokens : SessionThread → Option Tokens
  | login c =>
    match c.pc with
    | .answered tokens => some tokens
    | _ => none
  | refresh (.answered tokens) => some tokens
  | refresh _ => none
  | logout _ => none

end SessionThread

abbrev SessionPool := Pool SessionStore SessionThread

abbrev SessionLabel := Pool.Label TokenAnswer SessionEvent

def sessionProgram (env : LoginEnv) : Pool.Program SessionStore SessionThread TokenAnswer SessionEvent :=
  ⟨SessionThread.resume env, SessionThread.external⟩

/-! ### A small table -/

/-- A stored hash is the password itself. -/
def sampleLogins : LoginEnv := ⟨sampleSessions, 15, fun hash password => hash == password⟩

def sampleSessionPool : SessionPool := ⟨⟨sampleTokens.shared, fun _ => "secret123"⟩, []⟩

end SelfOtp
