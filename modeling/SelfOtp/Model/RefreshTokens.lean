import SelfOtp.Lib.RowLocks
import SelfOtp.Model.Crypto
import SelfOtp.Model.Tables

/-! `RefreshTokenService` (`refresh-token.service.ts`), statement by statement, on PostgreSQL at
READ COMMITTED: a statement sees the rows that are committed when it starts, a row lock is held
to the end of its transaction, and a statement that has waited for a row looks at it again. -/
namespace SelfOtp

structure SessionEnv extends Env where
  refreshTokenExpireDays : ℚ

def hashRefreshToken (env : Env) (rawToken : String) : String :=
  env.sha256 (rawToken ++ ":" ++ env.pepper)

/-- A `refresh_tokens` row. -/
structure RefreshToken where
  id : Id
  userId : Id
  tokenHash : String
  familyId : Id
  expiresAt : Millis
  revokedAt : Option Millis
  replacedByTokenId : Option Id
  lastUsedAt : Option Millis
  deriving DecidableEq

structure TokenStore where
  now : Millis
  /-- The next uuid. -/
  nextId : Id
  users : List User
  customerUsers : List CustomerUser
  /-- The committed rows, in the order of their commits. -/
  refreshTokens : List RefreshToken
  /-- The rows that running transactions have inserted. -/
  inserted : List RefreshToken
  locked : Id → Bool

/-- How an awaited statement ends: with a result, or with an error that aborts its transaction.
`pick` is the row that a bulk update comes to next. -/
structure TokenAnswer where
  ok : Bool
  pick : ℕ

namespace TokenStore

/-- `new Date(Date.now() + env.REFRESH_TOKEN_EXPIRE_DAYS * 24 * 60 * 60 * 1000)`. -/
def newExpiresAt (env : SessionEnv) (s : TokenStore) : Millis :=
  (s.now + env.refreshTokenExpireDays * 24 * 60 * 60 * 1000 : ℚ).floor.toNat

def newRow (env : SessionEnv) (s : TokenStore) (userId familyId : Id) (rawToken : String) :
    RefreshToken :=
  { id := s.nextId
    userId := userId
    tokenHash := hashRefreshToken env.toEnv rawToken
    familyId := familyId
    expiresAt := s.newExpiresAt env
    revokedAt := none
    replacedByTokenId := none
    lastUsedAt := none }

def findByHash (s : TokenStore) (tokenHash : String) : Option RefreshToken :=
  s.refreshTokens.find? (·.tokenHash == tokenHash)

def findById (s : TokenStore) (id : Id) : Option RefreshToken :=
  s.refreshTokens.find? (·.id == id)

def lock (s : TokenStore) (id : Id) : TokenStore :=
  { s with locked := Function.update s.locked id true }

/-- The end of a transaction that holds these rows. -/
def unlock (s : TokenStore) (held : Id → Bool) : TokenStore :=
  { s with locked := fun id => s.locked id && !held id }

def updateRows (s : TokenStore) (selected : Id → Bool) (data : RefreshToken → RefreshToken) :
    TokenStore :=
  { s with refreshTokens := s.refreshTokens.map fun r => if selected r.id then data r else r }

def discard (s : TokenStore) (row : RefreshToken) : TokenStore :=
  { s with inserted := s.inserted.erase row }

/-- Another running transaction has inserted this hash; an insert of it waits. -/
def awaitsHash (s : TokenStore) (tokenHash : String) : Bool :=
  s.inserted.any (·.tokenHash == tokenHash)

/-- An insert of the hash violates its unique index. -/
def hasHash (s : TokenStore) (tokenHash : String) : Bool :=
  s.refreshTokens.any (·.tokenHash == tokenHash)

end TokenStore

/-! ### `refresh_tokens.updateMany({ where, data: { revoked_at: new Date() } })` -/

/-- The column of the condition; the other half of it is `revoked_at: null`. -/
inductive RevokeWhere where
  | familyId (id : Id)
  | userId (id : Id)
  deriving DecidableEq

def RevokeWhere.selects : RevokeWhere → RefreshToken → Bool
  | familyId id, r => r.familyId == id && r.revokedAt.isNone
  | userId id, r => r.userId == id && r.revokedAt.isNone

inductive RevokePc where
  | start
  /-- Rows of its snapshot that it has not come to, and rows that it has locked. -/
  | visit (waiting held : List Id) (revokedAt : Millis)
  | done (count : ℕ)
  | failed
  deriving DecidableEq

namespace RevokePc

def holds : RevokePc → Id → Bool
  | visit _ held _, id => held.contains id
  | _, _ => false

def step (s : TokenStore) (condition : RevokeWhere) (pc : RevokePc) (a : TokenAnswer) :
    Option (TokenStore × RevokePc) :=
  match pc with
  | start =>
    if a.ok then
      some (s, visit ((s.refreshTokens.filter condition.selects).map (·.id)) [] s.now)
    else some (s, failed)
  | visit waiting held revokedAt =>
    if a.ok then
      match waiting[a.pick]? with
      | some id =>
        if s.locked id then none
        else
          -- the condition is checked again on the row as it is now
          match s.findById id with
          | some r =>
            if condition.selects r then
              some (s.lock id, visit (waiting.eraseIdx a.pick) (held ++ [id]) revokedAt)
            else some (s, visit (waiting.eraseIdx a.pick) held revokedAt)
          | none => some (s, visit (waiting.eraseIdx a.pick) held revokedAt)
      | none =>
        if waiting = [] then
          some ((s.updateRows held.contains fun r => { r with revokedAt := some revokedAt }).unlock
            held.contains, done held.length)
        else none
    else some (s.unlock held.contains, failed)
  | done _ => none
  | failed => none

end RevokePc

/-! ### createInitialToken -/

inductive CreatePc where
  | create
  | created
  | internalError
  deriving DecidableEq

/-- `rawToken` is what the random generator yields for the call. -/
structure CreateInitialToken where
  userId : Id
  rawToken : String
  pc : CreatePc
  deriving DecidableEq

namespace CreateInitialToken

def step (env : SessionEnv) (s : TokenStore) (c : CreateInitialToken) (a : TokenAnswer) :
    Option (TokenStore × CreateInitialToken) :=
  match c.pc with
  | .create =>
    if a.ok then
      let row := s.newRow env c.userId (s.nextId + 1) c.rawToken
      if s.awaitsHash row.tokenHash then none
      else if s.hasHash row.tokenHash then some (s, { c with pc := .internalError })
      else some ({ s with nextId := s.nextId + 2, refreshTokens := s.refreshTokens ++ [row] },
        { c with pc := .created })
    else some (s, { c with pc := .internalError })
  | .created => none
  | .internalError => none

end CreateInitialToken

/-! ### rotateToken -/

/-- What the transaction has read and inserted. -/
structure Rotation where
  record : RefreshToken
  user : User
  customerId : Option Id
  newRecord : RefreshToken
  deriving DecidableEq

inductive RotatePc where
  | select
  | lock (record : Id)
  | findUser (record : RefreshToken)
  | create (record : RefreshToken) (user : User) (customerId : Option Id)
  | update (r : Rotation)
  | commit (r : Rotation) (usedAt : Millis)
  /-- `isReuse` and `familyIdToRevoke` are set when there is a family. -/
  | rollback (record : RefreshToken) (error : AppError) (family : Option Id)
  | revoke (familyId : Id) (pc : RevokePc)
  /-- It returned the user, the customer id and the new token. -/
  | rotated (r : Rotation)
  | rejected (error : AppError)
  /-- It threw `TOKEN_REUSE_DETECTED`. -/
  | reuseDetected (familyId : Id)
  | internalError
  deriving DecidableEq

/-- `newRawToken` is what the random generator yields for the call. -/
structure RotateToken where
  rawToken : String
  newRawToken : String
  pc : RotatePc
  deriving DecidableEq

namespace RotateToken

def goto (c : RotateToken) (pc : RotatePc) : RotateToken := { c with pc := pc }

def invalidToken : AppError := UnauthorizedError "Invalid refresh token." "INVALID_REFRESH_TOKEN"

def reuse : AppError :=
  UnauthorizedError "Refresh token reuse detected. Session terminated." "TOKEN_REUSE_DETECTED"

def expired : AppError := UnauthorizedError "Refresh token has expired." "TOKEN_EXPIRED"

def userInactive : AppError := UnauthorizedError "User not found or inactive." "UNAUTHORIZED"

/-- The rows the transaction has locked; an inserted row is locked by its transaction. -/
def holds (c : RotateToken) (id : Id) : Bool :=
  match c.pc with
  | .findUser record | .create record _ _ | .rollback record _ _ => id == record.id
  | .update r | .commit r _ => id == r.record.id || id == r.newRecord.id
  | .revoke _ pc => pc.holds id
  | .select | .lock _ | .rotated _ | .rejected _ | .reuseDetected _ | .internalError => false

def step (env : SessionEnv) (s : TokenStore) (c : RotateToken) (a : TokenAnswer) :
    Option (TokenStore × RotateToken) :=
  match c.pc with
  | .select =>
    if a.ok then
      match s.findByHash (hashRefreshToken env.toEnv c.rawToken) with
      | some record => some (s, c.goto (.lock record.id))
      | none => some (s, c.goto (.rejected invalidToken))
    else some (s, c.goto .internalError)
  -- `SELECT … FOR UPDATE` finds the row, waits for its lock and reads it again
  | .lock id =>
    if a.ok then
      if s.locked id then none
      else match s.findById id with
        | some record =>
          -- reuse: the family is revoked only after the transaction has rolled back
          if record.revokedAt.isSome then
            some (s.lock id, c.goto (.rollback record reuse (some record.familyId)))
          else if record.expiresAt < s.now then
            some (s.lock id, c.goto (.rollback record expired none))
          else some (s.lock id, c.goto (.findUser record))
        | none => some (s, c.goto (.rejected invalidToken))
    else some (s, c.goto .internalError)
  | .findUser record =>
    if a.ok then
      match s.users.find? (·.id == record.userId) with
      | some user =>
        if user.status ≠ .active then some (s, c.goto (.rollback record userInactive none))
        else some (s, c.goto (.create record user
          ((s.customerUsers.find? (·.userId == user.id)).map (·.customerId))))
      | none => some (s, c.goto (.rollback record userInactive none))
    else some (s.unlock c.holds, c.goto .internalError)
  | .create record user customerId =>
    if a.ok then
      let row := s.newRow env user.id record.familyId c.newRawToken
      -- the unique index waits for the transaction that has inserted the same hash
      if s.awaitsHash row.tokenHash then none
      else if s.hasHash row.tokenHash then some (s.unlock c.holds, c.goto .internalError)
      else some ({ s.lock row.id with nextId := s.nextId + 1, inserted := s.inserted ++ [row] },
        c.goto (.update ⟨record, user, customerId, row⟩))
    else some (s.unlock c.holds, c.goto .internalError)
  | .update r =>
    if a.ok then some (s, c.goto (.commit r s.now))
    else some ((s.discard r.newRecord).unlock c.holds, c.goto .internalError)
  | .commit r usedAt =>
    if a.ok then
      -- both writes become visible together, and the locks go
      let s := s.updateRows (· == r.record.id) fun row => { row with
        revokedAt := some usedAt, lastUsedAt := some usedAt, replacedByTokenId := some r.newRecord.id }
      some (({ s with refreshTokens := s.refreshTokens ++ [r.newRecord] }.discard r.newRecord).unlock
        c.holds, c.goto (.rotated r))
    else some ((s.discard r.newRecord).unlock c.holds, c.goto .internalError)
  | .rollback _ error family =>
    match family with
    | some familyId => some (s.unlock c.holds, c.goto (.revoke familyId .start))
    | none => some (s.unlock c.holds, c.goto (.rejected error))
  | .revoke familyId pc =>
    match pc.step s (.familyId familyId) a with
    | some (s, .done _) => some (s, c.goto (.reuseDetected familyId))
    | some (s, .failed) => some (s, c.goto .internalError)
    | some (s, pc) => some (s, c.goto (.revoke familyId pc))
    | none => none
  | .rotated _ => none
  | .rejected _ => none
  | .reuseDetected _ => none
  | .internalError => none

end RotateToken

/-! ### revokeFamilyByToken, revokeAllUserTokens -/

inductive RevokeFamilyPc where
  | find
  | revoke (familyId : Id) (pc : RevokePc)
  /-- It returned `true`. -/
  | revoked (familyId : Id)
  /-- It returned `false`. -/
  | unknown
  | internalError
  deriving DecidableEq

structure RevokeFamilyByToken where
  rawToken : String
  pc : RevokeFamilyPc
  deriving DecidableEq

namespace RevokeFamilyByToken

def goto (c : RevokeFamilyByToken) (pc : RevokeFamilyPc) : RevokeFamilyByToken := { c with pc := pc }

def step (env : SessionEnv) (s : TokenStore) (c : RevokeFamilyByToken) (a : TokenAnswer) :
    Option (TokenStore × RevokeFamilyByToken) :=
  match c.pc with
  | .find =>
    if a.ok then
      match s.findByHash (hashRefreshToken env.toEnv c.rawToken) with
      | some record => some (s, c.goto (.revoke record.familyId .start))
      | none => some (s, c.goto .unknown)
    else some (s, c.goto .internalError)
  | .revoke familyId pc =>
    match pc.step s (.familyId familyId) a with
    | some (s, .done _) => some (s, c.goto (.revoked familyId))
    | some (s, .failed) => some (s, c.goto .internalError)
    | some (s, pc) => some (s, c.goto (.revoke familyId pc))
    | none => none
  | .revoked _ => none
  | .unknown => none
  | .internalError => none

end RevokeFamilyByToken

/-- `done` carries the count it returned. -/
structure RevokeAllUserTokens where
  userId : Id
  pc : RevokePc
  deriving DecidableEq

def RevokeAllUserTokens.step (s : TokenStore) (c : RevokeAllUserTokens) (a : TokenAnswer) :
    Option (TokenStore × RevokeAllUserTokens) :=
  (c.pc.step s (.userId c.userId) a).map fun (s, pc) => (s, { c with pc := pc })

/-! ### The calls together -/

inductive TokenCall where
  | createInitialToken (c : CreateInitialToken)
  | rotateToken (c : RotateToken)
  | revokeFamilyByToken (c : RevokeFamilyByToken)
  | revokeAllUserTokens (c : RevokeAllUserTokens)

inductive TokenEvent where
  | tick (d : Millis)
  /-- Other transactions change the users. -/
  | users (users : List User) (customerUsers : List CustomerUser)
  | createInitialToken (userId : Id) (rawToken : String)
  | rotateToken (rawToken newRawToken : String)
  | revokeFamilyByToken (rawToken : String)
  | revokeAllUserTokens (userId : Id)

namespace TokenCall

def stepped {τ : Type} (call : τ → TokenCall) (next : Option (TokenStore × τ)) :
    Option (TokenStore × TokenCall) :=
  next.map fun (s, c) => (s, call c)

def resume (env : SessionEnv) (s : TokenStore) (call : TokenCall) (a : TokenAnswer) :
    Option (TokenStore × TokenCall) :=
  match call with
  | createInitialToken c => stepped createInitialToken (c.step env s a)
  | rotateToken c => stepped rotateToken (c.step env s a)
  | revokeFamilyByToken c => stepped revokeFamilyByToken (c.step env s a)
  | revokeAllUserTokens c => stepped revokeAllUserTokens (c.step s a)

def external (s : TokenStore) (event : TokenEvent) : Option (TokenStore × List TokenCall) :=
  match event with
  | .tick d => some ({ s with now := s.now + d }, [])
  | .users users customerUsers => some ({ s with users := users, customerUsers := customerUsers }, [])
  | .createInitialToken userId rawToken => some (s, [createInitialToken ⟨userId, rawToken, .create⟩])
  | .rotateToken rawToken newRawToken => some (s, [rotateToken ⟨rawToken, newRawToken, .select⟩])
  | .revokeFamilyByToken rawToken => some (s, [revokeFamilyByToken ⟨rawToken, .find⟩])
  | .revokeAllUserTokens userId => some (s, [revokeAllUserTokens ⟨userId, .start⟩])

/-- The row locks of the call's transaction. -/
def holds : TokenCall → Id → Bool
  | createInitialToken _, _ => false
  | rotateToken c, id => c.holds id
  | revokeFamilyByToken c, id =>
    match c.pc with
    | .revoke _ pc => pc.holds id
    | _ => false
  | revokeAllUserTokens c, id => c.pc.holds id

end TokenCall

abbrev TokenPool := Pool TokenStore TokenCall

abbrev TokenLabel := Pool.Label TokenAnswer TokenEvent

def tokenProgram (env : SessionEnv) : Pool.Program TokenStore TokenCall TokenAnswer TokenEvent :=
  ⟨TokenCall.resume env, TokenCall.external⟩

/-- Before the first token is issued. -/
structure TokenPool.Started (p : TokenPool) : Prop where
  refreshTokens : p.shared.refreshTokens = []
  inserted : p.shared.inserted = []
  locked : p.shared.locked = fun _ => false
  idle : p.threads = []

/-! ### A small table -/

def sampleSessions : SessionEnv := ⟨⟨60, 3, 1, 60, "pepper", id, id⟩, 7⟩

/-- One active user and no token. -/
def sampleTokens : TokenPool :=
  ⟨{ now := 1700000000000
     nextId := 10
     users := [⟨1, "it@acme.test", .active⟩]
     customerUsers := [⟨2, 1⟩]
     refreshTokens := []
     inserted := []
     locked := fun _ => false }, []⟩

theorem sampleTokens_started : TokenPool.Started sampleTokens := ⟨rfl, rfl, rfl, rfl⟩

/-- The next `n` statements of call `i` succeed. -/
def completes (i n : ℕ) : List TokenLabel := List.replicate n (.resume i ⟨true, 0⟩)

end SelfOtp
