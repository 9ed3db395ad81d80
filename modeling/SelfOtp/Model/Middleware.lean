import SelfOtp.Lib.Json
import SelfOtp.Model.World

/-! `middleware/rate-limit.ts` and `middleware/idempotency.ts`. -/
namespace SelfOtp

/-! ### isRateLimited -/

/-- The commands of the pipeline; `count` is the answer of `ZCARD`. -/
inductive LimitCommand where
  | zremrangebyscore
  | zadd
  | zcard
  | expire (count : Option ℕ)
  deriving DecidableEq

/-- A call of `isRateLimited`, with the `now` it read when it started. -/
structure LimitCall where
  key : LimitKey
  maxRequests : ℕ
  windowSeconds : ℕ
  now : ℚ
  process : ℕ
  command : LimitCommand
  deriving DecidableEq

inductive LimitOutcome where
  | pending (call : LimitCall)
  | done (isLimited : Bool) (remaining : ℕ)

/-- The set under a key that has not expired. -/
def Redis.sortedSet (r : Redis) (now : Millis) (key : LimitKey) : Option SortedSet :=
  (r.limits key).filter fun set => set.expiresAt.all fun expiresAt => now ≤ expiresAt

def Redis.setSortedSet (r : Redis) (key : LimitKey) (set : Option SortedSet) : Redis :=
  { r with limits := Function.update r.limits key set }

namespace LimitCall

def start (w : World) (process : ℕ) (key : LimitKey) (maxRequests windowSeconds : ℕ) : LimitCall :=
  ⟨key, maxRequests, windowSeconds, seconds w.now, process, .zremrangebyscore⟩

def clearBefore (c : LimitCall) : ℚ := c.now - c.windowSeconds

def outcome (c : LimitCall) (currentCount : ℕ) : LimitOutcome :=
  .done (c.maxRequests < currentCount) (c.maxRequests - currentCount)

/-- The in-memory log of the process. -/
def fallback (w : World) (c : LimitCall) : World × LimitOutcome :=
  let timestamps :=
    (((w.memory c.process).rateLimits c.key).filter fun t => c.clearBefore < t) ++ [c.now]
  (w.mapMemory c.process fun m =>
      { m with rateLimits := Function.update m.rateLimits c.key timestamps },
    c.outcome timestamps.length)

/-- One command of the pipeline. `ok` is whether that command succeeded, and for the last one
whether `exec` resolved; a failed `ZCARD` leaves no count. -/
def step (w : World) (c : LimitCall) (ok : Bool) : World × LimitOutcome :=
  let set := w.redis.sortedSet w.now c.key
  match c.command with
  | .zremrangebyscore =>
    let kept := set.bind fun s =>
      let scores := s.scores.filter fun t => !(0 ≤ t && t ≤ c.clearBefore)
      if scores.isEmpty then none else some { s with scores := scores }
    (if ok then w.mapRedis fun r => r.setSortedSet c.key kept else w,
      .pending { c with command := .zadd })
  | .zadd =>
    let grown : SortedSet := match set with
      | some s => { s with scores := s.scores ++ [c.now] }
      | none => ⟨[c.now], none⟩
    (if ok then w.mapRedis fun r => r.setSortedSet c.key (some grown) else w,
      .pending { c with command := .zcard })
  | .zcard =>
    let count := match set with
      | some s => s.scores.length
      | none => 0
    (w, .pending { c with command := .expire (if ok then some count else none) })
  | .expire count =>
    if ok then
      let w := w.mapRedis fun r => r.setSortedSet c.key
        (set.map fun s => { s with expiresAt := some (w.now + 1000 * (c.windowSeconds + 5)) })
      match count with
      -- the count stands even when an earlier command of the pipeline failed
      | some currentCount => (w, c.outcome currentCount)
      | none => c.fallback w
    else c.fallback w

end LimitCall

/-! ### Blocks -/

def isPhoneBlocked (w : World) (process : ℕ) (phoneHash : String) (ok : Bool) : Bool :=
  -- a block is looked for in memory also when Redis answers that there is none
  if ok && (w.redis.blockedPhones.get w.now phoneHash).isSome then true
  else seconds w.now < ((w.memory process).blockedPhones phoneHash).getD 0

def isCustomerBlocked (w : World) (process : ℕ) (customerId : Id) (ok : Bool) : Bool :=
  if ok && (w.redis.blockedCustomers.get w.now customerId).isSome then true
  else seconds w.now < ((w.memory process).blockedCustomers customerId).getD 0

/-! ### Idempotency -/

/-- The validated body of `POST /v1/otp/send`. -/
structure SendBody where
  phoneNumber : String
  otp : Option String
  ttlSeconds : ℚ
  templateName : String
  languageCode : String
  deriving DecidableEq

/-- `hashRequestBody`: the body in the order of its sorted keys, without a code that was not given.
`numberText` is the text that JavaScript writes for a number. -/
def hashRequestBody (env : Env) (numberText : ℚ → String) (bodyData : SendBody) : String :=
  let text (s : String) : Json := .string (JsString.ofString s)
  let otp := bodyData.otp.toList.map fun otp => (js "otp", text otp)
  let sortedJson := Json.stringify (.object ((js "language_code", text bodyData.languageCode) :: otp ++
    [(js "phone_number", text bodyData.phoneNumber), (js "template_name", text bodyData.templateName),
      (js "ttl_seconds", .number (numberText bodyData.ttlSeconds))]))
  env.sha256 sortedJson.asString

/-- `redis.get(cacheKey)`, and the process memory when that finds nothing. -/
def cachedResponse (w : World) (process : ℕ) (applicationId : Id) (idempotencyKey : String)
    (ok : Bool) : Option SendResponse :=
  match (if ok then w.redis.idempotency.get w.now (applicationId, idempotencyKey) else none) with
  | some response => some response
  | none => (w.memory process).idempotency (applicationId, idempotencyKey)

/-- `idempotency_keys.findFirst`, whose failure counts as no record. -/
def recordedResponse (w : World) (applicationId : Id) (idempotencyKey endpoint : String)
    (ok : Bool) : Option SendResponse :=
  if ok then
    (w.db.idempotencyKeys.find? fun r =>
      r.applicationId == applicationId && r.idempotencyKey == idempotencyKey &&
        r.endpoint == endpoint).map (·.responseBody)
  else none

/-- The `redis.set` of `saveIdempotentResponse`, for a day, and the process memory. -/
def cacheResponse (w : World) (process : ℕ) (applicationId : Id) (idempotencyKey : String)
    (response : SendResponse) (ok : Bool) : World :=
  let w := match (if ok then
      w.redis.idempotency.setEx w.now (applicationId, idempotencyKey) response 86400 else none) with
    | some idempotency => w.mapRedis fun r => { r with idempotency := idempotency }
    | none => w
  -- memory keeps the response whether or not Redis took it, and for good
  w.mapMemory process fun m => { m with
    idempotency := Function.update m.idempotency (applicationId, idempotencyKey) (some response) }

/-- `idempotency_keys.create`, whose failure is ignored: the columns hold 255 characters, and
the application and the customer must exist. -/
def recordResponse (w : World) (row : IdempotencyKey) (ok : Bool) : World :=
  if ok ∧ row.idempotencyKey.length ≤ 255 ∧ row.endpoint.length ≤ 255 ∧
      (∃ a ∈ w.db.applications, a.id = row.applicationId) ∧
      (∃ c ∈ w.db.customers, c.id = row.customerId) then
    w.mapDb fun db => { db with idempotencyKeys := db.idempotencyKeys ++ [row] }
  else w

end SelfOtp
