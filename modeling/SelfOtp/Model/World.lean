import SelfOtp.Lib.ExpiringMap
import SelfOtp.Lib.Pool
import SelfOtp.Model.Tables

/-! The state the processes share: clock, Redis, the database and the queues, and the
in-process fallback maps of each API process. -/
namespace SelfOtp

/-- `otp:store:${applicationId}:${phoneHash}`. -/
abbrev OtpKey := Id × String

/-- `storedData`, as far as it is read back. -/
structure StoredOtp where
  otpHash : String
  requestId : String
  attempts : ℕ
  deriving DecidableEq

/-- A value of `inMemoryOtpStore`. -/
structure MemoryOtp where
  otp : StoredOtp
  expiresAt : ℚ
  deriving DecidableEq

/-- The keys handed to `isRateLimited`. -/
inductive LimitKey where
  | ip (clientIp : String)
  | phone (phoneHash : String)
  | customer (id : Id)
  | apiKey (id : Id)
  | auth (apiKeyId : Id)
  deriving DecidableEq

/-- A sorted set of request times; its members are distinct. -/
structure SortedSet where
  scores : List ℚ
  expiresAt : Option Millis

structure Redis where
  otp : ExpiringMap OtpKey StoredOtp
  cooldown : ExpiringMap String Unit
  blockedPhones : ExpiringMap String Unit
  blockedCustomers : ExpiringMap Id Unit
  /-- `idempotency:${applicationId}:${idempotencyKey}`. -/
  idempotency : ExpiringMap (Id × String) SendResponse
  limits : LimitKey → Option SortedSet

/-- The module-level `Map`s of one Node process. `inMemoryOtpStore` maps to references into
`heap`: a caller that looked a value up shares the object with the map. -/
structure Memory where
  otp : OtpKey → Option ℕ
  heap : ℕ → MemoryOtp
  nextObject : ℕ
  cooldown : String → Option ℚ
  rateLimits : LimitKey → List ℚ
  blockedPhones : String → Option ℚ
  blockedCustomers : Id → Option ℚ
  idempotency : Id × String → Option SendResponse

structure SendOtpJobData where
  otpRequestDbId : Id
  requestId : String
  phoneNumber : String
  otpCode : String
  templateName : String
  languageCode : String
  customerId : Id
  costCredits : ℚ
  deriving DecidableEq

/-- A job of `otpQueue`; `attempts` is `job.opts.attempts`. -/
structure SendOtpJob where
  id : ℕ
  data : SendOtpJobData
  attempts : ℕ
  deriving DecidableEq

/-- A `deadLetterQueue` entry. -/
structure DeadLetter where
  name : String
  jobId : ℕ
  requestId : String
  customerId : Id
  reason : String

/-- A call that reached the WhatsApp provider, and whether it accepted the message. -/
structure ProviderCall where
  phoneNumber : String
  otpCode : String
  templateName : String
  languageCode : String
  accepted : Bool

structure World where
  now : Millis
  /-- The next primary key or job id. -/
  nextId : Id
  redis : Redis
  memory : ℕ → Memory
  db : Database
  otpQueue : List SendOtpJob
  deadLetters : List DeadLetter
  provider : List ProviderCall

def Redis.empty : Redis :=
  ⟨.empty, .empty, .empty, .empty, .empty, fun _ => none⟩

def Memory.empty : Memory :=
  ⟨fun _ => none, fun _ => ⟨⟨"", "", 0⟩, 0⟩, 0, fun _ => none, fun _ => [], fun _ => none,
    fun _ => none, fun _ => none⟩

namespace World

def empty (now : Millis) : World := ⟨now, 0, .empty, fun _ => .empty, .empty, [], [], []⟩

def mapDb (w : World) (f : Database → Database) : World := { w with db := f w.db }

def mapRedis (w : World) (f : Redis → Redis) : World := { w with redis := f w.redis }

def mapMemory (w : World) (process : ℕ) (f : Memory → Memory) : World :=
  { w with memory := Function.update w.memory process (f (w.memory process)) }

def tick (w : World) (d : Millis) : World := { w with now := w.now + d }

section Lemmas

variable (w : World) (f : Memory → Memory) (g : Redis → Redis) (k : Database → Database)
  (process other : ℕ) (d : Millis)

@[simp] theorem mapMemory_memory : (w.mapMemory process f).memory other =
    if other = process then f (w.memory process) else w.memory other := by
  simp only [mapMemory, Function.update_apply]

@[simp] theorem mapMemory_redis : (w.mapMemory process f).redis = w.redis := rfl

@[simp] theorem mapMemory_db : (w.mapMemory process f).db = w.db := rfl

@[simp] theorem mapMemory_now : (w.mapMemory process f).now = w.now := rfl

@[simp] theorem mapRedis_redis : (w.mapRedis g).redis = g w.redis := rfl

@[simp] theorem mapRedis_now : (w.mapRedis g).now = w.now := rfl

@[simp] theorem mapDb_db : (w.mapDb k).db = k w.db := rfl

end Lemmas

end World

/-- `SendMessageResult`. -/
structure SendMessageResult where
  success : Bool
  providerMessageId : Option String
  isTemporaryError : Bool
  errorMessage : Option String
  deriving DecidableEq

/-- `res.errorMessage || fallback`. -/
def SendMessageResult.reason (res : SendMessageResult) (fallback : String) : String :=
  match res.errorMessage with
  | some message => if message = "" then fallback else message
  | none => fallback

/-- How an awaited call ends. `ok`: it resolved; otherwise it threw an error with the message
`error`. `delivery` is the provider's answer when it is the one that was called. -/
structure Answer where
  ok : Bool
  error : String
  delivery : SendMessageResult
  deriving DecidableEq

namespace Answer

def resolved : Answer := ⟨true, "", ⟨true, none, false, none⟩⟩

def threw (error : String) : Answer := ⟨false, error, ⟨false, none, true, none⟩⟩

def accepted (wamid : String) : Answer := ⟨true, "", ⟨true, some wamid, false, none⟩⟩

def rejected (message : String) : Answer := ⟨true, "", ⟨false, none, false, some message⟩⟩

def unavailable (message : String) : Answer := ⟨true, "", ⟨false, none, true, some message⟩⟩

end Answer

/-- `whatsappProvider.sendOtp`, which resolves with the answer. -/
def sendOtp (w : World) (phoneNumber otpCode templateName languageCode : String)
    (res : SendMessageResult) : World :=
  { w with provider :=
      ⟨phoneNumber, otpCode, templateName, languageCode, res.success⟩ :: w.provider }

/-- `otpQueue.add`; its jobs have three attempts. -/
def addSendOtpJob (w : World) (data : SendOtpJobData) : World :=
  { w with nextId := w.nextId + 1, otpQueue := w.otpQueue ++ [⟨w.nextId, data, 3⟩] }

/-- `deadLetterQueue.add`. -/
def addDeadLetter (w : World) (letter : DeadLetter) : World :=
  { w with deadLetters := w.deadLetters ++ [letter] }

end SelfOtp
