import SelfOtp.Model.OtpService

/-! Concurrent `storeOtp` and `verifyOtp` calls on one key. The journal records, newest
first, what the calls stored and how the codes they compared came out. -/
namespace SelfOtp

inductive JournalEntry where
  | stored (data : StoredOtp)
  | accepted (code : String)
  | refused (code : String)
  deriving DecidableEq

structure OtpState where
  world : World
  journal : List JournalEntry

structure StoreCall where
  otpCode : String
  requestId : String
  ttlSeconds : ℚ
  process : ℕ
  finished : Bool

inductive OtpCall where
  | store (c : StoreCall)
  | verify (c : VerifyCall)

inductive OtpEvent where
  | tick (d : Millis)
  | store (otpCode requestId : String) (ttlSeconds : ℚ) (process : ℕ)
  | verify (phoneNumber submittedCode : String) (ipAddress userAgent : Option String) (process : ℕ)

namespace OtpCall

/-- The journal after a step of `c` to `c'`: a comparison is written down. -/
def recorded (c c' : VerifyCall) (journal : List JournalEntry) : List JournalEntry :=
  match c.isValid, c'.isValid with
  | none, some true => .accepted c.submittedCode :: journal
  | none, some false => .refused c.submittedCode :: journal
  | _, _ => journal

def resume (env : Env) (key : OtpKey) (s : OtpState) (call : OtpCall) (ok : Bool) :
    Option (OtpState × OtpCall) :=
  match call with
  | store c =>
    if c.finished then none
    else
      let data := storedOtp env c.otpCode c.requestId
      some (⟨storeOtp s.world c.process key data c.ttlSeconds ok, .stored data :: s.journal⟩,
        store { c with finished := true })
  | verify c =>
    match c.step env s.world ok with
    | none => none
    | some (w, c') => some (⟨w, recorded c c' s.journal⟩, verify c')

/-- Time passes, or a call on the key starts. -/
def external (env : Env) (key : OtpKey) (s : OtpState) (event : OtpEvent) :
    Option (OtpState × List OtpCall) :=
  match event with
  | .tick d => some ({ s with world := s.world.tick d }, [])
  | .store otpCode requestId ttlSeconds process =>
    some (s, [store ⟨otpCode, requestId, ttlSeconds, process, false⟩])
  | .verify phoneNumber submittedCode ipAddress userAgent process =>
    if hashPhoneNumber env phoneNumber = key.2 then
      some (s, [verify ⟨phoneNumber, submittedCode, key.1, ipAddress, userAgent, process, none,
        .lookup⟩])
    else none

end OtpCall

abbrev OtpPool := Pool OtpState OtpCall

abbrev OtpLabel := Pool.Label Bool OtpEvent

def otpProgram (env : Env) (key : OtpKey) : Pool.Program OtpState OtpCall Bool OtpEvent :=
  ⟨OtpCall.resume env key, OtpCall.external env key⟩

/-- The pool before any call on the key: no call in flight, nothing stored in any tier. -/
def OtpPool.Fresh (key : OtpKey) (p : OtpPool) : Prop :=
  p.threads = [] ∧ p.shared.journal = [] ∧ p.shared.world.redis.otp key = none ∧
    ∀ process, (p.shared.world.memory process).otp key = none

end SelfOtp
