import SelfOtp.Lib.CodeStore
import SelfOtp.Model.Middleware
import SelfOtp.Properties.OtpPool
import SelfOtp.Properties.VerifyRun

/-! What `verifyOtp` does while every Redis command fails. -/
namespace SelfOtp

open Transition Machine CodeStore

/-- The reference machine: for each key the latest code with its request id, and the phone numbers that
are blocked, with the end of the block. -/
structure Reference where
  now : Millis
  codes : CodeStore.Store OtpKey String String ℚ
  blocked : String → Option ℚ

namespace Reference

def reply (phoneNumber : String) (now : Millis) : CodeStore.Answer String → Except AppError VerifyResult
  | .absent => .error otpExpired
  | .wrong remaining => .error (invalidOtp remaining)
  | .exhausted => .error maxAttemptsExceeded
  | .accepted requestId => .ok ⟨requestId, maskPhoneNumber phoneNumber, now, "OTP verified successfully"⟩

/-- A code is put, and tried, in the given form. -/
def perform (env : Env) (form : String → String) (r : Reference) :
    OtpOperation → Reference × List (Except AppError VerifyResult)
  | .tick d => ({ r with now := r.now + d }, [])
  | .store key otpCode requestId ttlSeconds =>
    ({ r with codes := put r.codes key (form otpCode) requestId (seconds r.now + ttlSeconds) }, [])
  | .verify phoneNumber submittedCode applicationId _ _ =>
    let phoneHash := hashPhoneNumber env phoneNumber
    let tried := submit env.otpMaxVerifyAttempts r.codes (seconds r.now) (applicationId, phoneHash)
      (form submittedCode)
    ({ r with
        codes := tried.1
        blocked := if tried.2 = .exhausted then
          Function.update r.blocked phoneHash (some (seconds r.now + 3600)) else r.blocked },
      [reply phoneNumber r.now tried.2])

def isBlocked (r : Reference) (phoneHash : String) : Bool :=
  (r.blocked phoneHash).any fun unblockTime => seconds r.now < unblockTime

/-- No code is stored, and the blocks are those of the process. -/
def start (w : World) (process : ℕ) : Reference :=
  ⟨w.now, fun _ => none, (w.memory process).blockedPhones⟩

end Reference

/-- A form of the codes whose digest is their hash. -/
structure Coding (env : Env) where
  form : String → String
  digest : String → String
  digest_form : ∀ otpCode, digest (form otpCode) = hashOtpCode env otpCode
  injective : Function.Injective digest

/-- The digest of the trimmed code is the hash, where no two texts have the same one. -/
def Coding.trimmed {env : Env} (injective : Function.Injective env.hmac) : Coding env :=
  ⟨trim, env.hmac, fun _ => rfl, injective⟩

/-- The data that is kept for a code, and the end of its life. -/
def memoryOtp (digest : String → String) (e : CodeStore.Entry String String ℚ) : MemoryOtp :=
  ⟨⟨digest e.code, e.reference, e.wrong⟩, e.expiresAt⟩

/-- What the process memory has under the key. -/
def World.memoryEntry (w : World) (process : ℕ) (key : OtpKey) : Option MemoryOtp :=
  ((w.memory process).otp key).map (w.memory process).heap

/-- The process memory keeps the codes, each in an object of its own. -/
structure Memory.Keeps (digest : String → String) (m : Memory) (codes : CodeStore.Store OtpKey String String ℚ) :
    Prop where
  allocated : ∀ key object, m.otp key = some object → object < m.nextObject
  distinct : ∀ key other object, m.otp key = some object → m.otp other = some object → other = key
  entries : ∀ key, (m.otp key).map m.heap = (codes key).map (memoryOtp digest)

/-- The process is in the state of the reference machine. -/
structure InMemory (digest : String → String) (process : ℕ) (w : World) (r : Reference) : Prop where
  now : w.now = r.now
  codes : (w.memory process).Keeps digest r.codes
  blocked : (w.memory process).blockedPhones = r.blocked

section Memory

variable {env : Env} {digest : String → String} {m : Memory} {codes : CodeStore.Store OtpKey String String ℚ}
  {key : OtpKey} {object : ℕ} {e : CodeStore.Entry String String ℚ}

/-- The object of a key holds its code. -/
theorem Memory.Keeps.found (keeps : m.Keeps digest codes) (stored : codes key = some e) :
    ∃ object, m.otp key = some object ∧ m.heap object = memoryOtp digest e := by
  have entry := keeps.entries key
  rw [stored, Option.map_some] at entry
  exact Option.map_eq_some_iff.mp entry

theorem Memory.Keeps.missing (keeps : m.Keeps digest codes) (absent : codes key = none) : m.otp key = none := by
  have entry := keeps.entries key
  rw [absent, Option.map_none] at entry
  exact Option.map_eq_none_iff.mp entry

theorem Memory.Keeps.set {coding : Coding env} (keeps : m.Keeps coding.digest codes) (key : OtpKey)
    (otpCode requestId : String) (expiresAt : ℚ) :
    (m.setOtp key (storedOtp env otpCode requestId) expiresAt).Keeps coding.digest
      (put codes key (coding.form otpCode) requestId expiresAt) := by
  -- the object is a new one: no other key refers to it
  have unused (other : OtpKey) (object : ℕ) (kept : m.otp other = some object) : object ≠ m.nextObject :=
    (keeps.allocated other object kept).ne
  unfold Memory.setOtp put
  refine ⟨fun other object kept => ?_, fun one other object kept again => ?_, fun other => ?_⟩
  · dsimp only at kept ⊢
    by_cases here : other = key
    · subst here
      rw [Function.update_self] at kept
      cases kept
      exact Nat.lt_succ_self _
    · rw [Function.update_of_ne here] at kept
      exact Nat.lt_succ_of_lt (keeps.allocated other object kept)
  · dsimp only at kept again
    by_cases here : one = key <;> by_cases there : other = key
    · rw [here, there]
    · rw [here, Function.update_self] at kept
      rw [Function.update_of_ne there, ← Option.some.inj kept] at again
      exact absurd rfl (unused other _ again)
    · rw [there, Function.update_self] at again
      rw [Function.update_of_ne here, ← Option.some.inj again] at kept
      exact absurd rfl (unused one _ kept)
    · rw [Function.update_of_ne here] at kept
      rw [Function.update_of_ne there] at again
      exact keeps.distinct one other object kept again
  · by_cases here : other = key
    · subst here
      simp [memoryOtp, storedOtp, coding.digest_form]
    · simp only [Function.update_of_ne here]
      rw [← keeps.entries other]
      cases kept : m.otp other with
      | none => rfl
      | some object => simp [Function.update_of_ne (unused other object kept)]

/-- Another attempt is counted in the object. -/
theorem Memory.Keeps.count (keeps : m.Keeps digest codes) (stored : codes key = some e)
    (kept : m.otp key = some object) (holds : m.heap object = memoryOtp digest e) :
    Memory.Keeps digest { m with
      heap := Function.update m.heap object { m.heap object with
        otp := { (m.heap object).otp with attempts := e.wrong + 1 } } }
      (Function.update codes key (some { e with wrong := e.wrong + 1 })) := by
  refine ⟨keeps.allocated, keeps.distinct, fun other => ?_⟩
  by_cases here : other = key
  · subst here
    simp [kept, holds, memoryOtp]
  · simp only [Function.update_of_ne here]
    rw [← keeps.entries other]
    cases kept_other : m.otp other with
    | none => rfl
    | some another =>
      have apart : another ≠ object := fun same =>
        here (keeps.distinct key other object kept (same ▸ kept_other))
      simp [Function.update_of_ne apart]

theorem Memory.Keeps.delete (keeps : m.Keeps digest codes) (key : OtpKey) :
    Memory.Keeps digest { m with otp := Function.update m.otp key none } (Function.update codes key none) := by
  have before {other : OtpKey} {object : ℕ} (kept : Function.update m.otp key none other = some object) :
      m.otp other = some object := by
    by_cases here : other = key
    · rw [here, Function.update_self] at kept
      cases kept
    · rwa [Function.update_of_ne here] at kept
  refine ⟨fun other object kept => keeps.allocated other object (before kept),
    fun one other object kept again => keeps.distinct one other object (before kept) (before again),
    fun other => ?_⟩
  by_cases here : other = key
  · subst here
    simp
  · simp only [Function.update_of_ne here]
    exact keeps.entries other

end Memory

section Calls

variable {env : Env} {digest : String → String} {coding : Coding env} {process : ℕ} {w : World} {r : Reference}
  {c : VerifyCall} {e : CodeStore.Entry String String ℚ}

theorem InMemory.mapDb (same : InMemory digest process w r) (db : Database) :
    InMemory digest process (w.mapDb fun _ => db) r := ⟨same.now, same.codes, same.blocked⟩

/-- A change to the memory of the process alone. -/
theorem InMemory.mapMemory (same : InMemory digest process w r) {f : Memory → Memory}
    {codes : CodeStore.Store OtpKey String String ℚ} {blocked : String → Option ℚ}
    (keeps : (f (w.memory process)).Keeps digest codes) (blocks : (f (w.memory process)).blockedPhones = blocked) :
    InMemory digest process (w.mapMemory process f) { r with codes := codes, blocked := blocked } := by
  have changed : (w.mapMemory process f).memory process = f (w.memory process) := by
    rw [World.mapMemory_memory, if_pos rfl]
  constructor
  case now => exact same.now
  case codes => rwa [changed]
  case blocked => rwa [changed]

theorem InMemory.lookup_none (same : InMemory digest process w r) (here : c.process = process)
    (absent : live r.codes (seconds r.now) (c.key env) = none) : c.lookup env w false = none := by
  subst here
  simp only [VerifyCall.lookup, Bool.false_eq_true, if_false, same.now]
  cases stored : r.codes (c.key env) with
  | none => rw [same.codes.missing stored]
  | some e =>
    obtain ⟨object, kept, holds⟩ := same.codes.found stored
    have late : ¬seconds r.now ≤ e.expiresAt := by
      intro in_time
      rw [live_eq_some.mpr ⟨stored, in_time⟩] at absent
      cases absent
    simp only [kept, holds, memoryOtp, if_neg late]

theorem InMemory.lookup_some (same : InMemory digest process w r) (here : c.process = process)
    (found : live r.codes (seconds r.now) (c.key env) = some e) :
    ∃ object, (w.memory process).otp (c.key env) = some object ∧
      (w.memory process).heap object = memoryOtp digest e ∧
      c.lookup env w false = some ⟨(memoryOtp digest e).otp, some object, e.wrong + 1⟩ := by
  subst here
  obtain ⟨stored, in_time⟩ := live_eq_some.mp found
  obtain ⟨object, kept, holds⟩ := same.codes.found stored
  refine ⟨object, kept, holds, ?_⟩
  simp only [VerifyCall.lookup, Bool.false_eq_true, if_false, same.now, kept, holds]
  exact if_pos in_time

/-- The entry is deleted, while Redis fails. -/
theorem InMemory.deleteEntry (env : Env) (same : InMemory digest process w r) (here : c.process = process) :
    InMemory digest process (c.deleteEntry env w false)
      { r with codes := Function.update r.codes (c.key env) none } := by
  subst here
  simp only [VerifyCall.deleteEntry, Bool.false_eq_true, if_false]
  apply same.mapMemory
  · exact same.codes.delete (c.key env)
  · exact same.blocked

theorem InMemory.mutate (same : InMemory digest process w r) (here : c.process = process) {object : ℕ}
    (stored : r.codes (c.key env) = some e) (kept : (w.memory process).otp (c.key env) = some object)
    (holds : (w.memory process).heap object = memoryOtp digest e) :
    InMemory digest process (c.mutate w ⟨(memoryOtp digest e).otp, some object, e.wrong + 1⟩)
      { r with codes := Function.update r.codes (c.key env) (some { e with wrong := e.wrong + 1 }) } := by
  subst here
  simp only [VerifyCall.mutate]
  apply same.mapMemory
  · exact same.codes.count stored kept holds
  · exact same.blocked

theorem InMemory.block (same : InMemory digest process w r) (phoneHash : String) :
    InMemory digest process (blockPhoneNumber w process phoneHash 3600 false)
      { r with blocked := Function.update r.blocked phoneHash (some (seconds r.now + 3600)) } := by
  simp only [blockPhoneNumber, Bool.false_eq_true, if_false]
  apply same.mapMemory
  · exact ⟨same.codes.allocated, same.codes.distinct, same.codes.entries⟩
  · rw [same.blocked, same.now]

/-- The codes are equal when their hashes are. -/
theorem verifyOtpCode_iff (submittedCode : String) :
    verifyOtpCode env submittedCode (memoryOtp coding.digest e).otp.otpHash = true ↔
      coding.form submittedCode = e.code := by
  rw [verifyOtpCode, beq_iff_eq, ← coding.digest_form, memoryOtp]
  exact coding.injective.eq_iff

theorem Reference.perform_verify {codes : CodeStore.Store OtpKey String String ℚ}
    {answer : CodeStore.Answer String}
    (tried : submit env.otpMaxVerifyAttempts r.codes (seconds r.now) (c.key env) (coding.form c.submittedCode) =
      (codes, answer)) :
    r.perform env coding.form c.operation =
      ({ r with
          codes := codes
          blocked := if answer = .exhausted then
            Function.update r.blocked (c.phoneHash env) (some (seconds r.now + 3600)) else r.blocked },
        [reply c.phoneNumber r.now answer]) := by
  have tried : submit env.otpMaxVerifyAttempts r.codes (seconds r.now)
    (c.applicationId, hashPhoneNumber env c.phoneNumber) (coding.form c.submittedCode) = (codes, answer) := tried
  simp only [VerifyCall.operation, Reference.perform, tried]
  rfl

/-- A `verifyOtp` call does what the reference machine does. -/
theorem InMemory.verify (same : InMemory coding.digest process w r)
    (here : c.process = process) (starts : c.pc = .lookup) :
    InMemory coding.digest process (c.run env false w).1 (r.perform env coding.form c.operation).1 ∧
      (c.run env false w).2.outcome.toList = (r.perform env coding.form c.operation).2 := by
  rcases submit_cases env.otpMaxVerifyAttempts r.codes (seconds r.now) (c.key env)
    (coding.form c.submittedCode) with
    ⟨absent, tried⟩ | ⟨e, found, ⟨right, tried⟩ | ⟨wrong, last, tried⟩ | ⟨wrong, early, tried⟩⟩
  -- no code that can be used
  · rw [Reference.perform_verify tried, VerifyCall.run_of_passes
      (VerifyCall.run_absent starts (same.lookup_none here absent)) (by decide) rfl]
    exact ⟨⟨same.now, same.codes, same.blocked⟩, rfl⟩
  -- the right code
  · obtain ⟨object, -, -, fetched⟩ := same.lookup_some here found
    obtain ⟨db, accepts⟩ := VerifyCall.run_right starts fetched ((verifyOtpCode_iff _).mpr right)
    rw [Reference.perform_verify tried, VerifyCall.run_of_passes accepts (by decide) rfl]
    refine ⟨(same.deleteEntry env here).mapDb db, ?_⟩
    simp only [VerifyCall.outcome, VerifyCall.result, Reference.reply, memoryOtp, same.now]
    rfl
  · obtain ⟨object, kept, holds, fetched⟩ := same.lookup_some here found
    have rejected := Bool.eq_false_iff.mpr (mt (verifyOtpCode_iff _).mp wrong)
    obtain ⟨db, refuses⟩ := VerifyCall.run_last starts fetched rejected last
    rw [Reference.perform_verify tried, VerifyCall.run_of_passes refuses (by decide) rfl]
    -- the object is counted up, and then it is deleted
    have counted := same.mutate here (live_eq_some.mp found).1 kept holds
    have deleted := (counted.block (c.phoneHash env)).deleteEntry env (c := c) here
    rw [Function.update_idem] at deleted
    subst here
    exact ⟨deleted.mapDb db, rfl⟩
  · obtain ⟨object, kept, holds, fetched⟩ := same.lookup_some here found
    have rejected := Bool.eq_false_iff.mpr (mt (verifyOtpCode_iff _).mp wrong)
    -- the counter is in the object, and nothing is written back
    obtain ⟨db, counts⟩ := VerifyCall.run_counting_memory starts fetched rejected early
    rw [Reference.perform_verify tried, VerifyCall.run_of_passes counts (by decide) rfl]
    exact ⟨(same.mutate here (live_eq_some.mp found).1 kept holds).mapDb db, rfl⟩

/-- One call, or one stretch of time. -/
theorem InMemory.perform (coding : Coding env) (same : InMemory coding.digest process w r)
    (op : OtpOperation) :
    InMemory coding.digest process (op.perform env false process w).1 (r.perform env coding.form op).1 ∧
      (op.perform env false process w).2 = (r.perform env coding.form op).2 := by
  cases op with
  | tick d => exact ⟨⟨congrArg (· + d) same.now, same.codes, same.blocked⟩, rfl⟩
  | store key otpCode requestId ttlSeconds =>
    refine ⟨?_, rfl⟩
    simp only [OtpOperation.perform, storeOtp, Bool.false_eq_true, if_false]
    apply same.mapMemory
    · rw [same.now]
      exact same.codes.set key otpCode requestId _
    · exact same.blocked
  | verify phoneNumber submittedCode applicationId ipAddress userAgent =>
    exact same.verify (c := ⟨phoneNumber, submittedCode, applicationId, ipAddress, userAgent, process, none,
      .lookup⟩) rfl rfl

theorem InMemory.start (fresh : ∀ key, (w.memory process).otp key = none) :
    InMemory digest process w (.start w process) :=
  ⟨rfl, ⟨fun key object kept => (Option.some_ne_none _ (kept.symm.trans (fresh key))).elim,
    fun key _ object kept => (Option.some_ne_none _ (kept.symm.trans (fresh key))).elim,
    fun key => by rw [fresh key]; rfl⟩, rfl⟩

theorem InMemory.phoneBlocked (same : InMemory digest process w r) (phoneHash : String) :
    isPhoneBlocked w process phoneHash false = r.isBlocked phoneHash := by
  simp only [isPhoneBlocked, Reference.isBlocked, Bool.false_and, Bool.false_eq_true, if_false,
    same.now, same.blocked]
  cases r.blocked phoneHash with
  | none =>
    have later : ¬seconds r.now < 0 := not_lt.mpr (seconds_nonneg _)
    simp [later]
  | some unblockTime => rfl

/-- The key that a call is about. -/
def OtpOperation.key (env : Env) : OtpOperation → Option OtpKey
  | tick _ => none
  | store key _ _ _ => some key
  | verify phoneNumber _ applicationId _ _ => some (applicationId, hashPhoneNumber env phoneNumber)

theorem Reference.perform_codes_other {op : OtpOperation} {key : OtpKey} (apart : op.key env ≠ some key) :
    (r.perform env coding.form op).1.codes key = r.codes key := by
  cases op with
  | tick d => rfl
  | store stored otpCode requestId ttlSeconds =>
    exact Function.update_of_ne (fun same => apart (congrArg some same.symm)) ..
  | verify phoneNumber submittedCode applicationId ipAddress userAgent =>
    exact submit_other fun same => apart (congrArg some same.symm)

/-- A call leaves what the process has under any other key. -/
theorem InMemory.memoryEntry_other (coding : Coding env) (same : InMemory coding.digest process w r)
    {op : OtpOperation} {key : OtpKey} (apart : op.key env ≠ some key) :
    (op.perform env false process w).1.memoryEntry process key = w.memoryEntry process key := by
  have after := (same.perform coding op).1.codes.entries key
  rw [Reference.perform_codes_other apart] at after
  exact after.trans (same.codes.entries key).symm

end Calls

/-- Without Redis, `verifyOtp` is the reference machine on the trimmed codes: it gives the same answers,
keeps the same codes and blocks the same phone numbers, and no call touches the code of another key. -/
theorem InMemory.refines (env : Env) (injective : Function.Injective env.hmac) (process : ℕ) (w : World)
    (fresh : ∀ key, (w.memory process).otp key = none) (ops : List OtpOperation) :
    let served := serve (fun w op => OtpOperation.perform env false process w op) w ops
    let expected := serve (fun r op => Reference.perform env trim r op) (.start w process) ops
    served.2 = expected.2 ∧
      (∀ key, served.1.memoryEntry process key = (expected.1.codes key).map (memoryOtp env.hmac)) ∧
      (∀ phoneHash, isPhoneBlocked served.1 process phoneHash false = expected.1.isBlocked phoneHash) ∧
      ∀ op : OtpOperation, ∀ key, op.key env ≠ some key →
        (op.perform env false process served.1).1.memoryEntry process key = served.1.memoryEntry process key := by
  intro served expected
  obtain ⟨same, answers⟩ := serve_refines
    (fun w r op (same : InMemory env.hmac process w r) => InMemory.perform (.trimmed injective) same op)
    (InMemory.start fresh) ops
  exact ⟨answers, same.codes.entries, same.phoneBlocked, fun _ _ apart =>
    InMemory.memoryEntry_other (.trimmed injective) same apart⟩

/-- The code 123456 for five minutes: a wrong code, the right one, and the right one once more. -/
def sampleAttempts : List OtpOperation :=
  let submit (code : String) : OtpOperation := .verify "+4915112345678" code 1 none none
  [.store (1, "+4915112345678") "123456" "req_1" 300, .tick 1500, submit "000000", .tick 700, submit " 123456",
    submit "123456"]

theorem InMemory.refines_of_attempts :
    (serve (fun w op => OtpOperation.perform OtpPool.sampleEnv false 0 w op) (.empty 0) sampleAttempts).2 =
      [.error (invalidOtp 2), .ok ⟨"req_1", maskPhoneNumber "+4915112345678", 2200, "OTP verified successfully"⟩,
        .error otpExpired] :=
  (InMemory.refines OtpPool.sampleEnv Function.injective_id 0 (.empty 0) (fun _ => rfl) sampleAttempts).1.trans
    (by decide +kernel)

end SelfOtp
