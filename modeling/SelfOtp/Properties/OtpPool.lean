import SelfOtp.Properties.VerifyMoves

/-! Steps of a pool of `storeOtp` and `verifyOtp` calls, and what is counted over it. -/
namespace SelfOtp

open Pool

/-- 1 for a `verifyOtp` call with the property. -/
def OtpCall.count (property : VerifyCall → Bool) : OtpCall → ℕ
  | store _ => 0
  | verify c => if property c then 1 else 0

@[simp] theorem OtpCall.count_verify (property : VerifyCall → Bool) (c : VerifyCall) :
    OtpCall.count property (.verify c) = if property c then 1 else 0 := rfl

/-- The awaited call is a Redis command. -/
def OtpCall.awaitsRedis : OtpCall → Bool
  | store _ => true
  | verify c => c.pc.awaitsRedis

namespace OtpPool

variable {env : Env} {key : OtpKey} {p q : OtpPool} {l : OtpLabel}

/-- How many `verifyOtp` calls are in such a phase. -/
def inPhase (env : Env) (phases : Phase → Bool) (p : OtpPool) : ℕ :=
  total (OtpCall.count fun c => phases (c.phase env)) p.threads

/-- The live Redis entry of the key. -/
def entry (key : OtpKey) (p : OtpPool) : Option StoredOtp :=
  p.shared.world.redis.otp.get p.shared.world.now key

def memoryEmpty (key : OtpKey) (p : OtpPool) : Prop :=
  ∀ process, (p.shared.world.memory process).otp key = none

/-- The `verifyOtp` call that is thread `i`. -/
def verifyAt (p : OtpPool) (i : ℕ) : Option VerifyCall :=
  match p.threads[i]? with
  | some (.verify c) => some c
  | _ => none

/-- One `storeOtp` call has put an entry in Redis, and no call is in flight. -/
def StoredOnce (key : OtpKey) (p : OtpPool) : Prop :=
  p.threads = [] ∧ p.memoryEmpty key ∧
    ∃ data, p.shared.journal = [.stored data] ∧ p.entry key = some data ∧ data.attempts = 0

/-- No Redis command fails. -/
def RedisReachable (p : OtpPool) : OtpLabel → Prop
  | .resume i ok => ∀ t ∈ p.threads[i]?, t.awaitsRedis = true → ok = true
  | .external _ => True

/-- No further `storeOtp` call for the key. -/
def NoStore : OtpLabel → Prop
  | .resume .. => True
  | .external (.tick _) => True
  | .external (.store ..) => False
  | .external (.verify ..) => True

instance : DecidablePred (RedisReachable p)
  | .resume i ok => inferInstanceAs (Decidable (∀ t ∈ p.threads[i]?, t.awaitsRedis = true → ok = true))
  | .external _ => isTrue trivial

instance : DecidablePred NoStore
  | .resume .. => isTrue trivial
  | .external (.tick _) => isTrue trivial
  | .external (.store ..) => isFalse id
  | .external (.verify ..) => isTrue trivial

theorem storeOtp_set {w : World} {process : ℕ} {data : StoredOtp} {ttlSeconds : ℚ} {ok : Bool}
    (up : ok = true) (positive : 0 < ttlSeconds) (whole : ttlSeconds.den = 1) :
    storeOtp w process key data ttlSeconds ok = w.mapRedis fun r => { r with
      otp := w.redis.otp.put key ⟨data, w.now + 1000 * ttlSeconds.num.toNat⟩ } := by
  simp [storeOtp, ExpiringMap.setEx, up, positive, whole]

theorem storeOtp_fallback {w : World} {process : ℕ} {data : StoredOtp} {ttlSeconds : ℚ} {ok : Bool}
    (failed : ¬(ok = true ∧ 0 < ttlSeconds ∧ ttlSeconds.den = 1)) :
    storeOtp w process key data ttlSeconds ok =
      w.mapMemory process fun m => m.setOtp key data (seconds w.now + ttlSeconds) := by
  cases ok with
  | false => rfl
  | true =>
    have rejected : ¬(0 < ttlSeconds ∧ ttlSeconds.den = 1) := fun accepted => failed ⟨rfl, accepted⟩
    simp [storeOtp, ExpiringMap.setEx, rejected]

/-- The steps of the pool. -/
inductive Took (env : Env) (key : OtpKey) (p : OtpPool) : OtpLabel → OtpPool → Prop
  | tick (d : Millis) :
    Took env key p (.external (.tick d)) ⟨{ p.shared with world := p.shared.world.tick d }, p.threads⟩
  | startStore (otpCode requestId : String) (ttlSeconds : ℚ) (process : ℕ) :
    Took env key p (.external (.store otpCode requestId ttlSeconds process))
      ⟨p.shared, p.threads ++ [.store ⟨otpCode, requestId, ttlSeconds, process, false⟩]⟩
  | startVerify (phoneNumber submittedCode : String) (ipAddress userAgent : Option String)
      (process : ℕ) (c : VerifyCall) (of_key : c.key env = key) (idle : c.phase env = .idle)
      (unknown : c.isValid = none) (caller : c.process = process) :
    Took env key p (.external (.verify phoneNumber submittedCode ipAddress userAgent process))
      ⟨p.shared, p.threads ++ [.verify c]⟩
  | store (i : ℕ) (ok : Bool) (c : StoreCall) (found : p.threads[i]? = some (.store c))
      (unfinished : c.finished = false) :
    Took env key p (.resume i ok)
      ⟨⟨storeOtp p.shared.world c.process key (storedOtp env c.otpCode c.requestId) c.ttlSeconds ok,
          .stored (storedOtp env c.otpCode c.requestId) :: p.shared.journal⟩,
        p.threads.set i (.store { c with finished := true })⟩
  | verify (i : ℕ) (ok : Bool) (c c' : VerifyCall) (w' : World)
      (found : p.threads[i]? = some (.verify c))
      (stepped : c.step env p.shared.world ok = some (w', c')) :
    Took env key p (.resume i ok)
      ⟨⟨w', OtpCall.recorded c c' p.shared.journal⟩, p.threads.set i (.verify c')⟩

theorem step_took (taken : step (otpProgram env key) p l = some q) : Took env key p l q := by
  cases l with
  | external event =>
    obtain ⟨s, born, acted, rfl⟩ := step_external taken
    simp only [otpProgram, OtpCall.external] at acted
    cases event with
    | tick d =>
      cases acted
      rw [List.append_nil]
      exact .tick d
    | store otpCode requestId ttlSeconds process =>
      cases acted
      exact .startStore otpCode requestId ttlSeconds process
    | verify phoneNumber submittedCode ipAddress userAgent process =>
      dsimp only at acted
      split at acted
      next same =>
        cases acted
        exact .startVerify phoneNumber submittedCode ipAddress userAgent process _
          (Prod.ext rfl same) rfl rfl rfl
      · cases acted
  | resume i ok =>
    obtain ⟨t, s, u, found, resumed, rfl⟩ := step_resume taken
    simp only [otpProgram, OtpCall.resume] at resumed
    cases t with
    | store c =>
      dsimp only at resumed
      split at resumed
      · cases resumed
      next unfinished =>
        cases resumed
        exact .store i ok c found (by simpa using unfinished)
    | verify c =>
      dsimp only at resumed
      split at resumed
      · cases resumed
      next w' c' stepped =>
        cases resumed
        exact .verify i ok c c' w' found stepped

/-- A call that moves shifts the counts by its own contribution. -/
theorem total_verify {i : ℕ} {c : VerifyCall} (found : p.threads[i]? = some (.verify c))
    (property : VerifyCall → Bool) (c' : VerifyCall) :
    total (OtpCall.count property) (p.threads.set i (.verify c')) + (if property c then 1 else 0) =
      total (OtpCall.count property) p.threads + (if property c' then 1 else 0) :=
  total_set found (.verify c')

theorem recorded_same {c c' : VerifyCall} {journal : List JournalEntry}
    (same : c'.isValid = c.isValid) : OtpCall.recorded c c' journal = journal := by
  unfold OtpCall.recorded
  rw [same]
  cases c.isValid <;> rfl

theorem recorded_accepted {c c' : VerifyCall} {journal : List JournalEntry}
    (before : c.isValid = none) (after : c'.isValid = some true) :
    OtpCall.recorded c c' journal = .accepted c.submittedCode :: journal := by
  simp only [OtpCall.recorded, before, after]

theorem recorded_refused {c c' : VerifyCall} {journal : List JournalEntry}
    (before : c.isValid = none) (after : c'.isValid = some false) :
    OtpCall.recorded c c' journal = .refused c.submittedCode :: journal := by
  simp only [OtpCall.recorded, before, after]

theorem memoryEmpty_verify {c c' : VerifyCall} {w' : World} {ok : Bool}
    {journal : List JournalEntry} {threads : List OtpCall} (empty : p.memoryEmpty key)
    (stepped : c.step env p.shared.world ok = some (w', c')) :
    memoryEmpty key ⟨⟨w', journal⟩, threads⟩ := by
  intro process
  rcases (VerifyCall.step_memory stepped process).otp key with kept | dropped
  · exact kept.trans (empty process)
  · exact dropped

section Sample

def sampleEnv : Env := ⟨60, 3, 1, 60, "pepper", id, id⟩

def sampleKey : OtpKey := (1, "+4915112345678")

/-- The code 123456, stored for five minutes. -/
def samplePool : OtpPool :=
  let data := storedOtp sampleEnv "123456" "req_00112233445566778899aabb"
  ⟨⟨storeOtp (.empty 0) 0 sampleKey data 300 true, [.stored data]⟩, []⟩

def sampleVerify (submittedCode : String) : OtpLabel :=
  .external (.verify "+4915112345678" submittedCode none none 0)

theorem samplePool_storedOnce : StoredOnce sampleKey samplePool :=
  ⟨rfl, fun _ => rfl, storedOtp sampleEnv "123456" "req_00112233445566778899aabb", rfl,
    by decide +kernel, rfl⟩

end Sample

end OtpPool

end SelfOtp
