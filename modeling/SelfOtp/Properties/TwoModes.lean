import SelfOtp.Properties.MemoryMode

/-! `verifyOtp` with Redis and without it. -/
namespace SelfOtp

open Transition Machine CodeStore

/-- What Redis has under the key, and the end of its life in seconds. -/
def World.redisEntry (w : World) (key : OtpKey) : Option MemoryOtp :=
  (w.redis.otp key).map fun cell => ⟨cell.value, seconds cell.expiresAt⟩

/-- Redis is in the state of the reference machine, and the process memory keeps no code. -/
structure InRedis (digest : String → String) (process : ℕ) (w : World) (r : Reference) : Prop where
  now : w.now = r.now
  entries : ∀ key, w.redisEntry key = (r.codes key).map (memoryOtp digest)
  unused : ∀ key, (w.memory process).otp key = none

/-- A positive whole number of seconds. -/
def WholeSeconds (life : ℚ) : Prop := 0 < life ∧ life.den = 1

instance (life : ℚ) : Decidable (WholeSeconds life) := inferInstanceAs (Decidable (_ ∧ _))

/-- `TTL` gives the life of a code as it is. Where a code is tried with a wrong one, and is not used up by
that, a positive whole number of seconds is left of its life. -/
def LifeIsRead (env : Env) (process : ℕ) (w : World) : OtpOperation → Prop
  | .tick _ => True
  | .store _ _ _ ttlSeconds => WholeSeconds ttlSeconds
  | .verify phoneNumber submittedCode applicationId _ _ =>
    ∀ data ∈ w.memoryEntry process (applicationId, hashPhoneNumber env phoneNumber),
      seconds w.now ≤ data.expiresAt → verifyOtpCode env submittedCode data.otp.otpHash = false →
        data.otp.attempts + 1 < env.otpMaxVerifyAttempts → WholeSeconds (data.expiresAt - seconds w.now)

instance (env : Env) (process : ℕ) (w : World) : ∀ op, Decidable (LifeIsRead env process w op)
  | .tick _ => isTrue trivial
  | .store _ _ _ ttlSeconds => inferInstanceAs (Decidable (WholeSeconds ttlSeconds))
  | .verify .. => inferInstanceAs (Decidable (∀ data ∈ (_ : Option MemoryOtp), _ → _ → _ → WholeSeconds _))

/-- Codes are compared by their hashes. -/
def Coding.hashed (env : Env) : Coding env :=
  ⟨hashOtpCode env, id, fun _ => rfl, Function.injective_id⟩

/-- A positive whole number of seconds, as a number. -/
theorem WholeSeconds.eq_natCast {life : ℚ} (whole : WholeSeconds life) :
    0 < life.num.toNat ∧ (life.num.toNat : ℚ) = life :=
  ⟨Int.pos_iff_toNat_pos.mp (Rat.num_pos.mpr whole.1), ExpiringMap.toNat_num whole.1 whole.2⟩

section Calls

variable {env : Env} {digest : String → String} {coding : Coding env} {process : ℕ} {w : World} {r : Reference}
  {c : VerifyCall} {e : CodeStore.Entry String String ℚ}

theorem InRedis.mapDb (same : InRedis digest process w r) (db : Database) :
    InRedis digest process (w.mapDb fun _ => db) r := ⟨same.now, same.entries, same.unused⟩

/-- The entry of a key is its code. -/
theorem InRedis.found {key : OtpKey} (same : InRedis digest process w r) (stored : r.codes key = some e) :
    ∃ cell, w.redis.otp key = some cell ∧ cell.value = (memoryOtp digest e).otp ∧
      seconds cell.expiresAt = e.expiresAt := by
  have entry := same.entries key
  rw [stored, Option.map_some] at entry
  obtain ⟨cell, there, holds⟩ := Option.map_eq_some_iff.mp entry
  exact ⟨cell, there, congrArg MemoryOtp.otp holds, congrArg MemoryOtp.expiresAt holds⟩

theorem InRedis.missing {key : OtpKey} (same : InRedis digest process w r) (absent : r.codes key = none) :
    w.redis.otp key = none := by
  have entry := same.entries key
  rw [absent, Option.map_none] at entry
  exact Option.map_eq_none_iff.mp entry

theorem InRedis.lookup_none (same : InRedis digest process w r) (here : c.process = process)
    (absent : live r.codes (seconds r.now) (c.key env) = none) : c.lookup env w true = none := by
  subst here
  have missing : w.redis.otp.get w.now (c.key env) = none := by
    cases stored : r.codes (c.key env) with
    | none => simp only [ExpiringMap.get, same.missing stored]
    | some e =>
      obtain ⟨cell, there, -, ends⟩ := same.found stored
      have late : ¬w.now ≤ cell.expiresAt := by
        intro in_time
        rw [← seconds_le_iff, same.now, ends] at in_time
        rw [live_eq_some.mpr ⟨stored, in_time⟩] at absent
        cases absent
      simp only [ExpiringMap.get, there, if_neg late]
  simp only [VerifyCall.lookup, if_true, missing, same.unused]

theorem InRedis.lookup_some (same : InRedis digest process w r)
    (found : live r.codes (seconds r.now) (c.key env) = some e) :
    c.lookup env w true = some ⟨(memoryOtp digest e).otp, none, e.wrong + 1⟩ := by
  obtain ⟨stored, in_time⟩ := live_eq_some.mp found
  obtain ⟨cell, there, holds, ends⟩ := same.found stored
  have got : w.redis.otp.get w.now (c.key env) = some (memoryOtp digest e).otp := by
    refine ExpiringMap.get_eq_some.mpr ⟨cell, there, ?_, holds⟩
    rwa [← seconds_le_iff, same.now, ends]
  simp only [VerifyCall.lookup, if_true, got]
  rfl

/-- A write to Redis under the key. -/
theorem InRedis.put {key : OtpKey} (same : InRedis digest process w r) (e : CodeStore.Entry String String ℚ)
    {cell : Cell StoredOtp} (holds : cell.value = (memoryOtp digest e).otp)
    (ends : seconds cell.expiresAt = e.expiresAt) :
    InRedis digest process (w.mapRedis fun s => { s with otp := s.otp.put key cell })
      { r with codes := Function.update r.codes key (some e) } := by
  refine ⟨same.now, fun other => ?_, same.unused⟩
  simp only [World.redisEntry, World.mapRedis_redis, ExpiringMap.put]
  by_cases here : other = key
  · subst here
    simp only [Function.update_self, Option.map_some, holds, ends]
    rfl
  · simp only [Function.update_of_ne here]
    exact same.entries other

/-- The entry is deleted from Redis, and from the memory that has none. -/
theorem InRedis.deleteEntry (env : Env) (same : InRedis digest process w r) (here : c.process = process) :
    InRedis digest process (c.deleteEntry env w true)
      { r with codes := Function.update r.codes (c.key env) none } := by
  subst here
  simp only [VerifyCall.deleteEntry, if_true]
  refine ⟨same.now, fun other => ?_, fun other => ?_⟩
  · simp only [World.redisEntry, World.mapMemory_redis, World.mapRedis_redis, ExpiringMap.del]
    by_cases here : other = c.key env
    · subst here
      simp only [Function.update_self, Option.map_none]
    · simp only [Function.update_of_ne here]
      exact same.entries other
  · simp only [World.mapMemory_memory, if_true]
    by_cases here : other = c.key env
    · rw [here, Function.update_self]
    · rw [Function.update_of_ne here]
      exact same.unused other

theorem InRedis.block (same : InRedis digest process w r) (phoneHash : String) (blocked : String → Option ℚ) :
    InRedis digest process (blockPhoneNumber w process phoneHash 3600 true) { r with blocked := blocked } := by
  have taken : w.redis.blockedPhones.setEx w.now phoneHash () 3600 =
      some (w.redis.blockedPhones.put phoneHash ⟨(), w.now + 1000 * 3600⟩) :=
    ExpiringMap.setEx_whole (n := 3600) (by decide)
  simp only [blockPhoneNumber, if_true, taken]
  exact ⟨same.now, same.entries, same.unused⟩

/-- The life that `TTL` reads. -/
theorem InRedis.ttl {key : OtpKey} (same : InRedis digest process w r) (stored : r.codes key = some e)
    {n : ℕ} (left : e.expiresAt = seconds r.now + n) : w.redis.otp.ttl w.now key = n := by
  obtain ⟨cell, there, -, ends⟩ := same.found stored
  have expires : cell.expiresAt = w.now + 1000 * n := by
    apply seconds_injective
    rw [ends, left, seconds_add, same.now]
  have rounded : (1000 * n + 500) / 1000 = n := by omega
  simp only [ExpiringMap.ttl, there, expires, Nat.le_add_right, if_true, Nat.add_sub_cancel_left, rounded]

/-- What the reference machine needs for `TTL` to give the life of a code as it is. -/
def Reference.LifeIsRead (coding : Coding env) (r : Reference) (c : VerifyCall) : Prop :=
  ∀ e, live r.codes (seconds r.now) (c.key env) = some e → coding.form c.submittedCode ≠ e.code →
    e.wrong + 1 < env.otpMaxVerifyAttempts → WholeSeconds (e.expiresAt - seconds r.now)

/-- With Redis, a `verifyOtp` call does what the reference machine does. -/
theorem InRedis.verify (same : InRedis coding.digest process w r) (here : c.process = process)
    (starts : c.pc = .lookup) (life : r.LifeIsRead coding c) :
    InRedis coding.digest process (c.run env true w).1 (r.perform env coding.form c.operation).1 ∧
      (c.run env true w).2.outcome.toList = (r.perform env coding.form c.operation).2 := by
  rcases submit_cases env.otpMaxVerifyAttempts r.codes (seconds r.now) (c.key env)
    (coding.form c.submittedCode) with
    ⟨absent, tried⟩ | ⟨e, found, ⟨right, tried⟩ | ⟨wrong, last, tried⟩ | ⟨wrong, early, tried⟩⟩
  -- no code that can be used
  · rw [Reference.perform_verify tried, VerifyCall.run_of_passes
      (VerifyCall.run_absent starts (same.lookup_none here absent)) (by decide) rfl]
    exact ⟨⟨same.now, same.entries, same.unused⟩, rfl⟩
  -- the right code
  · obtain ⟨db, accepts⟩ := VerifyCall.run_right starts (same.lookup_some found)
      ((verifyOtpCode_iff _).mpr right)
    rw [Reference.perform_verify tried, VerifyCall.run_of_passes accepts (by decide) rfl]
    refine ⟨(same.deleteEntry env here).mapDb db, ?_⟩
    simp only [VerifyCall.outcome, VerifyCall.result, Reference.reply, memoryOtp, same.now]
    rfl
  · have rejected := Bool.eq_false_iff.mpr (mt (verifyOtpCode_iff _).mp wrong)
    obtain ⟨db, refuses⟩ := VerifyCall.run_last starts (same.lookup_some found) rejected last
    rw [Reference.perform_verify tried, VerifyCall.run_of_passes refuses (by decide) rfl]
    have deleted := (same.block (c.phoneHash env)
      (Function.update r.blocked (c.phoneHash env) (some (seconds r.now + 3600)))).deleteEntry env (c := c) here
    subst here
    exact ⟨deleted.mapDb db, rfl⟩
  · have rejected := Bool.eq_false_iff.mpr (mt (verifyOtpCode_iff _).mp wrong)
    obtain ⟨positive, whole⟩ := (life e found wrong early).eq_natCast
    -- the entry is written with the end that it had
    have left : e.expiresAt = seconds r.now + ((e.expiresAt - seconds r.now).num.toNat : ℕ) := by
      rw [whole]
      ring
    obtain ⟨db, counts⟩ := VerifyCall.run_counting_redis starts (same.lookup_some found) rfl rejected early
      positive (same.ttl (live_eq_some.mp found).1 left)
    rw [Reference.perform_verify tried, VerifyCall.run_of_passes counts (by decide) rfl]
    refine ⟨(same.put { e with wrong := e.wrong + 1 } rfl ?_).mapDb db, rfl⟩
    rw [seconds_add, same.now, ← left]

theorem InRedis.perform (coding : Coding env) (same : InRedis coding.digest process w r) {op : OtpOperation}
    {m : World} (kept : InMemory coding.digest process m r) (life : LifeIsRead env process m op) :
    InRedis coding.digest process (op.perform env true process w).1 (r.perform env coding.form op).1 ∧
      (op.perform env true process w).2 = (r.perform env coding.form op).2 := by
  cases op with
  | tick d => exact ⟨⟨congrArg (· + d) same.now, same.entries, same.unused⟩, rfl⟩
  | store key otpCode requestId ttlSeconds =>
    obtain ⟨positive, whole⟩ := life.eq_natCast
    have taken : w.redis.otp.setEx w.now key (storedOtp env otpCode requestId) ttlSeconds =
        some (w.redis.otp.put key
          ⟨storedOtp env otpCode requestId, w.now + 1000 * ttlSeconds.num.toNat⟩) := if_pos life
    simp only [OtpOperation.perform, storeOtp, if_true, taken]
    refine ⟨same.put _ ?_ ?_, rfl⟩
    · simp only [storedOtp, memoryOtp, coding.digest_form]
    · rw [seconds_add, whole, same.now]
  | verify phoneNumber submittedCode applicationId ipAddress userAgent =>
    refine same.verify (c := ⟨phoneNumber, submittedCode, applicationId, ipAddress, userAgent, process, none,
      .lookup⟩) rfl rfl fun e found wrong early => ?_
    obtain ⟨stored, in_time⟩ := live_eq_some.mp found
    have entry : m.memoryEntry process (applicationId, hashPhoneNumber env phoneNumber) =
        some (memoryOtp coding.digest e) :=
      (kept.codes.entries _).trans (congrArg (Option.map (memoryOtp coding.digest)) stored)
    rw [← kept.now] at in_time ⊢
    exact life (memoryOtp coding.digest e) entry in_time
      (Bool.eq_false_iff.mpr (mt (verifyOtpCode_iff _).mp wrong)) early

end Calls

/-- As long as `TTL` gives the life of the codes as it is, a sequence of calls has the same answers with
Redis as without it. -/
theorem modes_agree (env : Env) (process : ℕ) (w : World) (ops : List OtpOperation)
    (fresh : ∀ key, w.redis.otp key = none ∧ (w.memory process).otp key = none)
    (lives : Meets (fun w op => OtpOperation.perform env false process w op) (LifeIsRead env process) w ops) :
    (serve (fun w op => OtpOperation.perform env true process w op) w ops).2 =
      (serve (fun w op => OtpOperation.perform env false process w op) w ops).2 := by
  have lockstep (a m : World) (op : OtpOperation)
      (same : ∃ r, InRedis (Coding.hashed env).digest process a r ∧
        InMemory (Coding.hashed env).digest process m r)
      (life : LifeIsRead env process m op) :
      (∃ r, InRedis (Coding.hashed env).digest process (op.perform env true process a).1 r ∧
          InMemory (Coding.hashed env).digest process (op.perform env false process m).1 r) ∧
        (op.perform env true process a).2 = (op.perform env false process m).2 := by
    -- both are in the state of one reference machine
    obtain ⟨r, redis, memory⟩ := same
    obtain ⟨redis', answer⟩ := redis.perform (.hashed env) memory life
    obtain ⟨memory', expected⟩ := memory.perform (.hashed env) op
    exact ⟨⟨_, redis', memory'⟩, answer.trans expected.symm⟩
  have start : InRedis (Coding.hashed env).digest process w (.start w process) :=
    ⟨rfl, fun key => by rw [World.redisEntry, (fresh key).1]; rfl, fun key => (fresh key).2⟩
  exact (serve_simulates lockstep ⟨_, start, .start fun key => (fresh key).2⟩ lives).2

/-- A wrong code a whole second after the code was stored, and then the right one. -/
theorem modes_agree_of_second :
    let submit (code : String) : OtpOperation := .verify "+4915112345678" code 1 none none
    let ops := [.store (1, "+4915112345678") "123456" "req_1" 60, .tick 1000, submit "000000", .tick 58500,
      submit "123456"]
    (serve (fun w op => OtpOperation.perform OtpPool.sampleEnv true 0 w op) (.empty 0) ops).2 =
      (serve (fun w op => OtpOperation.perform OtpPool.sampleEnv false 0 w op) (.empty 0) ops).2 :=
  modes_agree OtpPool.sampleEnv 0 (.empty 0) _ (fun _ => ⟨rfl, rfl⟩) (by decide +kernel)

/-- After a wrong code 0.3 seconds later, the code lives 0.3 seconds longer in Redis. -/
theorem modes_disagree_after_rounding :
    let submit (code : String) : OtpOperation := .verify "+4915112345678" code 1 none none
    let ops := [.store (1, "+4915112345678") "123456" "req_1" 60, .tick 300, submit "000000", .tick 59900,
      submit "123456"]
    (serve (fun w op => OtpOperation.perform OtpPool.sampleEnv true 0 w op) (.empty 0) ops).2 =
        [.error (invalidOtp 2),
          .ok ⟨"req_1", maskPhoneNumber "+4915112345678", 60200, "OTP verified successfully"⟩] ∧
      (serve (fun w op => OtpOperation.perform OtpPool.sampleEnv false 0 w op) (.empty 0) ops).2 =
        [.error (invalidOtp 2), .error otpExpired] := by
  decide +kernel

end SelfOtp
