import SelfOtp.Lib.Machine
import SelfOtp.Properties.VerifyMoves

/-! `storeOtp` and `verifyOtp` calls one after the other, while the database answers and Redis either
always answers or never. -/
namespace SelfOtp

open Transition

/-! ### A call from its start to its end -/

namespace VerifyCall

/-- The next awaited call: the database answers, and Redis if `redis` says so. -/
def answered (env : Env) (redis : Bool) : World × VerifyCall → Option (World × VerifyCall)
  | (w, c) => c.step env w (redis || !c.pc.awaitsRedis)

/-- What the call returns or throws. -/
def outcome (c : VerifyCall) : Option (Except AppError VerifyResult) :=
  match c.pc with
  | .verified result => some (.ok result)
  | .rejected error => some (.error error)
  | _ => none

section Run

variable {env : Env} {redis : Bool} {w : World} {c : VerifyCall} {f : Fetched}

theorem deleteEntry_mapDb (db : Database) (ok : Bool) :
    c.deleteEntry env (w.mapDb fun _ => db) ok = (c.deleteEntry env w ok).mapDb fun _ => db := by
  cases ok <;> rfl

theorem blockPhoneNumber_mapDb (db : Database) (process : ℕ) (phoneHash : String) (seconds : ℚ) (ok : Bool) :
    blockPhoneNumber (w.mapDb fun _ => db) process phoneHash seconds ok =
      (blockPhoneNumber w process phoneHash seconds ok).mapDb fun _ => db := by
  unfold blockPhoneNumber
  have same : (w.mapDb fun _ => db).redis.blockedPhones.setEx (w.mapDb fun _ => db).now phoneHash () seconds =
    w.redis.blockedPhones.setEx w.now phoneHash () seconds := rfl
  rw [same]
  split <;> rfl

theorem answered_database (database : c.pc.awaitsRedis = false) :
    answered env redis (w, c) = c.step env w true := by
  simp only [answered, database, Bool.not_false, Bool.or_true]

theorem answered_redis (asks_redis : c.pc.awaitsRedis = true) :
    answered env redis (w, c) = c.step env w redis := by
  simp only [answered, asks_redis, Bool.not_true, Bool.or_false]

theorem answered_lookup (starts : c.pc = .lookup) (found : c.lookup env w redis = some f) :
    answered env redis (w, c) = some (w, c.goto (.findRecord f)) := by
  rw [answered_redis (by rw [starts]; rfl)]
  simp only [step, starts, found]

theorem run_absent (starts : c.pc = .lookup) (absent : c.lookup env w redis = none) :
    Passes (answered env redis) 1 (w, c) (w, c.goto (.rejected otpExpired)) := by
  refine .step ?_ .here
  rw [answered_redis (by rw [starts]; rfl)]
  simp only [step, starts, absent]

/-- The right code: the entry is deleted, and then the database is told. -/
theorem run_right (starts : c.pc = .lookup) (found : c.lookup env w redis = some f)
    (right : verifyOtpCode env c.submittedCode f.data.otpHash = true) :
    ∃ db, Passes (answered env redis) 5 (w, c) ((c.deleteEntry env w redis).mapDb fun _ => db,
      { c with isValid := some true, pc := .verified (c.result f w.now) }) := by
  have fetched := answered_lookup starts found
  have compared : answered env redis (w, c.goto (.findRecord f)) = some (w, { c with
      isValid := some true
      pc := .delete f ((w.db.findOtpRequest f.data.requestId c.applicationId).map (·.id)) }) := by
    rw [answered_database rfl]
    simp only [step, goto, if_true, right]
  cases recorded : (w.db.findOtpRequest f.data.requestId c.applicationId).map (·.id) with
  -- a code without a row: the database is not told
  | none =>
    rw [recorded] at compared
    exact ⟨(c.deleteEntry env w redis).db, (Passes.step fetched (.step compared
      (.step ((answered_redis rfl).trans (by cases redis <;> rfl)) .here))).mono (by decide)⟩
  | some id =>
    rw [recorded] at compared
    have deleted : answered env redis (w, { c with isValid := some true, pc := .delete f (some id) }) =
        some (c.deleteEntry env w redis, { c with isValid := some true, pc := .verifiedStatus f id w.now }) := by
      rw [answered_redis rfl]
      cases redis <;> rfl
    exact ⟨_, .step fetched (.step compared (.step deleted
      (.step ((answered_database rfl).trans rfl) (.step ((answered_database rfl).trans rfl) .here))))⟩

/-- A wrong code is counted, and the database is told. -/
theorem run_wrong (starts : c.pc = .lookup) (found : c.lookup env w redis = some f)
    (wrong : verifyOtpCode env c.submittedCode f.data.otpHash = false) :
    ∃ db record, Passes (answered env redis) 4 (w, c) ((c.mutate w f).mapDb fun _ => db,
      { c with isValid := some false, pc := afterIncorrect env (counted f) record }) := by
  have fetched := answered_lookup starts found
  cases recorded : (w.db.findOtpRequest f.data.requestId c.applicationId).map (·.id) with
  | none =>
    have compared : answered env redis (w, c.goto (.findRecord f)) = some (c.mutate w f,
        { c with isValid := some false, pc := afterIncorrect env (counted f) none }) := by
      rw [answered_database rfl]
      simp only [step, goto, if_true, wrong, recorded, Bool.false_eq_true, if_false]
      rfl
    exact ⟨(c.mutate w f).db, none, (Passes.step fetched (.step compared .here)).mono (by decide)⟩
  | some id =>
    have compared : answered env redis (w, c.goto (.findRecord f)) = some (c.mutate w f,
        { c with isValid := some false, pc := .incorrectAttempts (counted f) id }) := by
      rw [answered_database rfl]
      simp only [step, goto, if_true, wrong, recorded, Bool.false_eq_true, if_false]
      rfl
    exact ⟨_, some id, .step fetched (.step compared
      (.step ((answered_database rfl).trans rfl) (.step ((answered_database rfl).trans rfl) .here)))⟩

/-- The last wrong code: the phone number is blocked, and the entry deleted. -/
theorem run_last (starts : c.pc = .lookup) (found : c.lookup env w redis = some f)
    (wrong : verifyOtpCode env c.submittedCode f.data.otpHash = false)
    (last : env.otpMaxVerifyAttempts ≤ f.attempts) :
    ∃ db, Passes (answered env redis) 7 (w, c)
      ((c.deleteEntry env (blockPhoneNumber (c.mutate w f) c.process (c.phoneHash env) 3600 redis) redis).mapDb
        fun _ => db, { c with isValid := some false, pc := .rejected maxAttemptsExceeded }) := by
  obtain ⟨db, record, counts⟩ := run_wrong starts found wrong
  have blocks (db : Database) : Passes (answered env redis) 2
      ((c.mutate w f).mapDb fun _ => db, { c with isValid := some false, pc := .maxBlock (counted f) })
      ((c.deleteEntry env (blockPhoneNumber (c.mutate w f) c.process (c.phoneHash env) 3600 redis) redis).mapDb
        fun _ => db, { c with isValid := some false, pc := .rejected maxAttemptsExceeded }) := by
    rw [← deleteEntry_mapDb, ← blockPhoneNumber_mapDb]
    exact .step ((answered_redis rfl).trans rfl) (.step ((answered_redis rfl).trans rfl) .here)
  cases record with
  | none =>
    have next : afterIncorrect env (counted f) none = .maxBlock (counted f) := by
      simp [afterIncorrect, counted, last]
    rw [next] at counts
    exact ⟨db, (counts.trans (blocks db)).mono (by decide)⟩
  | some id =>
    have next : afterIncorrect env (counted f) (some id) = .maxStatus (counted f) id := by
      simp [afterIncorrect, counted, last]
    rw [next] at counts
    exact ⟨_, counts.trans (.step ((answered_database rfl).trans rfl) (blocks _))⟩

/-- A wrong code that is not the last: without Redis that is all. -/
theorem run_counting_memory (starts : c.pc = .lookup) (found : c.lookup env w false = some f)
    (wrong : verifyOtpCode env c.submittedCode f.data.otpHash = false)
    (early : f.attempts < env.otpMaxVerifyAttempts) :
    ∃ db, Passes (answered env false) 5 (w, c) ((c.mutate w f).mapDb fun _ => db,
      { c with
        isValid := some false
        pc := .rejected (invalidOtp (env.otpMaxVerifyAttempts - f.attempts)) }) := by
  obtain ⟨db, record, counts⟩ := run_wrong starts found wrong
  have next : afterIncorrect env (counted f) record = .ttl (counted f) := by
    simp [afterIncorrect, counted, Nat.not_le.mpr early]
  rw [next] at counts
  exact ⟨db, counts.trans (.step rfl .here)⟩

/-- With Redis the entry is written again with the life that is left of it, in whole seconds. -/
theorem run_counting_redis (starts : c.pc = .lookup) (found : c.lookup env w true = some f)
    (copied : f.object = none) (wrong : verifyOtpCode env c.submittedCode f.data.otpHash = false)
    (early : f.attempts < env.otpMaxVerifyAttempts) {n : ℕ} (positive : 0 < n)
    (lasts : w.redis.otp.ttl w.now (c.key env) = n) :
    ∃ db, Passes (answered env true) 6 (w, c) ((w.mapRedis fun r => { r with
        otp := r.otp.put (c.key env) ⟨{ f.data with attempts := f.attempts }, w.now + 1000 * n⟩ }).mapDb
          fun _ => db,
      { c with
        isValid := some false
        pc := .rejected (invalidOtp (env.otpMaxVerifyAttempts - f.attempts)) }) := by
  obtain ⟨db, record, counts⟩ := run_wrong starts found wrong
  have next : afterIncorrect env (counted f) record = .ttl (counted f) := by
    simp [afterIncorrect, counted, Nat.not_le.mpr early]
  -- what Redis gave is a copy: counting it up changes no store
  have kept : c.mutate w f = w := by simp [mutate, copied]
  rw [next, kept] at counts
  have read : answered env true (w.mapDb fun _ => db, { c with isValid := some false, pc := .ttl (counted f) }) =
      some (w.mapDb fun _ => db, { c with isValid := some false, pc := .writeBack (counted f) n }) := by
    have lasts : (w.mapDb fun _ => db).redis.otp.ttl (w.mapDb fun _ => db).now
      (key env { c with isValid := some false, pc := .ttl (counted f) }) = n := lasts
    rw [answered_redis rfl]
    simp only [step, lasts, Nat.cast_pos, positive, decide_true, Bool.and_self, if_true]
    rfl
  have written : answered env true (w.mapDb fun _ => db,
      { c with isValid := some false, pc := .writeBack (counted f) n }) =
      some ((w.mapRedis fun r => { r with
        otp := r.otp.put (c.key env) ⟨{ f.data with attempts := f.attempts }, w.now + 1000 * n⟩ }).mapDb
          fun _ => db,
        { c with
          isValid := some false
          pc := .rejected (invalidOtp (env.otpMaxVerifyAttempts - f.attempts)) }) := by
    have taken : (w.mapDb fun _ => db).redis.otp.setEx (w.mapDb fun _ => db).now
        (key env { c with isValid := some false, pc := .writeBack (counted f) n }) (counted f).data
          ((n : ℤ) : ℚ) =
        some (w.redis.otp.put (c.key env) ⟨{ f.data with attempts := f.attempts }, w.now + 1000 * n⟩) := by
      rw [ExpiringMap.setEx_whole (Nat.cast_pos.mpr positive)]
      rfl
    have own_copy : storedData { c with isValid := some false, pc := .writeBack (counted f) n }
        (w.mapDb fun _ => db) (counted f) = (counted f).data := by
      simp [storedData, counted, copied]
    rw [answered_redis rfl]
    simp only [step, if_true, own_copy, taken]
    rfl
  exact ⟨db, counts.trans (.step read (.step written .here))⟩

end Run

/-- `verifyOtp`, from its call to its end. -/
def run (env : Env) (redis : Bool) (w : World) (c : VerifyCall) : World × VerifyCall :=
  follow (answered env redis) 7 (w, c)

theorem run_of_passes {env : Env} {redis : Bool} {w next : World} {c c' : VerifyCall} {n : ℕ}
    (passes : Passes (answered env redis) n (w, c) (next, c')) (le : n ≤ 7) (ended : c'.outcome.isSome = true) :
    run env redis w c = (next, c') := by
  refine (passes.mono le).stopped ?_
  unfold outcome at ended
  cases pc : c'.pc <;> simp [pc] at ended <;> simp [answered, step, pc]

end VerifyCall

/-! ### Sequences of calls -/

inductive OtpOperation where
  | tick (d : Millis)
  | store (key : OtpKey) (otpCode requestId : String) (ttlSeconds : ℚ)
  | verify (phoneNumber submittedCode : String) (applicationId : Id) (ipAddress userAgent : Option String)

def VerifyCall.operation (c : VerifyCall) : OtpOperation :=
  .verify c.phoneNumber c.submittedCode c.applicationId c.ipAddress c.userAgent

/-- The operation, made in the process; what a `verifyOtp` call returns or throws is its answer. -/
def OtpOperation.perform (env : Env) (redis : Bool) (process : ℕ) (w : World) :
    OtpOperation → World × List (Except AppError VerifyResult)
  | tick d => (w.tick d, [])
  | store key otpCode requestId ttlSeconds =>
    (storeOtp w process key (storedOtp env otpCode requestId) ttlSeconds redis, [])
  | verify phoneNumber submittedCode applicationId ipAddress userAgent =>
    let ended := VerifyCall.run env redis w
      ⟨phoneNumber, submittedCode, applicationId, ipAddress, userAgent, process, none, .lookup⟩
    (ended.1, ended.2.outcome.toList)

end SelfOtp
