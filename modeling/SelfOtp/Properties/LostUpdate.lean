import SelfOtp.Properties.OtpPool

/-! The record in Redis is that of the latest `storeOtp` call, for any number of concurrent
`storeOtp` and `verifyOtp` calls. -/
namespace SelfOtp

/-- What the latest `storeOtp` call stored. -/
def latestStored : List JournalEntry → Option StoredOtp
  | [] => none
  | .stored data :: _ => some data
  | .accepted _ :: journal => latestStored journal
  | .refused _ :: journal => latestStored journal

/-- Every accepted code was that of the latest `storeOtp` call before it. -/
def AcceptsLatest (env : Env) : List JournalEntry → Prop
  | [] => True
  | .stored _ :: journal => AcceptsLatest env journal
  | .accepted code :: journal =>
    (∃ data ∈ latestStored journal, verifyOtpCode env code data.otpHash = true) ∧
      AcceptsLatest env journal
  | .refused _ :: journal => AcceptsLatest env journal

/-- Same code hash and same request id. -/
def SameOtp (data other : StoredOtp) : Prop :=
  data.otpHash = other.otpHash ∧ data.requestId = other.requestId

instance : DecidableRel SameOtp := fun _ _ => inferInstanceAs (Decidable (_ ∧ _))

def VerifyPc.isOver : VerifyPc → Bool
  | verified _ | rejected _ | internalError => true
  | _ => false

def OtpCall.isOver : OtpCall → Bool
  | store c => c.finished
  | verify c => c.pc.isOver

namespace OtpPool

open Pool Transition

variable {env : Env} {key : OtpKey} {p q : OtpPool} {l : OtpLabel}

/-- The entry, if any, is the one written by the last `storeOtp` call. -/
def EntryLatest (key : OtpKey) (p : OtpPool) : Prop :=
  ∀ data ∈ p.entry key, ∃ latest ∈ latestStored p.shared.journal, SameOtp data latest

instance : Decidable (EntryLatest key p) :=
  inferInstanceAs (Decidable (∀ data ∈ p.entry key, ∃ latest ∈ latestStored p.shared.journal,
    SameOtp data latest))

/-- `storeOtp` runs its `SET` with an expiry that Redis takes, and while no `verifyOtp` call
holds a record. -/
def SetsAlone (env : Env) (p : OtpPool) : OtpCall → Prop
  | .store c => 0 < c.ttlSeconds ∧ c.ttlSeconds.den = 1 ∧
    p.inPhase env (fun phase => phase.fetched.isSome) = 0
  | .verify _ => True

instance : DecidablePred (SetsAlone env p)
  | .store _ => inferInstanceAs (Decidable (_ ∧ _))
  | .verify _ => isTrue trivial

def StoresAlone (env : Env) (p : OtpPool) : OtpLabel → Prop
  | .resume i _ => ∀ t ∈ p.threads[i]?, SetsAlone env p t
  | .external _ => True

instance : DecidablePred (StoresAlone env p)
  | .resume i _ => inferInstanceAs (Decidable (∀ t ∈ p.threads[i]?, SetsAlone env p t))
  | .external _ => isTrue trivial

structure LatestInvariant (env : Env) (key : OtpKey) (p : OtpPool) : Prop where
  calls : ∀ c, .verify c ∈ p.threads → c.key env = key ∧
    (c.phase env).Sound env c.isValid ∧ (c.phase env).object = none ∧
    ∀ f ∈ (c.phase env).fetched, ∃ latest ∈ latestStored p.shared.journal, SameOtp f.data latest
  memory : p.memoryEmpty key
  entry : EntryLatest key p
  accepts : AcceptsLatest env p.shared.journal

theorem Fresh.latestInvariant (fresh : Fresh key p) : LatestInvariant env key p := by
  obtain ⟨idle, journal, redis, memory⟩ := fresh
  refine ⟨by simp [idle], memory, fun data found => ?_, ?_⟩
  · have absent : p.entry key = none := by simp [entry, ExpiringMap.get, redis]
    rw [absent] at found
    cases found
  · rw [journal]
    trivial

theorem LatestInvariant.verify {i : ℕ} {ok : Bool} {c c' : VerifyCall} {w' : World}
    (inv : LatestInvariant env key p) (found : p.threads[i]? = some (.verify c))
    (stepped : c.step env p.shared.world ok = some (w', c')) :
    LatestInvariant env key ⟨⟨w', OtpCall.recorded c c' p.shared.journal⟩,
      p.threads.set i (.verify c')⟩ := by
  obtain ⟨of_key, sound, copy, carried⟩ := inv.calls c (List.mem_of_getElem? found)
  obtain ⟨move, same, now⟩ := VerifyCall.step_move stepped
  have nothing : (p.shared.world.memory c.process).otp (c.key env) = none := by
    rw [of_key]
    exact inv.memory c.process
  have sound' := move.sound sound
  have copy' := move.object_none nothing copy
  have memory' : memoryEmpty key ⟨⟨w', OtpCall.recorded c c' p.shared.journal⟩,
      p.threads.set i (.verify c')⟩ := memoryEmpty_verify inv.memory stepped
  -- comparisons do not change what was stored last
  have latest : latestStored (OtpCall.recorded c c' p.shared.journal) =
      latestStored p.shared.journal := by
    unfold OtpCall.recorded
    split <;> rfl
  suffices known : (∀ f ∈ (c'.phase env).fetched,
        ∃ latest ∈ latestStored p.shared.journal, SameOtp f.data latest) ∧
      (∀ data ∈ w'.redis.otp.get w'.now key,
        ∃ latest ∈ latestStored p.shared.journal, SameOtp data latest) ∧
      AcceptsLatest env (OtpCall.recorded c c' p.shared.journal) by
    obtain ⟨carried', entry', accepts'⟩ := known
    refine ⟨fun d member => ?_, memory', fun data found => ?_, accepts'⟩
    · simp only [latest]
      rcases List.mem_or_eq_of_mem_set member with old | new
      · exact inv.calls d old
      · cases new
        exact ⟨same.key.trans of_key, sound', copy', carried'⟩
    · simp only [latest]
      exact entry' data found
  have unmoved : p.shared.world.redis.otp.get w'.now key = p.entry key := by
    rw [now]
    rfl
  have quiet (unchanged : c'.isValid = c.isValid) :
      AcceptsLatest env (OtpCall.recorded c c' p.shared.journal) := by
    rw [recorded_same unchanged]
    exact inv.accepts
  generalize before : c.phase env = ph at *
  generalize after : c'.phase env = ph' at *
  generalize valid : c'.isValid = v at *
  generalize store : w'.redis.otp = otp at *
  cases move with
  | fetch f object up stored next =>
    rw [of_key] at stored
    refine ⟨fun g held => ?_, unmoved ▸ inv.entry, quiet rfl⟩
    obtain rfl : f = g := Option.some.inj held
    exact inv.entry _ stored
  | fetchMemory f object ref missed stored live data next =>
    rw [nothing] at stored
    cases stored
  | stay | time => exact ⟨carried, unmoved ▸ inv.entry, quiet rfl⟩
  | accept f at_compare up right =>
    refine ⟨by simp [Phase.fetched], unmoved ▸ inv.entry, ?_⟩
    obtain ⟨latest, stored, hash, request⟩ := carried f rfl
    rw [recorded_accepted sound.1 valid]
    exact ⟨⟨latest, stored, hash ▸ right⟩, inv.accepts⟩
  | wrong f at_compare up wrong =>
    refine ⟨fun g held => ?_, unmoved ▸ inv.entry, ?_⟩
    · unfold VerifyPc.afterWrong at held
      split at held
      · cases held
      · cases held
        -- counting the attempt changes neither hash nor request id
        exact carried f rfl
    · rw [recorded_refused sound.1 valid]
      exact inv.accepts
  | miss | crash | lapse | unwritten =>
    exact ⟨by simp [Phase.fetched], unmoved ▸ inv.entry, quiet rfl⟩
  | write f ttl at_write up otp set =>
    refine ⟨by simp [Phase.fetched], fun data stored => ?_, quiet rfl⟩
    obtain ⟨-, -, rfl⟩ := ExpiringMap.setEx_eq_some set
    have private_copy : c.storedData p.shared.world f = f.data := by
      have no_object : f.object = none := copy
      simp only [VerifyCall.storedData, no_object]
    rw [of_key, ExpiringMap.get_put_self, private_copy] at stored
    split at stored
    · cases stored
      exact carried f rfl
    · cases stored
  | discard f redis | consume f redis =>
    refine ⟨by simp [Phase.fetched], fun data stored => ?_, quiet rfl⟩
    rw [of_key] at stored
    split at stored
    · rw [ExpiringMap.get_del_self] at stored
      cases stored
    · rw [unmoved] at stored
      exact inv.entry data stored

theorem LatestInvariant.store {i : ℕ} {c : StoreCall} (inv : LatestInvariant env key p)
    (positive : 0 < c.ttlSeconds) (whole : c.ttlSeconds.den = 1)
    (alone : p.inPhase env (fun phase => phase.fetched.isSome) = 0) :
    LatestInvariant env key
      ⟨⟨storeOtp p.shared.world c.process key (storedOtp env c.otpCode c.requestId) c.ttlSeconds
          true, .stored (storedOtp env c.otpCode c.requestId) :: p.shared.journal⟩,
        p.threads.set i (.store { c with finished := true })⟩ := by
  rw [storeOtp_set rfl positive whole]
  refine ⟨fun d member => ?_, inv.memory, fun data stored => ?_, inv.accepts⟩
  · rcases List.mem_or_eq_of_mem_set member with old | new
    · obtain ⟨of_key, sound, copy, carried⟩ := inv.calls d old
      refine ⟨of_key, sound, copy, fun f held => ?_⟩
      -- no call holds an older record when a new one is stored
      have holds_nothing := total_eq_zero.mp alone _ old
      rw [Option.mem_def] at held
      simp [held] at holds_nothing
    · cases new
  · refine ⟨storedOtp env c.otpCode c.requestId, rfl, ?_⟩
    simp only [OtpPool.entry, World.mapRedis_redis, World.mapRedis_now, ExpiringMap.get_put_self,
      Option.mem_def] at stored
    split at stored
    · cases stored
      exact ⟨rfl, rfl⟩
    · cases stored

theorem LatestInvariant.step (inv : LatestInvariant env key p) (reachable : RedisReachable p l)
    (alone : StoresAlone env p l) (taken : step (otpProgram env key) p l = some q) :
    LatestInvariant env key q := by
  cases step_took taken with
  | tick d =>
    refine ⟨inv.calls, inv.memory, fun data stored => ?_, inv.accepts⟩
    exact inv.entry data (ExpiringMap.get_later stored (Nat.le_add_right _ d))
  | startStore =>
    refine ⟨fun d member => ?_, inv.memory, inv.entry, inv.accepts⟩
    rcases List.mem_append.mp member with old | new
    · exact inv.calls d old
    · cases List.mem_singleton.mp new
  | startVerify phoneNumber submittedCode ipAddress userAgent process c of_key idle unknown caller =>
    refine ⟨fun d member => ?_, inv.memory, inv.entry, inv.accepts⟩
    rcases List.mem_append.mp member with old | new
    · exact inv.calls d old
    · cases List.mem_singleton.mp new
      rw [idle]
      exact ⟨of_key, unknown, rfl, by simp [Phase.fetched]⟩
  | store i ok c found unfinished =>
    obtain ⟨positive, whole, no_reader⟩ := alone _ found
    obtain rfl : ok = true := reachable _ found rfl
    exact inv.store positive whole no_reader
  | verify i ok c c' w' found stepped => exact inv.verify found stepped

/-- No update is lost in a run in which `storeOtp` never overtakes a call that holds a record. -/
theorem latest_of_storesAlone {labels : List OtpLabel} (fresh : Fresh key p)
    (respects : Respects (Pool.step (otpProgram env key))
      (fun s l => RedisReachable s l ∧ StoresAlone env s l) p labels)
    (returned : run (Pool.step (otpProgram env key)) p labels = some q) :
    EntryLatest key q ∧ AcceptsLatest env q.shared.journal := by
  have inv := run_invariant_of_respects (LatestInvariant env key)
    (fun s l t inv allowed taken => inv.step allowed.1 allowed.2 taken)
    fresh.latestInvariant respects returned
  exact ⟨inv.entry, inv.accepts⟩

section Sample

def freshPool : OtpPool := ⟨⟨.empty 0, []⟩, []⟩

theorem freshPool_fresh : Fresh sampleKey freshPool := ⟨rfl, rfl, rfl, fun _ => rfl⟩

def sampleStore (otpCode requestId : String) : OtpLabel :=
  .external (.store otpCode requestId 300 0)

end Sample

/-- A wrong code, a new code, and the new code verified. -/
theorem latest_of_resend :
    ∃ q, run (Pool.step (otpProgram sampleEnv sampleKey)) freshPool
      [sampleStore "123456" "req_1", .resume 0 true,
        sampleVerify "111111", .resume 1 true, .resume 1 true, .resume 1 true, .resume 1 true,
        sampleStore "654321" "req_1", .resume 2 true,
        sampleVerify "654321", .resume 3 true, .resume 3 true, .resume 3 true] = some q ∧
      EntryLatest sampleKey q ∧ AcceptsLatest sampleEnv q.shared.journal :=
  ⟨_, (Option.some_get (by decide +kernel)).symm,
    latest_of_storesAlone freshPool_fresh (by decide +kernel)
      (Option.some_get (by decide +kernel)).symm⟩

/-- A wrong code is written back after the new code was stored: the entry is the old one. -/
theorem new_code_lost :
    ¬∀ (env : Env) (key : OtpKey) (p q : OtpPool) (labels : List OtpLabel),
      Fresh key p → Respects (Pool.step (otpProgram env key)) RedisReachable p labels →
      run (Pool.step (otpProgram env key)) p labels = some q →
      (∀ t ∈ q.threads, t.isOver = true) → EntryLatest key q := by
  intro kept
  have latest := kept sampleEnv sampleKey freshPool _
    [sampleStore "123456" "req_1", .resume 0 true,
      sampleVerify "111111", .resume 1 true, .resume 1 true, .resume 1 true,
      sampleStore "654321" "req_1", .resume 2 true, .resume 1 true]
    freshPool_fresh (by decide +kernel) (Option.some_get (by decide +kernel)).symm
    (by decide +kernel)
  revert latest
  decide +kernel

end OtpPool

end SelfOtp
