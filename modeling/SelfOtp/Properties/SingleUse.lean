import SelfOtp.Properties.OtpPool

/-! A stored code is used at most once, for any number of concurrent `verifyOtp` calls. -/
namespace SelfOtp

/-- Codes accepted so far. -/
def acceptances : List JournalEntry → ℕ
  | [] => 0
  | .stored _ :: journal => acceptances journal
  | .accepted _ :: journal => acceptances journal + 1
  | .refused _ :: journal => acceptances journal

def VerifyPc.isVerified : VerifyPc → Bool
  | verified _ => true
  | _ => false

namespace OtpPool

open Pool Transition

variable {env : Env} {key : OtpKey} {p q : OtpPool} {l : OtpLabel}

/-- Calls that returned `verified: true`. -/
def verifiedCalls (p : OtpPool) : ℕ := total (OtpCall.count fun c => c.pc.isVerified) p.threads

def trueCalls (p : OtpPool) : ℕ := total (OtpCall.count fun c => c.isValid == some true) p.threads

/-- At most one call returned `verified: true`, and what a successful call deleted stays
deleted. -/
def SingleUse (env : Env) (key : OtpKey) (p : OtpPool) : Prop :=
  p.verifiedCalls ≤ 1 ∧ ∀ c, .verify c ∈ p.threads → c.isValid = some true →
    (c.phase env).undeleted = false → p.entry key = none

/-- A right code is compared while the record is still in Redis and no other call is about to
delete it; and a record that is written back has not been deleted for a right code. -/
def DeletesFirst (env : Env) (key : OtpKey) (p : OtpPool) (c : VerifyCall) : VerifyPc → Prop
  | .findRecord f => verifyOtpCode env c.submittedCode f.data.otpHash = true →
    (p.entry key).isSome ∧ p.inPhase env Phase.undeleted = 0
  | .writeBack .. => (p.entry key).isSome ∨ acceptances p.shared.journal = 0
  | .lookup | .incorrectAttempts .. | .incorrectVerification .. | .maxStatus .. | .maxBlock _
  | .maxDelete _ | .ttl _ | .delete .. | .verifiedStatus .. | .correctVerification ..
  | .verified _ | .rejected _ | .internalError => True

instance (c : VerifyCall) : DecidablePred (DeletesFirst env key p c)
  | .findRecord _ => inferInstanceAs (Decidable (_ → _ ∧ _))
  | .writeBack .. => inferInstanceAs (Decidable (_ ∨ _))
  | .lookup | .incorrectAttempts .. | .incorrectVerification .. | .maxStatus .. | .maxBlock _
  | .maxDelete _ | .ttl _ | .delete .. | .verifiedStatus .. | .correctVerification ..
  | .verified _ | .rejected _ | .internalError => isTrue trivial

def DeletionsFirst (env : Env) (key : OtpKey) (p : OtpPool) : OtpLabel → Prop
  | .resume i _ => ∀ c ∈ p.verifyAt i, DeletesFirst env key p c c.pc
  | .external _ => True

instance : DecidablePred (DeletionsFirst env key p)
  | .resume i _ => inferInstanceAs (Decidable (∀ c ∈ p.verifyAt i, DeletesFirst env key p c c.pc))
  | .external _ => isTrue trivial

structure UseInvariant (env : Env) (key : OtpKey) (p : OtpPool) : Prop where
  calls : ∀ t ∈ p.threads, ∃ c, t = .verify c ∧ c.key env = key ∧
    (c.phase env).Sound env c.isValid
  accounted : p.trueCalls = acceptances p.shared.journal
  once : acceptances p.shared.journal ≤ 1
  /-- With no deletion outstanding, a record in Redis has not been used. -/
  unused : p.inPhase env Phase.undeleted = 0 → (p.entry key).isSome →
    acceptances p.shared.journal = 0

theorem StoredOnce.useInvariant (start : StoredOnce key p) : UseInvariant env key p := by
  obtain ⟨idle, memory, data, journal, stored, unused⟩ := start
  have none_accepted : acceptances p.shared.journal = 0 := by
    rw [journal]
    rfl
  refine ⟨by simp [idle], ?_, none_accepted.le.trans (Nat.zero_le 1), fun _ _ => none_accepted⟩
  simp [trueCalls, idle, none_accepted]

theorem verified_isValid {c : VerifyCall} (sound : (c.phase env).Sound env c.isValid)
    (verified : c.pc.isVerified = true) : c.isValid = some true := by
  unfold VerifyCall.phase at sound
  cases pc : c.pc with
  | verified result =>
    rw [pc] at sound
    exact sound
  | _ => simp [pc, VerifyPc.isVerified] at verified

theorem undeleted_isValid {phase : Phase} {valid : Option Bool} (sound : phase.Sound env valid)
    (undeleted : phase.undeleted = true) : valid = some true := by
  cases phase with
  | consuming f => exact sound
  | idle | holding | counting | writing | discarding | consumed | done => cases undeleted

/-- The claim is read off the invariant. -/
theorem UseInvariant.singleUse (inv : UseInvariant env key p) : SingleUse env key p := by
  constructor
  · -- every call that returned had its code accepted
    have fewer : p.verifiedCalls ≤ p.trueCalls := by
      apply total_le_total
      intro t member
      obtain ⟨c, rfl, -, sound⟩ := inv.calls t member
      by_cases verified : c.pc.isVerified = true
      · simp [verified, verified_isValid sound verified]
      · simp [verified]
    have := inv.accounted
    have := inv.once
    omega
  · intro c member right deleted
    -- the call itself and every call about to delete the record had a code accepted
    have fewer : p.inPhase env Phase.undeleted < p.trueCalls := by
      apply total_lt_total
      · intro t member
        obtain ⟨d, rfl, -, sound⟩ := inv.calls t member
        by_cases outstanding : (d.phase env).undeleted = true
        · simp [outstanding, undeleted_isValid sound outstanding]
        · simp [outstanding]
      · exact ⟨.verify c, member, by simp [right, deleted]⟩
    have accounted := inv.accounted
    have once := inv.once
    rw [Option.eq_none_iff_forall_ne_some]
    intro data present
    have unused := inv.unused (by omega) (by rw [present]; rfl)
    omega

/-- What a step of a call has to establish. -/
theorem UseInvariant.moved {i : ℕ} {c c' : VerifyCall} {w' : World} {journal : List JournalEntry}
    (inv : UseInvariant env key p) (found : p.threads[i]? = some (.verify c))
    (of_key : c'.key env = key) (sound : (c'.phase env).Sound env c'.isValid)
    (accounted : acceptances journal + (if c.isValid == some true then 1 else 0) =
      acceptances p.shared.journal + (if c'.isValid == some true then 1 else 0))
    (once : acceptances journal ≤ 1)
    (unused : p.inPhase env Phase.undeleted + (if (c'.phase env).undeleted then 1 else 0) =
        (if (c.phase env).undeleted then 1 else 0) →
      (w'.redis.otp.get w'.now key).isSome → acceptances journal = 0) :
    UseInvariant env key ⟨⟨w', journal⟩, p.threads.set i (.verify c')⟩ := by
  refine ⟨fun t member => ?_, ?_, once, fun none_outstanding => unused ?_⟩
  · rcases List.mem_or_eq_of_mem_set member with old | rfl
    · exact inv.calls t old
    · exact ⟨c', rfl, of_key, sound⟩
  · have count := total_verify found (fun d => d.isValid == some true) c'
    have before := inv.accounted
    unfold trueCalls at before ⊢
    dsimp only
    omega
  · have count := total_verify found (fun d => (d.phase env).undeleted) c'
    have zero : total (OtpCall.count fun d => (d.phase env).undeleted)
      (p.threads.set i (.verify c')) = 0 := none_outstanding
    unfold inPhase
    omega

theorem UseInvariant.verify {i : ℕ} {ok : Bool} {c c' : VerifyCall} {w' : World}
    (inv : UseInvariant env key p) (found : p.threads[i]? = some (.verify c))
    (reachable : c.pc.awaitsRedis = true → ok = true) (first : DeletesFirst env key p c c.pc)
    (stepped : c.step env p.shared.world ok = some (w', c')) :
    UseInvariant env key ⟨⟨w', OtpCall.recorded c c' p.shared.journal⟩,
      p.threads.set i (.verify c')⟩ := by
  obtain ⟨_, ⟨rfl⟩, of_key, sound⟩ := inv.calls _ (List.mem_of_getElem? found)
  obtain ⟨move, same, now⟩ := VerifyCall.step_move stepped
  have sound' := move.sound sound
  have of_key' : c'.key env = key := same.key.trans of_key
  have quiet (unchanged : c'.isValid = c.isValid)
      (unused : p.inPhase env Phase.undeleted + (if (c'.phase env).undeleted then 1 else 0) =
          (if (c.phase env).undeleted then 1 else 0) →
        (w'.redis.otp.get w'.now key).isSome → acceptances p.shared.journal = 0) :
      UseInvariant env key ⟨⟨w', OtpCall.recorded c c' p.shared.journal⟩,
        p.threads.set i (.verify c')⟩ := by
    rw [recorded_same unchanged]
    exact inv.moved found of_key' sound' (by rw [unchanged]) inv.once unused
  generalize before : c.phase env = ph at *
  generalize after : c'.phase env = ph' at *
  generalize valid : c'.isValid = v at *
  generalize store : w'.redis.otp = otp at *
  have unmoved : p.shared.world.redis.otp.get w'.now key = p.entry key := by
    rw [now]
    rfl
  cases move with
  | fetch | fetchMemory | miss | stay | time | lapse | unwritten =>
    refine quiet rfl fun none_outstanding present => ?_
    exact inv.unused (by simpa [Phase.undeleted] using none_outstanding) (unmoved ▸ present)
  | accept f at_compare up right =>
    rw [at_compare] at first
    -- the code is accepted while the entry is there and no deletion is outstanding
    obtain ⟨present, none_outstanding⟩ := first right
    have fresh := inv.unused none_outstanding present
    rw [recorded_accepted sound.1 valid]
    refine inv.moved found of_key' (by rw [after, valid]; exact sound') ?_ ?_ ?_
    · simp [acceptances, sound.1, valid]
    · simp [acceptances, fresh]
    · -- its own deletion is outstanding from here on
      intro none_left
      simp [after, before, Phase.undeleted] at none_left
  | wrong f at_compare up wrong =>
    rw [recorded_refused sound.1 valid]
    refine inv.moved found of_key' (by rw [after, valid]; exact sound') ?_ inv.once ?_
    · simp [acceptances, sound.1, valid]
    · intro none_outstanding present
      rw [store, unmoved] at present
      rw [after, before, VerifyPc.afterWrong_undeleted] at none_outstanding
      exact inv.unused (by simpa [Phase.undeleted] using none_outstanding) present
  | crash _ down database =>
    refine quiet rfl fun none_outstanding present => ?_
    refine inv.unused ?_ (unmoved ▸ present)
    by_cases outstanding : ph.undeleted = true
    · rw [← before] at outstanding
      rw [VerifyPc.undeleted_awaitsRedis outstanding] at database
      cases database
    · rw [if_neg outstanding] at none_outstanding
      simpa [Phase.undeleted] using none_outstanding
  | write f ttl at_write up otp set =>
    refine quiet rfl fun none_outstanding _ => ?_
    rw [at_write] at first
    -- a write-back does not bring an accepted code back
    rcases first with present | none_accepted
    · exact inv.unused (by simpa [Phase.undeleted] using none_outstanding) present
    · exact none_accepted
  | discard f redis | consume f redis =>
    refine quiet rfl fun _ present => ?_
    rw [reachable redis, of_key, if_pos rfl, ExpiringMap.get_del_self] at present
    cases present

theorem UseInvariant.step (inv : UseInvariant env key p) (reachable : RedisReachable p l)
    (no_store : NoStore l) (first : DeletionsFirst env key p l)
    (taken : step (otpProgram env key) p l = some q) : UseInvariant env key q := by
  cases step_took taken with
  | tick d =>
    refine ⟨inv.calls, inv.accounted, inv.once, fun none_outstanding present => ?_⟩
    apply inv.unused none_outstanding
    obtain ⟨data, found⟩ := Option.isSome_iff_exists.mp present
    have earlier : p.entry key = some data := ExpiringMap.get_later found (Nat.le_add_right _ d)
    rw [earlier]
    rfl
  | startStore => cases no_store
  | startVerify phoneNumber submittedCode ipAddress userAgent process c of_key idle unknown caller =>
    refine ⟨fun t member => ?_, ?_, inv.once, fun none_outstanding => inv.unused ?_⟩
    · rcases List.mem_append.mp member with old | new
      · exact inv.calls t old
      · obtain rfl := List.mem_singleton.mp new
        refine ⟨c, rfl, of_key, ?_⟩
        rw [idle]
        exact unknown
    · simpa [trueCalls, unknown] using inv.accounted
    · simpa [inPhase, idle, Phase.undeleted] using none_outstanding
  | store i ok c found unfinished =>
    obtain ⟨_, ⟨⟩, -⟩ := inv.calls _ (List.mem_of_getElem? found)
  | verify i ok c c' w' found stepped =>
    have call : verifyAt p i = some c := by simp only [verifyAt, found]
    exact inv.verify found (reachable _ found) (first c call) stepped

/-- Single use holds in every state of a run in which deletions come first. -/
theorem singleUse_of_deletionsFirst {labels : List OtpLabel} (start : StoredOnce key p)
    (respects : Respects (Pool.step (otpProgram env key))
      (fun s l => RedisReachable s l ∧ NoStore l ∧ DeletionsFirst env key s l) p labels)
    (returned : run (Pool.step (otpProgram env key)) p labels = some q) : SingleUse env key q := by
  have inv := run_invariant_of_respects (UseInvariant env key)
    (fun s l t inv allowed taken => inv.step allowed.1 allowed.2.1 allowed.2.2 taken)
    start.useInvariant respects returned
  exact inv.singleUse

/-- A right code after a wrong one, and once more. -/
theorem singleUse_of_right_code_twice :
    ∃ q, run (Pool.step (otpProgram sampleEnv sampleKey)) samplePool
      [sampleVerify "111111", .resume 0 true, .resume 0 true, .resume 0 true, .resume 0 true,
        sampleVerify "123456", .resume 1 true, .resume 1 true, .resume 1 true,
        sampleVerify "123456", .resume 2 true] = some q ∧ SingleUse sampleEnv sampleKey q :=
  ⟨_, (Option.some_get (by decide +kernel)).symm,
    singleUse_of_deletionsFirst samplePool_storedOnce (by decide +kernel)
      (Option.some_get (by decide +kernel)).symm⟩

/-- Two calls read the record, and both find its code right. -/
theorem singleUse_violated_by_two_calls :
    ¬∀ (env : Env) (key : OtpKey) (p q : OtpPool) (labels : List OtpLabel),
      StoredOnce key p →
      Respects (Pool.step (otpProgram env key)) (fun s l => RedisReachable s l ∧ NoStore l)
        p labels →
      run (Pool.step (otpProgram env key)) p labels = some q → q.verifiedCalls ≤ 1 := by
  intro single
  have violated := single sampleEnv sampleKey samplePool _
    [sampleVerify "123456", sampleVerify "123456", .resume 0 true, .resume 1 true,
      .resume 0 true, .resume 1 true, .resume 0 true, .resume 1 true]
    samplePool_storedOnce (by decide +kernel) (Option.some_get (by decide +kernel)).symm
  revert violated
  decide +kernel

end OtpPool

end SelfOtp
