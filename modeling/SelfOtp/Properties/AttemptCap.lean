import SelfOtp.Properties.OtpPool

/-! The cap on verification attempts, for any number of concurrent `verifyOtp` calls. -/
namespace SelfOtp

/-- Wrong codes compared so far. -/
def wrongCodes : List JournalEntry → ℕ
  | [] => 0
  | .stored _ :: journal => wrongCodes journal
  | .accepted _ :: journal => wrongCodes journal
  | .refused _ :: journal => wrongCodes journal + 1

/-- Every comparison was made before the allowed number of wrong codes was reached. -/
def AttemptCap (max : ℕ) : List JournalEntry → Prop
  | [] => True
  | .stored _ :: journal => AttemptCap max journal
  | .accepted _ :: journal => wrongCodes journal < max ∧ AttemptCap max journal
  | .refused _ :: journal => wrongCodes journal < max ∧ AttemptCap max journal

instance decidableAttemptCap (max : ℕ) : DecidablePred (AttemptCap max)
  | [] => isTrue trivial
  | .stored _ :: journal => decidableAttemptCap max journal
  | .accepted _ :: journal | .refused _ :: journal =>
    have := decidableAttemptCap max journal
    inferInstanceAs (Decidable (_ ∧ _))

namespace OtpPool

open Pool Transition

variable {env : Env} {key : OtpKey} {p q : OtpPool} {l : OtpLabel}

/-- A comparison is made on the current entry while every wrong code compared before is
counted in the store; a wrong code that is compared does get counted. -/
def FreshAt (env : Env) (key : OtpKey) (p : OtpPool) (ok : Bool) : VerifyPc → Prop
  | .findRecord f => ok = true → p.entry key = some f.data ∧ p.inPhase env Phase.uncounted = 0
  | .incorrectAttempts .. | .incorrectVerification .. | .maxStatus .. => ok = true
  | .ttl _ => p.entry key = none ∨ 0 < p.shared.world.redis.otp.ttl p.shared.world.now key
  | .lookup | .maxBlock _ | .maxDelete _ | .writeBack .. | .delete .. | .verifiedStatus ..
  | .correctVerification .. | .verified _ | .rejected _ | .internalError => True

instance (ok : Bool) : DecidablePred (FreshAt env key p ok)
  | .findRecord _ => inferInstanceAs (Decidable (_ → _ ∧ _))
  | .incorrectAttempts .. | .incorrectVerification .. | .maxStatus .. =>
    inferInstanceAs (Decidable (_ = _))
  | .ttl _ => inferInstanceAs (Decidable (_ ∨ _))
  | .lookup | .maxBlock _ | .maxDelete _ | .writeBack .. | .delete .. | .verifiedStatus ..
  | .correctVerification .. | .verified _ | .rejected _ | .internalError => isTrue trivial

def ComparesFresh (env : Env) (key : OtpKey) (p : OtpPool) : OtpLabel → Prop
  | .resume i ok => ∀ c ∈ p.verifyAt i, FreshAt env key p ok c.pc
  | .external _ => True

instance : DecidablePred (ComparesFresh env key p)
  | .resume i ok => inferInstanceAs (Decidable (∀ c ∈ p.verifyAt i, FreshAt env key p ok c.pc))
  | .external _ => isTrue trivial

/-- Between a wrong comparison and the next Redis command no database call may fail. -/
theorem FreshAt.crash {ok : Bool} {pc : VerifyPc} (fresh : FreshAt env key p ok pc)
    (down : ok = false) (database : pc.awaitsRedis = false) :
    (pc.phase env).uncounted = false := by
  cases pc with
  | incorrectAttempts | incorrectVerification | maxStatus =>
    rw [show ok = true from fresh] at down
    cases down
  | maxBlock | maxDelete | ttl | writeBack => cases database
  | lookup | findRecord | delete | verifiedStatus | correctVerification | verified | rejected
  | internalError => rfl

/-- A call that is about to write its count back knows how many wrong codes there were. -/
def Owes (wrong : ℕ) : Phase → Prop
  | .counting f | .writing f _ => f.attempts = wrong
  | .idle | .holding _ | .discarding _ | .consuming _ | .consumed | .done => True

theorem Owes.of_counted {wrong : ℕ} {phase : Phase} (counted : phase.uncounted = false) :
    Owes wrong phase := by
  cases phase with
  | counting | writing => cases counted
  | idle | holding | discarding | consuming | consumed | done => trivial

structure CapInvariant (env : Env) (key : OtpKey) (p : OtpPool) : Prop where
  calls : ∀ t ∈ p.threads, ∃ c, t = .verify c ∧ c.key env = key ∧
    (c.phase env).Sound env c.isValid ∧ (c.phase env).object = none ∧
    Owes (wrongCodes p.shared.journal) (c.phase env)
  memory : p.memoryEmpty key
  /-- With nothing uncounted, the entry counts the wrong codes. -/
  settled : p.inPhase env Phase.uncounted = 0 → ∀ data, p.entry key = some data →
    data.attempts = wrongCodes p.shared.journal ∧ data.attempts < env.otpMaxVerifyAttempts
  cap : AttemptCap env.otpMaxVerifyAttempts p.shared.journal

theorem StoredOnce.capInvariant (start : StoredOnce key p)
    (positive : 0 < env.otpMaxVerifyAttempts) : CapInvariant env key p := by
  obtain ⟨idle, memory, data, journal, stored, unused⟩ := start
  refine ⟨by simp [idle], memory, fun _ other found => ?_, ?_⟩
  · rw [stored] at found
    cases found
    rw [journal, unused]
    exact ⟨rfl, positive⟩
  · rw [journal]
    trivial

/-- What a step of a call has to establish: for the call itself, for what the others know
of the count, and for the entry. -/
theorem CapInvariant.moved {i : ℕ} {c c' : VerifyCall} {w' : World} {journal : List JournalEntry}
    (inv : CapInvariant env key p) (found : p.threads[i]? = some (.verify c))
    (of_key : c'.key env = key) (sound : (c'.phase env).Sound env c'.isValid)
    (copy : (c'.phase env).object = none) (owes : Owes (wrongCodes journal) (c'.phase env))
    (others : wrongCodes journal = wrongCodes p.shared.journal ∨
      p.inPhase env Phase.uncounted = 0)
    (memory : memoryEmpty key ⟨⟨w', journal⟩, p.threads.set i (.verify c')⟩)
    (cap : AttemptCap env.otpMaxVerifyAttempts journal)
    (settled : p.inPhase env Phase.uncounted + (if (c'.phase env).uncounted then 1 else 0) =
        (if (c.phase env).uncounted then 1 else 0) →
      ∀ data, w'.redis.otp.get w'.now key = some data →
        data.attempts = wrongCodes journal ∧ data.attempts < env.otpMaxVerifyAttempts) :
    CapInvariant env key ⟨⟨w', journal⟩, p.threads.set i (.verify c')⟩ := by
  refine ⟨fun t member => ?_, memory, fun none_uncounted => settled ?_, cap⟩
  · rcases List.mem_or_eq_of_mem_set member with old | rfl
    · obtain ⟨d, rfl, of_key, sound, copy, owes⟩ := inv.calls t old
      refine ⟨d, rfl, of_key, sound, copy, ?_⟩
      rcases others with same | none_uncounted
      · rw [same]
        exact owes
      · apply Owes.of_counted
        have zero := total_eq_zero.mp none_uncounted _ old
        simpa using zero
    · exact ⟨c', rfl, of_key, sound, copy, owes⟩
  · have count := total_verify found (fun d => (d.phase env).uncounted) c'
    have zero : total (OtpCall.count fun d => (d.phase env).uncounted)
      (p.threads.set i (.verify c')) = 0 := none_uncounted
    unfold inPhase
    omega

/-- A step of a `verifyOtp` call. -/
theorem CapInvariant.verify {i : ℕ} {ok : Bool} {c c' : VerifyCall} {w' : World}
    (inv : CapInvariant env key p) (found : p.threads[i]? = some (.verify c))
    (reachable : c.pc.awaitsRedis = true → ok = true) (fresh : FreshAt env key p ok c.pc)
    (stepped : c.step env p.shared.world ok = some (w', c')) :
    CapInvariant env key ⟨⟨w', OtpCall.recorded c c' p.shared.journal⟩,
      p.threads.set i (.verify c')⟩ := by
  obtain ⟨_, ⟨rfl⟩, of_key, sound, copy, owes⟩ := inv.calls _ (List.mem_of_getElem? found)
  obtain ⟨move, same, now⟩ := VerifyCall.step_move stepped
  have nothing : (p.shared.world.memory c.process).otp (c.key env) = none := by
    rw [of_key]
    exact inv.memory c.process
  have sound' := move.sound sound
  have copy' := move.object_none nothing copy
  have of_key' : c'.key env = key := same.key.trans of_key
  have memory' : memoryEmpty key ⟨⟨w', OtpCall.recorded c c' p.shared.journal⟩,
      p.threads.set i (.verify c')⟩ := memoryEmpty_verify inv.memory stepped
  -- without a comparison the journal stays, and every other call keeps what it knows
  have quiet (unchanged : c'.isValid = c.isValid)
      (owes' : Owes (wrongCodes p.shared.journal) (c'.phase env))
      (settled : p.inPhase env Phase.uncounted + (if (c'.phase env).uncounted then 1 else 0) =
          (if (c.phase env).uncounted then 1 else 0) →
        ∀ data, w'.redis.otp.get w'.now key = some data →
          data.attempts = wrongCodes p.shared.journal ∧
            data.attempts < env.otpMaxVerifyAttempts) :
      CapInvariant env key ⟨⟨w', OtpCall.recorded c c' p.shared.journal⟩,
        p.threads.set i (.verify c')⟩ := by
    rw [recorded_same unchanged] at memory' ⊢
    exact inv.moved found of_key' sound' copy' owes' (Or.inl rfl) memory' inv.cap settled
  generalize before : c.phase env = ph at *
  generalize after : c'.phase env = ph' at *
  generalize valid : c'.isValid = v at *
  generalize store : w'.redis.otp = otp at *
  have unmoved : p.shared.world.redis.otp.get w'.now key = p.entry key := by
    rw [now]
    rfl
  cases move with
  | fetch | fetchMemory | miss | stay | time =>
    refine quiet rfl (by trivial) fun none_uncounted data stored => ?_
    exact inv.settled (by simpa [Phase.uncounted] using none_uncounted) data
      (unmoved.symm.trans stored)
  | accept f at_compare up right =>
    rw [at_compare] at fresh
    obtain ⟨entry, none_uncounted⟩ := fresh up
    obtain ⟨counted, below⟩ := inv.settled none_uncounted _ entry
    rw [recorded_accepted sound.1 valid] at memory' ⊢
    refine inv.moved found of_key' (by rw [after, valid]; exact sound') (by rw [after]; exact copy')
      (by rw [after]; trivial) (Or.inl rfl) memory' ⟨counted ▸ below, inv.cap⟩ ?_
    intro _ data stored
    rw [store, unmoved, entry] at stored
    cases stored
    exact ⟨counted, below⟩
  | wrong f at_compare up wrong =>
    rw [at_compare] at fresh
    obtain ⟨entry, none_uncounted⟩ := fresh up
    obtain ⟨counted, below⟩ := inv.settled none_uncounted _ entry
    rw [recorded_refused sound.1 valid] at memory' ⊢
    -- the count the call found in the store was right, and it adds its own
    have next : f.attempts = wrongCodes p.shared.journal + 1 := by rw [sound.2, counted]
    refine inv.moved found of_key' (by rw [after, valid]; exact sound') (by rw [after]; exact copy')
      ?_ (Or.inr none_uncounted) memory' ⟨counted ▸ below, inv.cap⟩ ?_
    · rw [after]
      unfold VerifyPc.afterWrong
      split
      · trivial
      · exact next
    · -- its own count is outstanding from here on
      intro counts
      rw [after, before, VerifyPc.afterWrong_uncounted] at counts
      simp [Phase.uncounted] at counts
  | crash p down database =>
    -- a query may fail only where no count is outstanding
    have counted := fresh.crash down database
    change (c.phase env).uncounted = false at counted
    rw [before] at counted
    refine quiet rfl trivial fun none_uncounted data stored => ?_
    rw [counted] at none_uncounted
    exact inv.settled (by simpa [Phase.uncounted] using none_uncounted) data
      (unmoved.symm.trans stored)
  | lapse f at_ttl gone =>
    refine quiet rfl trivial fun _ data stored => ?_
    rw [unmoved] at stored
    rw [at_ttl] at fresh reachable
    -- the life of the entry cannot have been rounded to nothing
    rcases gone with down | rounded
    · rw [reachable rfl] at down
      cases down
    · rcases fresh with expired | live
      · rw [expired] at stored
        cases stored
      · rw [of_key] at rounded
        omega
  | write f ttl at_write up otp set =>
    refine quiet rfl trivial fun _ data stored => ?_
    obtain ⟨-, -, rfl⟩ := ExpiringMap.setEx_eq_some set
    rw [of_key, ExpiringMap.get_put_self] at stored
    split at stored
    · cases stored
      obtain ⟨-, -, counted, below⟩ := sound
      -- the record came from Redis: no one else can change the copy
      have private_copy : c.storedData p.shared.world f = f.data := by
        have no_object : f.object = none := copy
        simp only [VerifyCall.storedData, no_object]
      rw [private_copy, counted]
      exact ⟨owes, below⟩
    · cases stored
  | unwritten f ttl redis failed =>
    rcases failed with down | rounded
    · rw [reachable redis] at down
      cases down
    · exact absurd sound.1 (not_lt.mpr rounded)
  | discard f redis | consume f redis =>
    refine quiet rfl trivial fun _ data stored => ?_
    rw [reachable redis, of_key, if_pos rfl, ExpiringMap.get_del_self] at stored
    cases stored

theorem CapInvariant.step (inv : CapInvariant env key p) (reachable : RedisReachable p l)
    (no_store : NoStore l) (fresh : ComparesFresh env key p l)
    (taken : step (otpProgram env key) p l = some q) : CapInvariant env key q := by
  cases step_took taken with
  | tick d =>
    refine ⟨inv.calls, inv.memory, fun settled data found => inv.settled settled data ?_, inv.cap⟩
    exact ExpiringMap.get_later found (Nat.le_add_right _ d)
  | startStore => cases no_store
  | startVerify phoneNumber submittedCode ipAddress userAgent process c of_key idle unknown caller =>
    refine ⟨fun t member => ?_, inv.memory, fun settled => inv.settled ?_, inv.cap⟩
    · rcases List.mem_append.mp member with old | new
      · exact inv.calls t old
      · obtain rfl := List.mem_singleton.mp new
        refine ⟨c, rfl, of_key, ?_⟩
        rw [idle]
        exact ⟨unknown, rfl, trivial⟩
    · simpa [inPhase, idle, Phase.uncounted] using settled
  | store i ok c found unfinished =>
    obtain ⟨_, ⟨⟩, -⟩ := inv.calls _ (List.mem_of_getElem? found)
  | verify i ok c c' w' found stepped =>
    have call : verifyAt p i = some c := by simp only [verifyAt, found]
    exact inv.verify found (reachable _ found) (fresh c call) stepped

/-- The cap holds in every state of a run whose comparisons are fresh. -/
theorem attemptCap_of_comparesFresh {labels : List OtpLabel} (start : StoredOnce key p)
    (positive : 0 < env.otpMaxVerifyAttempts)
    (respects : Respects (Pool.step (otpProgram env key))
      (fun s l => RedisReachable s l ∧ NoStore l ∧ ComparesFresh env key s l) p labels)
    (returned : run (Pool.step (otpProgram env key)) p labels = some q) :
    AttemptCap env.otpMaxVerifyAttempts q.shared.journal := by
  have inv := run_invariant_of_respects (CapInvariant env key)
    (fun s l t inv allowed taken => inv.step allowed.1 allowed.2.1 allowed.2.2 taken)
    (start.capInvariant positive) respects returned
  exact inv.cap

/-- Two wrong codes, one after the other. -/
theorem attemptCap_of_two_wrong_codes :
    ∃ q, run (Pool.step (otpProgram sampleEnv sampleKey)) samplePool
      [sampleVerify "111111", .resume 0 true, .resume 0 true, .resume 0 true, .resume 0 true,
        sampleVerify "222222", .resume 1 true, .resume 1 true, .resume 1 true] = some q ∧
      AttemptCap sampleEnv.otpMaxVerifyAttempts q.shared.journal :=
  ⟨_, (Option.some_get (by decide +kernel)).symm,
    attemptCap_of_comparesFresh samplePool_storedOnce (by decide) (by decide +kernel)
      (Option.some_get (by decide +kernel)).symm⟩

/-- Four calls read the record before any of them counts its wrong code. -/
theorem attemptCap_exceeded_by_four_calls :
    ¬∀ (env : Env) (key : OtpKey) (p q : OtpPool) (labels : List OtpLabel),
      StoredOnce key p → 0 < env.otpMaxVerifyAttempts →
      Respects (Pool.step (otpProgram env key)) (fun s l => RedisReachable s l ∧ NoStore l)
        p labels →
      run (Pool.step (otpProgram env key)) p labels = some q →
      AttemptCap env.otpMaxVerifyAttempts q.shared.journal := by
  intro cap
  have exceeded := cap sampleEnv sampleKey samplePool _
    [sampleVerify "111111", sampleVerify "222222", sampleVerify "333333", sampleVerify "444444",
      .resume 0 true, .resume 1 true, .resume 2 true, .resume 3 true,
      .resume 0 true, .resume 1 true, .resume 2 true, .resume 3 true]
    samplePool_storedOnce (by decide) (by decide +kernel) (Option.some_get (by decide +kernel)).symm
  revert exceeded
  decide +kernel

end OtpPool

end SelfOtp
