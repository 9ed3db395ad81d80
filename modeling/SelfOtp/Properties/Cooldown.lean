import SelfOtp.Properties.Dispatches
import SelfOtp.Properties.OtpPool

/-! How far apart the messages to one phone number are. -/
namespace SelfOtp

namespace Cooldown

open Pool Transition

/-- The dispatches of any two requests are at least the cooldown apart. -/
def Spaced (env : Env) (dispatches : List (ℕ × Millis)) : Prop :=
  dispatches.Pairwise fun d e => d.1 ≠ e.1 → (d.2 : ℚ) + 1000 * env.otpCooldownSeconds ≤ e.2

/-- A request passes its cooldown check only while no other one for the phone number is between
its check and its dispatch, and a dispatch is made at the time its cooldown has been set. -/
def ChecksAlone (env : Env) (phoneNumber : String) (p : System) : SystemLabel → Prop
  | .resume i a => ∀ t ∈ p.threads[i]?, t.passes env phoneNumber p.shared a = true →
      ∀ u ∈ p.threads, u.committed phoneNumber = false
  | .external (.tick d) => d = 0 ∨ ∀ t ∈ p.threads, t.handing phoneNumber = false
  | .external _ => True

section Decidable

variable {env : Env} {phoneNumber : String} {p : System}

instance : DecidablePred (Spaced env) :=
  fun dispatches => inferInstanceAs (Decidable (dispatches.Pairwise _))

instance : DecidablePred (ChecksAlone env phoneNumber p)
  | .resume i _ => inferInstanceAs (Decidable (∀ t ∈ p.threads[i]?, _ → ∀ u ∈ p.threads, _))
  | .external (.tick _) => inferInstanceAs (Decidable (_ ∨ ∀ t ∈ p.threads, _))
  | .external (.api ..) | .external (.dashboard ..) | .external (.register ..)
  | .external (.takeSendOtpJob _) | .external (.processWebhook ..) => isTrue trivial

end Decidable

/-! ### The cooldown key -/

/-- The life that `setPhoneCooldown` gives its key. -/
def gap (env : Env) : Millis := 1000 * env.otpCooldownSeconds.num.toNat

theorem le_gap {env : Env} (whole : env.otpCooldownSeconds.den = 1) :
    1000 * env.otpCooldownSeconds ≤ gap env := by
  have integral : env.otpCooldownSeconds = env.otpCooldownSeconds.num :=
    (Rat.den_eq_one_iff _).mp whole |>.symm
  have rounded : (env.otpCooldownSeconds.num : ℚ) ≤ (env.otpCooldownSeconds.num.toNat : ℚ) := by
    exact_mod_cast Int.self_le_toNat env.otpCooldownSeconds.num
  calc 1000 * env.otpCooldownSeconds
      = 1000 * (env.otpCooldownSeconds.num : ℚ) := congrArg (1000 * ·) integral
    _ ≤ 1000 * (env.otpCooldownSeconds.num.toNat : ℚ) := by linarith
    _ = gap env := by
      rw [gap]
      push_cast
      rfl

/-- Before the instant no check for the phone number passes. -/
def Cools (env : Env) (phoneNumber : String) (w : World) (instant : Millis) : Prop :=
  instant ≤ w.now ∨ ∃ cell, w.redis.cooldown (hashPhoneNumber env phoneNumber) = some cell ∧
    instant ≤ cell.expiresAt

section Cools

variable {env : Env} {phoneNumber : String} {w w' : World} {instant : Millis} {t : Thread} {ok : Bool}
  {process : ℕ}

theorem Cools.passed (cools : Cools env phoneNumber w instant)
    (passed : checkPhoneCooldown env w process (hashPhoneNumber env phoneNumber) true = false) :
    instant ≤ w.now := by
  rcases cools with elapsed | ⟨cell, stored, le⟩
  · exact elapsed
  · by_contra early
    have live : w.now ≤ cell.expiresAt := (not_le.mp early).le.trans le
    simp [checkPhoneCooldown, ExpiringMap.get, stored, live] at passed

/-- A cooldown is never cut short. -/
theorem Cools.resume (cools : Cools env phoneNumber w instant) (guards : GuardsStep env w t ok w')
    (le : instant ≤ w.now + gap env) : Cools env phoneNumber w' instant := by
  rcases cools with elapsed | ⟨cell, stored, longer⟩
  · exact Or.inl (guards.now.symm ▸ elapsed)
  · right
    rcases guards.cooldown with same | ⟨process, phoneHash, -, set⟩
    · exact ⟨cell, by rw [same, stored], longer⟩
    · rw [set]
      unfold setPhoneCooldown
      split
      next renewed succeeded =>
        obtain ⟨-, rfl⟩ := ExpiringMap.sent_setEx_eq_some succeeded
        by_cases here : hashPhoneNumber env phoneNumber = phoneHash
        · subst here
          exact ⟨_, Function.update_self .., le⟩
        · exact ⟨cell, (Function.update_of_ne here ..).trans stored, longer⟩
      · exact ⟨cell, stored, longer⟩

/-- Redis takes the cooldown that is set. -/
theorem Cools.of_set (whole : env.otpCooldownSeconds.den = 1) :
    Cools env phoneNumber (setPhoneCooldown env w process (hashPhoneNumber env phoneNumber) true)
      (w.now + gap env) := by
  unfold setPhoneCooldown
  by_cases positive : 0 < env.otpCooldownSeconds
  · right
    simp only [ExpiringMap.setEx, positive, whole, and_self, if_true]
    exact ⟨_, Function.update_self .., le_refl _⟩
  · -- a cooldown of no length is over at once
    left
    have none_left : gap env = 0 := by
      have nonpositive : env.otpCooldownSeconds.num ≤ 0 := Rat.num_nonpos.mpr (not_lt.mp positive)
      rw [gap, Int.toNat_of_nonpos nonpositive]
    rw [none_left]
    split <;> exact le_refl _

end Cools

/-! ### The invariant -/

section Steps

variable {env : Env} {phoneNumber : String} {p q : System} {seen : List (ℕ × Millis)}

def onItsWay (phoneNumber : String) (t : Thread) : ℕ := if t.committed phoneNumber then 1 else 0

/-- One request at most is on its way to a dispatch, and then no cooldown of an earlier one is
left. -/
structure Cooling (env : Env) (phoneNumber : String) (p : System) (seen : List (ℕ × Millis)) :
    Prop where
  spaced : seen.Pairwise fun d e => d.2 + gap env ≤ e.2
  kept : ∀ d ∈ seen, d.2 ≤ p.shared.now ∧ Cools env phoneNumber p.shared (d.2 + gap env)
  alone : total (onItsWay phoneNumber) p.threads ≤ 1
  due : ∀ t ∈ p.threads, t.committed phoneNumber = true → ∀ d ∈ seen, d.2 + gap env ≤ p.shared.now
  set : ∀ t ∈ p.threads, t.handing phoneNumber = true →
    Cools env phoneNumber p.shared (p.shared.now + gap env)

section Resume

variable {i : ℕ} {a : Answer} {t u : Thread} {w : World}

theorem Cooling.kept_resume (cooling : Cooling env phoneNumber p seen)
    (resumed : t.resume env p.shared a = some (w, u)) :
    ∀ d ∈ seen, d.2 ≤ w.now ∧ Cools env phoneNumber w (d.2 + gap env) := by
  intro d there
  have guards := Thread.resume_guards resumed
  obtain ⟨past, cools⟩ := cooling.kept d there
  exact ⟨guards.now.symm ▸ past, cools.resume guards (Nat.add_le_add_right past _)⟩

/-- A dispatch ends the way of the only request that was on it, and the cooldown has been set. -/
theorem Cooling.resume_dispatching (cooling : Cooling env phoneNumber p seen)
    (found : p.threads[i]? = some t) (resumed : t.resume env p.shared a = some (w, u))
    (dispatches : t.dispatches env phoneNumber p.shared a = true) :
    Cooling env phoneNumber ⟨w, p.threads.set i u⟩ (seen ++ [(i, p.shared.now)]) := by
  have guards := Thread.resume_guards resumed
  have member := List.mem_of_getElem? found
  have moved := total_set (m := onItsWay phoneNumber) found u
  have alone := cooling.alone
  obtain ⟨handing, handed⟩ := Thread.dispatches_handing resumed dispatches
  have committed := Thread.committed_of_handing handing
  have idle : ∀ v ∈ p.threads.set i u, v.committed phoneNumber = false := fun v there => by
    rcases mem_set_cases there with rfl | ⟨j, apart, there⟩
    · exact handed
    · have idle := eq_zero_of_total_le_one found there apart alone (by simp [onItsWay, committed])
      simpa [onItsWay] using idle
  refine ⟨?_, fun d there => ?_, ?_, fun v there busy => ?_, fun v there busy => ?_⟩
  · refine List.pairwise_append.mpr ⟨cooling.spaced, List.pairwise_singleton .., ?_⟩
    intro d there e last
    cases List.mem_singleton.mp last
    exact cooling.due t member committed d there
  · rcases List.mem_append.mp there with old | last
    · exact cooling.kept_resume resumed d old
    · cases List.mem_singleton.mp last
      exact ⟨guards.now.ge, (cooling.set t member handing).resume guards (le_refl _)⟩
  · simp only [onItsWay, handed, committed] at moved ⊢
    simp only [if_true, Bool.false_eq_true, if_false] at moved
    omega
  · rw [idle v there] at busy
    cases busy
  · have committed := Thread.committed_of_handing busy
    rw [idle v there] at committed
    cases committed

/-- Without a dispatch, a request comes on its way only where no other is and no cooldown is left. -/
theorem Cooling.resume_quiet (cooling : Cooling env phoneNumber p seen)
    (whole : env.otpCooldownSeconds.den = 1) (found : p.threads[i]? = some t)
    (resumed : t.resume env p.shared a = some (w, u)) (answers : t.awaitsRedis = true → a.ok = true)
    (checksAlone : t.passes env phoneNumber p.shared a = true →
      ∀ v ∈ p.threads, v.committed phoneNumber = false) :
    Cooling env phoneNumber ⟨w, p.threads.set i u⟩ seen := by
  have guards := Thread.resume_guards resumed
  have member := List.mem_of_getElem? found
  have moved := total_set (m := onItsWay phoneNumber) found u
  have alone := cooling.alone
  refine ⟨cooling.spaced, cooling.kept_resume resumed, ?_, fun v there busy d old => ?_,
    fun v there handing => ?_⟩
  · by_cases busy : u.committed phoneNumber = true
    -- a request comes on its way only by a check, and none other is on it then
    · rcases Thread.committed_step resumed busy with still | ⟨passes, -⟩
      · simp only [onItsWay, still, busy, if_true] at moved ⊢
        omega
      · have none_other : total (onItsWay phoneNumber) p.threads = 0 :=
          total_eq_zero.mpr fun v there => by simp [onItsWay, checksAlone passes v there]
        simp only [onItsWay, busy, if_true] at moved none_other ⊢
        omega
    · simp only [onItsWay, busy] at moved ⊢
      simp only [Bool.false_eq_true, if_false] at moved
      omega
  · rw [guards.now]
    rcases mem_set_cases there with rfl | ⟨j, -, there⟩
    · rcases Thread.committed_step resumed busy with still | ⟨passes, -⟩
      · exact cooling.due t member still d old
      · -- the check has found no cooldown that is left of an earlier dispatch
        obtain ⟨redis, process, passed⟩ := Thread.passes_check passes
        rw [answers redis] at passed
        exact (cooling.kept d old).2.passed passed
    · exact cooling.due v (List.mem_of_getElem? there) busy d old
  · rcases mem_set_cases there with rfl | ⟨j, -, there⟩
    -- it was about to hand over already, or has set the cooldown just now
    · rcases Thread.handing_step resumed handing with still | ⟨-, redis, process, rfl⟩
      · rw [guards.now]
        exact (cooling.set t member still).resume guards (le_refl _)
      · rw [guards.now, answers redis]
        exact Cools.of_set whole
    · rw [guards.now]
      exact (cooling.set v (List.mem_of_getElem? there) handing).resume guards (le_refl _)

theorem Cooling.resume (cooling : Cooling env phoneNumber p seen)
    (whole : env.otpCooldownSeconds.den = 1) (found : p.threads[i]? = some t)
    (resumed : t.resume env p.shared a = some (w, u)) (answers : t.awaitsRedis = true → a.ok = true)
    (checksAlone : t.passes env phoneNumber p.shared a = true →
      ∀ v ∈ p.threads, v.committed phoneNumber = false) :
    Cooling env phoneNumber ⟨w, p.threads.set i u⟩
      (seen ++ if t.dispatches env phoneNumber p.shared a then [(i, p.shared.now)] else []) := by
  split
  next dispatches => exact cooling.resume_dispatching found resumed dispatches
  next quiet =>
    rw [List.append_nil]
    exact cooling.resume_quiet whole found resumed answers checksAlone

end Resume

theorem Cooling.external (cooling : Cooling env phoneNumber p seen) {event : SystemEvent} {w : World}
    {born : List Thread} (checksAlone : ChecksAlone env phoneNumber p (.external event))
    (acted : Thread.external p.shared event = some (w, born)) :
    Cooling env phoneNumber ⟨w, p.threads ++ born⟩ seen := by
  obtain ⟨redis, clock⟩ := Thread.external_clock acted
  have idle : ∀ t ∈ born, t.committed phoneNumber = false := Thread.external_uncommitted acted
  have later : p.shared.now ≤ w.now := by
    rcases clock with same | ⟨d, -, same⟩
    · exact same.ge
    · exact (Nat.le_add_right _ d).trans same.ge
  have cools {instant : Millis} (before : Cools env phoneNumber p.shared instant) :
      Cools env phoneNumber w instant := by
    rcases before with elapsed | cell
    · exact Or.inl (elapsed.trans later)
    · exact Or.inr (redis.symm ▸ cell)
  have old {v : Thread} (there : v ∈ p.threads ++ born) (busy : v.committed phoneNumber = true) :
      v ∈ p.threads := by
    rcases List.mem_append.mp there with old | new
    · exact old
    · rw [idle v new] at busy
      cases busy
  refine ⟨cooling.spaced, fun d there => ?_, ?_, fun v there busy d seen => ?_,
    fun v there handing => ?_⟩
  · exact ⟨(cooling.kept d there).1.trans later, cools (cooling.kept d there).2⟩
  · have none_born : total (onItsWay phoneNumber) born = 0 :=
      total_eq_zero.mpr fun v there => by simp [onItsWay, idle v there]
    rw [total_append, none_born]
    exact cooling.alone
  · exact (cooling.due v (old there busy) busy d seen).trans later
  · have here := old there (Thread.committed_of_handing handing)
    have before := cooling.set v here handing
    rcases clock with same | ⟨d, rfl, same⟩
    · rw [same]
      exact cools before
    · -- no time passes while a message is handed over
      rcases checksAlone with rfl | none_handing
      · rw [same, Nat.add_zero]
        exact cools before
      · rw [none_handing v here] at handing
        cases handing

theorem Cooling.step (cooling : Cooling env phoneNumber p seen)
    (whole : env.otpCooldownSeconds.den = 1) {l : SystemLabel} (answers : RedisAnswers p l)
    (checksAlone : ChecksAlone env phoneNumber p l)
    (taken : step (systemProgram env) p l = some q) :
    Cooling env phoneNumber q (seen ++ dispatched env phoneNumber p l) := by
  cases l with
  | resume i a =>
    obtain ⟨t, w, u, found, resumed, rfl⟩ := step_resume taken
    simp only [dispatched, found]
    exact cooling.resume whole found resumed (answers t found) (checksAlone t found)
  | external event =>
    obtain ⟨w, born, acted, rfl⟩ := step_external taken
    simp only [dispatched, List.append_nil]
    exact cooling.external checksAlone acted

end Steps

/-! ### Runs -/

section Runs

variable {env : Env} {phoneNumber : String} {p q : System}

/-- Requests that check the cooldown one at a time dispatch at least a cooldown apart. -/
theorem spaced_of_checksAlone {labels : List SystemLabel} (whole : env.otpCooldownSeconds.den = 1)
    (idle : p.threads = [])
    (respects : Respects (step (systemProgram env))
      (fun s l => RedisAnswers s l ∧ ChecksAlone env phoneNumber s l) p labels)
    (returned : run (step (systemProgram env)) p labels = some q) :
    Spaced env (observed (step (systemProgram env)) (dispatched env phoneNumber) p labels) := by
  have start : Cooling env phoneNumber p [] := by
    refine ⟨List.Pairwise.nil, fun d h => (by cases h), by simp [idle], fun t there => ?_,
      fun t there => ?_⟩ <;>
    · rw [idle] at there
      cases there
  have cooling := run_observed_of_respects (Cooling env phoneNumber)
    (fun s seen l t cooling allowed taken => cooling.step whole allowed.1 allowed.2 taken)
    start respects returned
  refine cooling.spaced.imp fun {d e} apart _ => ?_
  have bound := le_gap whole
  have cast : (d.2 : ℚ) + gap env ≤ e.2 := by exact_mod_cast apart
  linarith

section Sample

def samplePhone : String := "+4915112345678"

def sampleSend (bytes : ℕ) : SystemLabel :=
  .external (.api (some "wotp_live_00")
    ⟨.send ⟨samplePhone, none, 300, "otp_auth_v1", "en_US"⟩ none, "198.51.100.7", none, 0, bytes, 0⟩)

end Sample

/-- One send after the other: the second one a cooldown later. -/
theorem spaced_of_two_sends :
    ∃ q, run (step (systemProgram OtpPool.sampleEnv)) sampleSystem
        (sampleSend 7 :: resolve 0 29 ++ .external (.tick 60001) :: sampleSend 8 :: resolve 1 29) =
          some q ∧
      Spaced OtpPool.sampleEnv (observed (step (systemProgram OtpPool.sampleEnv))
        (dispatched OtpPool.sampleEnv samplePhone) sampleSystem
        (sampleSend 7 :: resolve 0 29 ++ .external (.tick 60001) :: sampleSend 8 :: resolve 1 29)) :=
  ⟨_, (Option.some_get (by decide +kernel)).symm,
    spaced_of_checksAlone (by decide) rfl (by decide +kernel)
      (Option.some_get (by decide +kernel)).symm⟩

/-- Two sends pass the check before one of them sets the cooldown. -/
theorem two_sends_dispatched_at_once :
    ¬∀ (env : Env) (phoneNumber : String) (p q : System) (labels : List SystemLabel),
      p.threads = [] → Respects (step (systemProgram env)) RedisAnswers p labels →
      run (step (systemProgram env)) p labels = some q →
      Spaced env (observed (step (systemProgram env)) (dispatched env phoneNumber) p labels) := by
  intro spaced
  have violated := spaced OtpPool.sampleEnv samplePhone sampleSystem _
    (sampleSend 7 :: sampleSend 8 :: (resolve 0 24 ++ resolve 1 29 ++ resolve 0 5)) rfl
    (by decide +kernel) (Option.some_get (by decide +kernel)).symm
  revert violated
  decide +kernel

end Runs

end Cooldown

end SelfOtp
