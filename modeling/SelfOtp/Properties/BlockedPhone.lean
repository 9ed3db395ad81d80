import SelfOtp.Properties.Dispatches
import SelfOtp.Properties.OtpPool

/-! Requests that are received while the phone number is blocked. -/
namespace SelfOtp

/-- A send to the phone number that has not looked for a block yet. -/
def Thread.unchecked (phoneNumber : String) : Thread → Bool
  | authenticating request _ =>
    match request.endpoint with
    | .send body _ => body.phoneNumber == phoneNumber
    | _ => false
  | send c => c.body.phoneNumber == phoneNumber && c.pc.unlooked
  | verify .. | resend _ | status .. | dashboard _ | register _ | sendOtpJob _ | webhook _ => false

namespace BlockedPhone

open Pool Transition

/-- A block that `blockPhoneNumber` has set is in force. -/
def Blocked (env : Env) (phoneNumber : String) (w : World) : Prop :=
  (w.redis.blockedPhones.get w.now (hashPhoneNumber env phoneNumber)).isSome = true

/-- The step lets request `i` hand a message to the phone number over. -/
def DispatchedBy (env : Env) (phoneNumber : String) (i : ℕ) (p : System) : SystemLabel → Prop
  | .resume j a => j = i ∧ ∃ t ∈ p.threads[j]?, t.dispatches env phoneNumber p.shared a = true
  | .external _ => False

/-- Request `i` is not a resend to the phone number that passes its checks, and the block does
not run out before a send has looked for it. -/
def HonoursBlock (env : Env) (phoneNumber : String) (i : ℕ) (p : System) : SystemLabel → Prop
  | .resume j a => j = i → ∀ t ∈ p.threads[j]?,
      t.isResend = true → t.passes env phoneNumber p.shared a = false
  | .external (.tick d) => ∀ t ∈ p.threads[i]?, t.unchecked phoneNumber = true →
      Blocked env phoneNumber (p.shared.tick d)
  | .external _ => True

section Decidable

variable {env : Env} {phoneNumber : String} {i : ℕ} {p : System}

instance : DecidablePred (Blocked env phoneNumber) := fun _ => inferInstanceAs (Decidable (_ = _))

instance : DecidablePred (DispatchedBy env phoneNumber i p)
  | .resume j _ => inferInstanceAs (Decidable (_ ∧ ∃ t ∈ p.threads[j]?, _))
  | .external _ => isFalse id

instance : DecidablePred (HonoursBlock env phoneNumber i p)
  | .resume j _ => inferInstanceAs (Decidable (_ → ∀ t ∈ p.threads[j]?, _ → _))
  | .external (.tick _) => inferInstanceAs (Decidable (∀ t ∈ p.threads[i]?, _ → _))
  | .external (.api ..) | .external (.dashboard ..) | .external (.register ..)
  | .external (.takeSendOtpJob _) | .external (.processWebhook ..) => isTrue trivial

end Decidable

/-! ### One step -/

section Steps

variable {env : Env} {phoneNumber : String} {w w' : World} {t t' : Thread} {a : Answer} {i : ℕ}
  {p q : System}

/-- A block can only be renewed. -/
theorem Blocked.resume (blocked : Blocked env phoneNumber w)
    (resumed : t.resume env w a = some (w', t')) : Blocked env phoneNumber w' := by
  have guards := Thread.resume_guards resumed
  unfold Blocked
  rw [guards.now]
  rcases guards.blockedPhones with same | ⟨process, phoneHash, set⟩
  · rw [same]
    exact blocked
  · rw [set]
    unfold blockPhoneNumber
    split
    next renewed succeeded =>
      obtain ⟨-, rfl⟩ := ExpiringMap.sent_setEx_eq_some succeeded
      by_cases here : hashPhoneNumber env phoneNumber = phoneHash
      · rw [here]
        simp [ExpiringMap.get_put_self]
      · rw [World.mapRedis_redis, ExpiringMap.get_put_ne here]
        exact blocked
    · exact blocked

/-- The request cannot dispatch to the phone number any more, except after a look for the
block, which is in force. -/
structure Kept (env : Env) (phoneNumber : String) (w : World) (t : Thread) : Prop where
  blocked : t.unchecked phoneNumber = true → Blocked env phoneNumber w
  refused : ∀ c, t = .send c → c.body.phoneNumber = phoneNumber →
    c.pc.unlooked = true ∨ ∃ error, c.pc = .rejected error
  uncommitted : t.committed phoneNumber = false

theorem Kept.handler (s : Session) (request : ApiRequest) {c : AuthCall}
    (kept : Kept env phoneNumber w (.authenticating request c)) :
    Kept env phoneNumber w (Thread.handler s request) := by
  have blocked := kept.blocked
  unfold Thread.unchecked at blocked
  unfold Thread.handler
  cases endpoint : request.endpoint with
  | send body idempotencyKey =>
    simp only [endpoint] at blocked
    refine ⟨fun unchecked => blocked (Bool.and_eq_true_iff.mp unchecked).1, fun c same _ => ?_, ?_⟩
    · cases same
      exact Or.inl rfl
    · exact Bool.and_false _
  | resend | verify | status | account =>
    exact ⟨fun h => (by cases h), fun c h => (by cases h), rfl⟩

/-- Redis answers the look for the block, and the block is there. -/
theorem SendCall.refused_step {c c' : SendCall} (kept : Kept env phoneNumber w (.send c))
    (answers : c.pc.awaitsRedis = true → a.ok = true) (h : c.step env w a = some (w', c'))
    (here : c.body.phoneNumber = phoneNumber) :
    c'.pc = .phoneBlocked ∨ ∃ error, c'.pc = .rejected error := by
  have blocked (unlooked : c.pc.unlooked = true) : Blocked env phoneNumber w :=
    kept.blocked (by simp [Thread.unchecked, here, unlooked])
  cases pc : c.pc with
  | customerBlocked =>
    simp only [SendCall.step, pc] at h
    split at h <;> cases h
    · exact Or.inr ⟨_, rfl⟩
    · exact Or.inl rfl
  | phoneBlocked =>
    have there : (w.redis.blockedPhones.get w.now (hashPhoneNumber env phoneNumber)).isSome = true :=
      blocked (by rw [pc]; rfl)
    have found : isPhoneBlocked w c.process (c.phoneHash env) a.ok = true := by
      simp only [isPhoneBlocked, SendCall.phoneHash, here, answers (by rw [pc]; rfl), Bool.true_and]
      rw [if_pos there]
    simp only [SendCall.step, pc, found] at h
    cases h
    exact Or.inr ⟨_, rfl⟩
  | rejected error => simp [SendCall.step, pc] at h
  | _ => rcases kept.refused c rfl here with unlooked | ⟨error, rejected⟩ <;>
      simp_all [SendPc.unlooked]

/-- A step of the request itself. -/
theorem Kept.resume (kept : Kept env phoneNumber w t) (answers : t.awaitsRedis = true → a.ok = true)
    (refused : t.isResend = true → t.passes env phoneNumber w a = false)
    (resumed : t.resume env w a = some (w', t')) : Kept env phoneNumber w' t' := by
  cases t with
  | authenticating request c =>
    have blocked (unchecked : (Thread.authenticating request c).unchecked phoneNumber = true) :=
      (kept.blocked unchecked).resume resumed
    simp only [Thread.resume] at resumed
    obtain ⟨c', stepped, rfl⟩ := Thread.stepped_eq_some resumed
    have still : Kept env phoneNumber w' (.authenticating request c') :=
      ⟨blocked, fun c h => (by cases h), rfl⟩
    split
    · exact still.handler _ request
    · exact still
  | send c =>
    have blocked (unchecked : (Thread.send c).unchecked phoneNumber = true) :=
      (kept.blocked unchecked).resume resumed
    obtain ⟨c', stepped, rfl⟩ := Thread.stepped_eq_some resumed
    have goto : c'.body = c.body := by
      rw [(SendCall.step_move stepped).2]
      rfl
    -- a send to another number is not concerned
    by_cases here : c.body.phoneNumber = phoneNumber
    · have unlooked : c.pc.unlooked = true := by
        rcases kept.refused c rfl here with unlooked | ⟨error, rejected⟩
        · exact unlooked
        · simp [SendCall.step, rejected] at stepped
      have position := SendCall.refused_step kept answers stepped here
      refine ⟨fun _ => blocked (by simp [Thread.unchecked, here, unlooked]), fun d same _ => ?_, ?_⟩
      · cases same
        rcases position with looking | rejected
        · exact Or.inl (by rw [looking]; rfl)
        · exact Or.inr rejected
      · rcases position with pc | ⟨error, pc⟩ <;> simp [Thread.committed, pc, SendPc.committed]
    · refine ⟨fun unchecked => ?_, fun d same there => ?_, by simp [Thread.committed, goto, here]⟩
      · simp [Thread.unchecked, goto, here] at unchecked
      · cases same
        exact absurd (goto ▸ there) here
  | resend c =>
    obtain ⟨c', stepped, rfl⟩ := Thread.stepped_eq_some resumed
    refine ⟨fun h => (by cases h), fun c h => (by cases h), ?_⟩
    by_contra committed
    rcases Thread.committed_step resumed (by simpa using committed) with still | ⟨passed, -⟩
    · rw [kept.uncommitted] at still
      cases still
    -- a resend looks at no block, so its cooldown check has to refuse it
    · rw [refused rfl] at passed
      cases passed
  | verify | status | dashboard | register | sendOtpJob | webhook =>
    obtain ⟨c', stepped, rfl⟩ := Thread.stepped_eq_some resumed
    exact ⟨fun h => (by cases h), fun c h => (by cases h), rfl⟩

/-- A step of the system, for request `i`. -/
theorem kept_step (kept : ∃ t, p.threads[i]? = some t ∧ Kept env phoneNumber p.shared t)
    {l : SystemLabel} (answers : RedisAnswers p l) (honours : HonoursBlock env phoneNumber i p l)
    (taken : step (systemProgram env) p l = some q) :
    ∃ t, q.threads[i]? = some t ∧ Kept env phoneNumber q.shared t := by
  obtain ⟨t, there, kept⟩ := kept
  have inside := (List.getElem?_eq_some_iff.mp there).1
  cases l with
  | resume j a =>
    obtain ⟨u, w', u', found, resumed, rfl⟩ := step_resume taken
    -- the request itself goes on, or another thread, which leaves the block as it is
    by_cases own : j = i
    · subst own
      obtain rfl := Option.some.inj (there.symm.trans found)
      exact ⟨u', List.getElem?_set_self inside,
        kept.resume (answers t there) (honours rfl t there) resumed⟩
    · exact ⟨t, (List.getElem?_set_ne own).trans there,
        fun unchecked => (kept.blocked unchecked).resume resumed, kept.refused, kept.uncommitted⟩
  | external event =>
    obtain ⟨w', born, acted, rfl⟩ := step_external taken
    refine ⟨t, (List.getElem?_append_left inside).trans there, ?_, kept.refused, kept.uncommitted⟩
    cases event with
    -- the condition on a tick: the block outlasts it while the request is unchecked
    | tick d =>
      cases acted
      exact honours t there
    | takeSendOtpJob k =>
      simp only [systemProgram, Thread.external] at acted
      split at acted <;> cases acted
      exact kept.blocked
    | api | dashboard | register | processWebhook =>
      cases acted
      exact kept.blocked

end Steps

/-! ### Runs -/

/-- A request that is received under a block and honours it hands no message over to the phone
number, whatever else is going on. -/
theorem no_otp_of_honoursBlock {env : Env} {phoneNumber : String} {p received : System}
    {rawApiKey : Option String} {request : ApiRequest} {labels : List SystemLabel}
    (blocked : Blocked env phoneNumber p.shared)
    (arrives : step (systemProgram env) p (.external (.api rawApiKey request)) = some received)
    (respects : Respects (step (systemProgram env))
      (fun s l => RedisAnswers s l ∧ HonoursBlock env phoneNumber p.threads.length s l)
      received labels) :
    Respects (step (systemProgram env))
      (fun s l => ¬DispatchedBy env phoneNumber p.threads.length s l) received labels := by
  refine Respects.of_invariant
    (fun s => ∃ t, s.threads[p.threads.length]? = some t ∧ Kept env phoneNumber s.shared t)
    (fun s l t kept allowed taken => kept_step kept allowed.1 allowed.2 taken)
    (fun s l kept _ => ?_) ?_ respects
  · obtain ⟨t, there, kept⟩ := kept
    cases l with
    | external event => exact id
    | resume j a =>
      rintro ⟨rfl, u, found, dispatches⟩
      obtain rfl := Option.some.inj (there.symm.trans found)
      obtain ⟨w', t', resumed⟩ := Thread.dispatches_resumed dispatches
      have committed := Thread.committed_of_handing (Thread.dispatches_handing resumed dispatches).1
      rw [kept.uncommitted] at committed
      cases committed
  -- the block is there when the request is received
  · obtain ⟨w', born, acted, rfl⟩ := step_external arrives
    cases acted
    exact ⟨_, List.getElem?_concat_length, fun _ => blocked, fun c h => (by cases h), rfl⟩

section Sample

def samplePhone : String := "+4915112345678"

/-- Three wrong codes for the request of `sampleCustomSend`. -/
def sampleWrongCodes : List SystemLabel :=
  sampleRequest (.verify samplePhone "111111") :: resolve 1 11 ++
    sampleRequest (.verify samplePhone "111111") :: resolve 2 11 ++
    sampleRequest (.verify samplePhone "111111") :: resolve 3 12

def sampleBlocked : Option System :=
  run (step (systemProgram OtpPool.sampleEnv)) sampleSystem
    (sampleCustomSend ++ sampleWrongCodes ++ [.external (.tick 61000)])

end Sample

/-- A send to the blocked number. -/
theorem no_otp_of_honoursBlock_send :
    ∃ p received, sampleBlocked = some p ∧
      step (systemProgram OtpPool.sampleEnv) p
        (sampleRequest (.send ⟨samplePhone, none, 300, "otp_auth_v1", "en_US"⟩ none)) =
          some received ∧
      Respects (step (systemProgram OtpPool.sampleEnv))
        (fun s l => ¬DispatchedBy OtpPool.sampleEnv samplePhone p.threads.length s l)
        received (resolve 4 7) := by
  obtain ⟨p, reached, blocked, received, arrives, respects⟩ :
      ∃ p ∈ sampleBlocked, Blocked OtpPool.sampleEnv samplePhone p.shared ∧
        ∃ received ∈ step (systemProgram OtpPool.sampleEnv) p
            (sampleRequest (.send ⟨samplePhone, none, 300, "otp_auth_v1", "en_US"⟩ none)),
          Respects (step (systemProgram OtpPool.sampleEnv))
            (fun s l => RedisAnswers s l ∧
              HonoursBlock OtpPool.sampleEnv samplePhone p.threads.length s l) received (resolve 4 7) := by
    decide +kernel
  exact ⟨p, received, reached, arrives, no_otp_of_honoursBlock blocked arrives respects⟩

/-- After three wrong codes the number is blocked, and a resend dispatches all the same. -/
theorem resend_dispatched_under_block :
    ¬∀ (env : Env) (phoneNumber : String) (p s received q : System) (rawApiKey : Option String)
      (request : ApiRequest) (before after : List SystemLabel), p.threads = [] →
      run (step (systemProgram env)) p before = some s →
      Respects (step (systemProgram env)) RedisAnswers p before →
      Blocked env phoneNumber s.shared →
      step (systemProgram env) s (.external (.api rawApiKey request)) = some received →
      run (step (systemProgram env)) received after = some q →
      Respects (step (systemProgram env)) RedisAnswers received after →
      Respects (step (systemProgram env))
        (fun t l => ¬DispatchedBy env phoneNumber s.threads.length t l) received after := by
  intro honoured
  obtain ⟨p, reached, answers, blocked, received, arrives, q, returned, still, dispatches⟩ :
      ∃ p ∈ sampleBlocked, Respects (step (systemProgram OtpPool.sampleEnv)) RedisAnswers sampleSystem
          (sampleCustomSend ++ sampleWrongCodes ++ [.external (.tick 61000)]) ∧
        Blocked OtpPool.sampleEnv samplePhone p.shared ∧
        ∃ received ∈ step (systemProgram OtpPool.sampleEnv) p
            (sampleRequest (.resend (generateRequestId 7))),
          ∃ q ∈ run (step (systemProgram OtpPool.sampleEnv)) received (resolve 4 12),
            Respects (step (systemProgram OtpPool.sampleEnv)) RedisAnswers received (resolve 4 12) ∧
            ¬Respects (step (systemProgram OtpPool.sampleEnv))
              (fun t l => ¬DispatchedBy OtpPool.sampleEnv samplePhone p.threads.length t l)
              received (resolve 4 12) := by
    decide +kernel
  exact dispatches (honoured OtpPool.sampleEnv samplePhone sampleSystem p received q _ _ _ _ rfl reached
    answers blocked arrives returned still)

end BlockedPhone

end SelfOtp
