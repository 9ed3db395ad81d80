import SelfOtp.Properties.OtpEntries

/-! The messages that sends and resends hand over, and the guards on their way: rate limits,
cooldowns and phone blocks. -/
namespace SelfOtp

/-! ### Redis is reachable -/

def AuthPc.awaitsRedis : AuthPc → Bool
  | limit .. => true
  | findKey | authenticated _ | rejected _ | internalError => false

def SendPc.awaitsRedis : SendPc → Bool
  | customerBlocked | phoneBlocked | idempotencyCache _ | limit .. | cooldown | store _
  | setCooldown _ | saveCache .. => true
  | _ => false

def ResendPc.awaitsRedis : ResendPc → Bool
  | cooldown .. | store _ | setCooldown _ => true
  | _ => false

def Thread.awaitsRedis : Thread → Bool
  | authenticating _ c => c.pc.awaitsRedis
  | send c => c.pc.awaitsRedis
  | verify _ c => c.pc.awaitsRedis
  | resend c => c.pc.awaitsRedis
  | status .. | dashboard _ | register _ | sendOtpJob _ | webhook _ => false

/-- Redis answers every command of a request. The queue may still refuse a job. -/
def RedisAnswers (p : System) : SystemLabel → Prop
  | .resume i a => ∀ t ∈ p.threads[i]?, t.awaitsRedis = true → a.ok = true
  | .external _ => True

instance (p : System) : DecidablePred (RedisAnswers p)
  | .resume i _ => inferInstanceAs (Decidable (∀ t ∈ p.threads[i]?, _ → _))
  | .external _ => isTrue trivial

/-! ### Requests one at a time -/

def AuthPc.answered : AuthPc → Bool
  | rejected _ | internalError => true
  | findKey | limit .. | authenticated _ => false

def SendPc.answered : SendPc → Bool
  | replied .. | rejected _ | internalError => true
  | _ => false

def ResendPc.answered : ResendPc → Bool
  | replied _ | rejected _ | internalError => true
  | _ => false

def VerifyPc.answered : VerifyPc → Bool
  | verified _ | rejected _ | internalError => true
  | _ => false

/-- The requests that may dispatch and, if asked for, the verifications. -/
def Endpoint.otp (verifies : Bool) : Endpoint → Bool
  | send .. | resend _ => true
  | verify .. => verifies
  | status _ | account _ => false

/-- Such a request that has not been answered. -/
def Thread.unanswered (verifies : Bool) : Thread → Bool
  | authenticating request c => request.endpoint.otp verifies && !c.pc.answered
  | send c => !c.pc.answered
  | verify _ c => verifies && !c.pc.answered
  | resend c => !c.pc.answered
  | status .. | dashboard _ | register _ | sendOtpJob _ | webhook _ => false

/-- No such request arrives while another one has not been answered. -/
def OneAtATime (verifies : Bool) (p : System) : SystemLabel → Prop
  | .external (.api rawApiKey request) =>
      (Thread.authenticating request (.start rawApiKey request.process)).unanswered verifies = true →
        ∀ t ∈ p.threads, t.unanswered verifies = false
  | .external _ | .resume .. => True

instance (verifies : Bool) (p : System) : DecidablePred (OneAtATime verifies p)
  | .external (.api ..) => inferInstanceAs (Decidable (_ → ∀ t ∈ p.threads, _))
  | .external (.tick _) | .external (.dashboard ..) | .external (.register ..)
  | .external (.takeSendOtpJob _) | .external (.processWebhook ..) | .resume .. => isTrue trivial

/-- How many such requests a thread is. -/
def Thread.busy (verifies : Bool) (t : Thread) : ℕ := if t.unanswered verifies then 1 else 0

section OneAtATime

open Pool

variable {env : Env} {p q : System} {w w' : World} {a : Answer} {verifies : Bool}

theorem SendCall.unanswered_of_step {c c' : SendCall} (h : c.step env w a = some (w', c')) :
    c.pc.answered = false := by
  cases pc : c.pc <;> simp [SendPc.answered, step, pc] at h ⊢

theorem VerifyCall.unanswered_of_step {c c' : VerifyCall} {ok : Bool}
    (h : c.step env w ok = some (w', c')) : c.pc.answered = false := by
  cases pc : c.pc <;> simp [VerifyPc.answered, step, pc] at h ⊢

theorem ResendCall.unanswered_of_step {c c' : ResendCall} (h : c.step env w a = some (w', c')) :
    c.pc.answered = false := by
  cases pc : c.pc <;> simp [ResendPc.answered, step, pc] at h ⊢

theorem Thread.unanswered_resume {t t' : Thread} (resumed : t.resume env w a = some (w', t'))
    (unanswered : t'.unanswered verifies = true) : t.unanswered verifies = true := by
  cases t with
  | authenticating request c =>
    simp only [resume] at resumed
    obtain ⟨c', stepped, rfl⟩ := stepped_eq_some resumed
    have pending : c.pc.answered = false := by
      cases pc : c.pc <;> first | rfl | simp [AuthCall.step, pc] at stepped
    -- authentication leads to the handler of the endpoint only
    have otp : request.endpoint.otp verifies = true := by
      split at unanswered
      · unfold handler at unanswered
        split at unanswered
        next endpoint => rw [endpoint]; rfl
        next endpoint =>
          rw [endpoint]
          exact (Bool.and_eq_true_iff.mp unanswered).1
        next endpoint => rw [endpoint]; rfl
        · cases unanswered
        · cases unanswered
      · exact (Bool.and_eq_true_iff.mp unanswered).1
    simp [Thread.unanswered, otp, pending]
  | send c =>
    obtain ⟨c', stepped, rfl⟩ := stepped_eq_some resumed
    simp [Thread.unanswered, SendCall.unanswered_of_step stepped]
  | verify customer c =>
    obtain ⟨c', stepped, rfl⟩ := stepped_eq_some resumed
    have counted := (Bool.and_eq_true_iff.mp unanswered).1
    simp [Thread.unanswered, VerifyCall.unanswered_of_step stepped, counted]
  | resend c =>
    obtain ⟨c', stepped, rfl⟩ := stepped_eq_some resumed
    simp [Thread.unanswered, ResendCall.unanswered_of_step stepped]
  | status | dashboard | register | sendOtpJob | webhook =>
    obtain ⟨c', stepped, rfl⟩ := stepped_eq_some resumed
    cases unanswered

theorem Thread.unanswered_born {t : Thread} (unanswered : t.unanswered verifies = true)
    {event : SystemEvent} {born : List Thread} (acted : Thread.external w event = some (w', born))
    (member : t ∈ born) : ∃ rawApiKey request, event = .api rawApiKey request := by
  cases event with
  | api rawApiKey request => exact ⟨rawApiKey, request, rfl⟩
  | tick d =>
    cases acted
    cases member
  | takeSendOtpJob i =>
    simp only [external] at acted
    split at acted <;> cases acted
    cases List.mem_singleton.mp member
    cases unanswered
  | dashboard | register | processWebhook =>
    cases acted
    cases List.mem_singleton.mp member
    cases unanswered

/-- A request leaves the others as they are, and one that arrives finds them answered. -/
theorem OneAtATime.step {l : SystemLabel} (one : OneAtATime verifies p l)
    (alone : total (Thread.busy verifies) p.threads ≤ 1)
    (taken : Pool.step (systemProgram env) p l = some q) :
    total (Thread.busy verifies) q.threads ≤ 1 := by
  cases l with
  | resume i a =>
    obtain ⟨t, w', t', found, resumed, rfl⟩ := step_resume taken
    have le : t'.busy verifies ≤ t.busy verifies := by
      unfold Thread.busy
      split
      next unanswered => rw [if_pos (Thread.unanswered_resume resumed unanswered)]
      · exact Nat.zero_le _
    exact (total_set_le found le).trans alone
  | external event =>
    obtain ⟨w', born, acted, rfl⟩ := step_external taken
    rw [total_append]
    by_cases none_born : total (Thread.busy verifies) born = 0
    · omega
    -- only a request that is received counts, and then all others are answered
    · obtain ⟨t, member, counts⟩ : ∃ t ∈ born, t.busy verifies ≠ 0 := by
        simpa only [total_eq_zero, not_forall, exists_prop] using none_born
      have unanswered : t.unanswered verifies = true := by
        by_contra answered
        exact counts (if_neg answered)
      obtain ⟨rawApiKey, request, rfl⟩ := Thread.unanswered_born unanswered acted member
      cases acted
      cases List.mem_singleton.mp member
      have idle : total (Thread.busy verifies) p.threads = 0 :=
        total_eq_zero.mpr fun v there => by rw [Thread.busy, one unanswered v there]; rfl
      have single : (Thread.authenticating request (.start rawApiKey request.process)).busy verifies = 1 :=
        if_pos unanswered
      rw [idle, total_cons, total_nil, single]

end OneAtATime

/-! ### Messages handed over -/

/-- Messages to the phone number in the queue or handed to the provider. -/
def messagesTo (phoneNumber : String) (w : World) : ℕ :=
  w.otpQueue.countP (·.data.phoneNumber == phoneNumber) +
    w.provider.countP (·.phoneNumber == phoneNumber)

/-- The next step of a send or a resend hands a message to the phone number over. -/
def Thread.dispatches (env : Env) (phoneNumber : String) (w : World) (a : Answer) (t : Thread) :
    Bool :=
  match t with
  | send _ | resend _ =>
    match t.resume env w a with
    | some (w', _) => messagesTo phoneNumber w < messagesTo phoneNumber w'
    | none => false
  | authenticating .. | verify .. | status .. | dashboard _ | register _ | sendOtpJob _
  | webhook _ => false

/-- The dispatches of a step: the request that makes one, and the time. -/
def dispatched (env : Env) (phoneNumber : String) (p : System) : SystemLabel → List (ℕ × Millis)
  | .resume i a =>
    match p.threads[i]? with
    | some t => if t.dispatches env phoneNumber p.shared a then [(i, p.shared.now)] else []
    | none => []
  | .external _ => []

/-- Between the cooldown check and the dispatch. -/
def SendPc.committed : SendPc → Bool
  | create .. | debit _ | store _ | setCooldown _ | enqueue _ | fallback _ => true
  | _ => false

/-- The message is handed over next. -/
def SendPc.handing : SendPc → Bool
  | enqueue _ | fallback _ => true
  | _ => false

/-- The resend that is between its cooldown check and its dispatch. -/
def ResendPc.committed : ResendPc → Option Redispatch
  | debit d | update d | store d | setCooldown d | enqueue d | fallback d => some d
  | findRecord | expire _ | cooldown .. | fallbackSent _ | replied _ | rejected _
  | internalError => none

def ResendPc.handing : ResendPc → Bool
  | enqueue _ | fallback _ => true
  | _ => false

/-- A request for the phone number that has passed the cooldown check and not dispatched yet. -/
def Thread.committed (phoneNumber : String) : Thread → Bool
  | send c => c.body.phoneNumber == phoneNumber && c.pc.committed
  | resend c => c.pc.committed.any (·.record.phoneNumber == phoneNumber)
  | authenticating .. | verify .. | status .. | dashboard _ | register _ | sendOtpJob _
  | webhook _ => false

def Thread.handing (phoneNumber : String) (t : Thread) : Bool :=
  t.committed phoneNumber &&
    match t with
    | send c => c.pc.handing
    | resend c => c.pc.handing
    | _ => false

def Thread.isResend : Thread → Bool
  | resend _ => true
  | _ => false

/-- The step lets the request for the phone number pass its cooldown check. -/
def Thread.passes (env : Env) (phoneNumber : String) (w : World) (a : Answer) : Thread → Bool
  | send c =>
    match c.pc with
    | .cooldown => c.body.phoneNumber == phoneNumber &&
        !checkPhoneCooldown env w c.process (c.phoneHash env) a.ok
    | _ => false
  | resend c =>
    match c.pc with
    | .cooldown record _ => record.phoneNumber == phoneNumber &&
        !checkPhoneCooldown env w c.process (ResendCall.phoneHash env record) a.ok
    | _ => false
  | authenticating .. | verify .. | status .. | dashboard _ | register _ | sendOtpJob _
  | webhook _ => false

section Dispatches

variable {env : Env} {phoneNumber : String} {w w' : World} {a : Answer}

theorem messagesTo_of_same (otpQueue : w'.otpQueue = w.otpQueue) (provider : w'.provider = w.provider) :
    messagesTo phoneNumber w' = messagesTo phoneNumber w := by
  simp only [messagesTo, otpQueue, provider]

theorem messagesTo_addSendOtpJob (data : SendOtpJobData) :
    messagesTo phoneNumber (addSendOtpJob w data) =
      messagesTo phoneNumber w + if data.phoneNumber = phoneNumber then 1 else 0 := by
  simp only [messagesTo, addSendOtpJob, List.countP_append, List.countP_singleton, beq_iff_eq]
  omega

theorem messagesTo_sendOtp (recipient otpCode templateName languageCode : String)
    (res : SendMessageResult) :
    messagesTo phoneNumber (sendOtp w recipient otpCode templateName languageCode res) =
      messagesTo phoneNumber w + if recipient = phoneNumber then 1 else 0 := by
  simp only [messagesTo, sendOtp, List.countP_cons, beq_iff_eq]
  omega

theorem messagesTo_storeOtp (process : ℕ) (key : OtpKey) (data : StoredOtp) (ttlSeconds : ℚ)
    (ok : Bool) :
    messagesTo phoneNumber (storeOtp w process key data ttlSeconds ok) = messagesTo phoneNumber w := by
  unfold storeOtp
  split <;> exact messagesTo_of_same rfl rfl

theorem SendCall.finish_committed (c : SendCall) (d : Dispatch) :
    (c.finish env d).committed = false := by
  unfold finish
  split <;> rfl

/-- Only the step that hands the message over adds one, and it ends the way to it. -/
theorem SendCall.step_messages {c c' : SendCall} (h : c.step env w a = some (w', c')) :
    messagesTo phoneNumber w' = messagesTo phoneNumber w ∨
      c.body.phoneNumber = phoneNumber ∧ c.pc.handing = true ∧ c'.pc.committed = false := by
  have move := (step_move h).1
  -- a message is counted for its recipient
  have handed {recipient : String} {n : ℕ} (position : c.pc.handing = true → c'.pc.committed = false)
      (handing : c.pc.handing = true)
      (count : n = messagesTo phoneNumber w + if recipient = phoneNumber then 1 else 0) :
      n = messagesTo phoneNumber w ∨
        recipient = phoneNumber ∧ c.pc.handing = true ∧ c'.pc.committed = false := by
    split at count
    next same => exact Or.inr ⟨same, handing, position handing⟩
    · exact Or.inl count
  generalize c.pc = pc at move handed
  generalize c'.pc = pc' at move handed
  cases move with
  | refuse before same | check before same | setCooldown d same =>
    exact Or.inl (messagesTo_of_same same.otpQueue same.provider)
  | store d => exact Or.inl (messagesTo_storeOtp ..)
  | enqueue d => exact handed (fun _ => c.finish_committed d) rfl (messagesTo_addSendOtpJob _)
  | deliver d after =>
    refine handed (fun _ => ?_) rfl (messagesTo_sendOtp ..)
    rw [after]
    split <;> rfl
  | saveCache d key =>
    left
    unfold cacheResponse
    dsimp only
    split <;> exact messagesTo_of_same rfl rfl
  | saveRecord d key =>
    left
    unfold recordResponse
    split <;> exact messagesTo_of_same rfl rfl
  | _ => exact Or.inl (messagesTo_of_same rfl rfl)

theorem ResendCall.step_messages {c c' : ResendCall} (h : c.step env w a = some (w', c')) :
    messagesTo phoneNumber w' = messagesTo phoneNumber w ∨
      ∃ d, c.pc.committed = some d ∧ d.record.phoneNumber = phoneNumber ∧
        c.pc.handing = true ∧ c'.pc.committed = none := by
  have move := (step_move h).1
  generalize c.pc = pc at move
  generalize c'.pc = pc' at move
  cases move with
  | setCooldown d same => exact Or.inl (messagesTo_of_same same.otpQueue same.provider)
  | store d => exact Or.inl (messagesTo_storeOtp ..)
  | enqueue d =>
    rw [messagesTo_addSendOtpJob]
    split
    next same => exact Or.inr ⟨d, rfl, same, rfl, rfl⟩
    · exact Or.inl rfl
  | deliver d after =>
    rw [messagesTo_sendOtp]
    split
    next same =>
      refine Or.inr ⟨d, rfl, same, rfl, ?_⟩
      rw [after]
      split <;> rfl
    · exact Or.inl rfl
  | _ => exact Or.inl (messagesTo_of_same rfl rfl)

theorem Thread.dispatches_resumed {t : Thread} (dispatches : t.dispatches env phoneNumber w a = true) :
    ∃ w' t', t.resume env w a = some (w', t') := by
  cases resumed : t.resume env w a with
  | some next => exact ⟨next.1, next.2, rfl⟩
  | none => cases t <;> simp [Thread.dispatches, resumed] at dispatches

/-- A dispatch is made by a request that is about to hand its message over, and ends the way
to it. -/
theorem Thread.dispatches_handing {t t' : Thread} (resumed : t.resume env w a = some (w', t'))
    (dispatches : t.dispatches env phoneNumber w a = true) :
    t.handing phoneNumber = true ∧ t'.committed phoneNumber = false := by
  cases t with
  | send c =>
    simp only [Thread.dispatches, resumed, decide_eq_true_eq] at dispatches
    obtain ⟨c', stepped, rfl⟩ := stepped_eq_some resumed
    rcases SendCall.step_messages stepped with same | ⟨recipient, handing, handed⟩
    · exact absurd same dispatches.ne'
    · have committed : c.pc.committed = true := by
        revert handing
        cases c.pc <;> simp [SendPc.handing, SendPc.committed]
      simp [Thread.handing, Thread.committed, recipient, handing, handed, committed]
  | resend c =>
    simp only [Thread.dispatches, resumed, decide_eq_true_eq] at dispatches
    obtain ⟨c', stepped, rfl⟩ := stepped_eq_some resumed
    rcases ResendCall.step_messages stepped with same | ⟨d, committed, recipient, handing, handed⟩
    · exact absurd same dispatches.ne'
    · simp [Thread.handing, Thread.committed, recipient, handing, handed, committed]
  | authenticating | verify | status | dashboard | register | sendOtpJob | webhook =>
    cases dispatches

/-- The way to the dispatch starts with the cooldown check. -/
theorem SendCall.Move.committed {c : SendCall} {pc pc' : SendPc} (move : Move env w c a pc w' pc')
    (committed : pc'.committed = true) : pc.committed = true ∨ pc = .cooldown := by
  cases move with
  | prepare otpCode expiresAt => exact Or.inr rfl
  | early before after =>
    rcases after with rfl | ⟨key, -, rfl⟩ | ⟨-, rfl⟩ <;> cases committed
  | check before same after =>
    have position : pc'.committed = false := by cases pc' <;> first | rfl | cases after
    rw [position] at committed
    cases committed
  | create | debit | store | setCooldown | enqueue | offline | deliver => exact Or.inl rfl
  | refuse | hit | miss | known | unknown | unpaid | markFailed | saveCache | saveRecord | crash =>
    cases committed
  | markSent d | refund d =>
    rw [c.finish_committed d] at committed
    cases committed

theorem ResendCall.Move.committed {c : ResendCall} {pc pc' : ResendPc} {d : Redispatch}
    (move : Move env w c a pc w' pc') (committed : pc'.committed = some d) :
    pc.committed = some d ∨ ∃ now, pc = .cooldown d.record now := by
  cases move with
  | prepare record now newOtpCode =>
    cases committed
    exact Or.inr ⟨now, rfl⟩
  | debit | update | store | setCooldown | offline => exact Or.inl committed
  | deliver d after =>
    rw [after] at committed
    split at committed <;> cases committed
  | reject | lapse | found | expire | enqueue | markSent | crash => cases committed

theorem Thread.committed_step {t t' : Thread} (resumed : t.resume env w a = some (w', t'))
    (committed : t'.committed phoneNumber = true) :
    t.committed phoneNumber = true ∨ t.passes env phoneNumber w a = true ∧ w' = w := by
  cases t with
  | authenticating request c =>
    simp only [resume] at resumed
    obtain ⟨c', stepped, rfl⟩ := stepped_eq_some resumed
    split at committed
    · unfold handler at committed
      split at committed <;> simp [Thread.committed, SendPc.committed, ResendPc.committed] at committed
    · cases committed
  | send c =>
    obtain ⟨c', stepped, rfl⟩ := stepped_eq_some resumed
    obtain ⟨move, goto⟩ := SendCall.step_move stepped
    have same : c'.body = c.body := by
      rw [goto]
      rfl
    simp only [Thread.committed, same, Bool.and_eq_true] at committed ⊢
    rcases move.committed committed.2 with still | pc
    · exact Or.inl ⟨committed.1, still⟩
    · right
      simp only [SendCall.step, pc] at stepped
      split at stepped <;> cases stepped
      · cases committed.2
      next passed => exact ⟨by simpa [passes, pc, committed.1] using passed, rfl⟩
  | resend c =>
    obtain ⟨c', stepped, rfl⟩ := stepped_eq_some resumed
    simp only [Thread.committed, Option.any_eq_true] at committed ⊢
    obtain ⟨d, there, recipient⟩ := committed
    rcases (ResendCall.step_move stepped).1.committed there with still | ⟨now, pc⟩
    · exact Or.inl ⟨d, still, recipient⟩
    · right
      simp only [ResendCall.step, pc] at stepped
      split at stepped <;> cases stepped
      · cases there
      next passed => exact ⟨by simpa [passes, pc, recipient] using passed, rfl⟩
  | verify | status | dashboard | register | sendOtpJob | webhook =>
    obtain ⟨c', stepped, rfl⟩ := stepped_eq_some resumed
    cases committed

theorem SendCall.Move.handing {c : SendCall} {pc pc' : SendPc} (move : Move env w c a pc w' pc')
    (handing : pc'.handing = true) : pc.handing = true ∨ ∃ d, pc = .setCooldown d := by
  have committed : pc'.committed = true := by
    revert handing
    cases pc' <;> simp [SendPc.handing, SendPc.committed]
  cases move with
  | setCooldown d same => exact Or.inr ⟨d, rfl⟩
  | offline d down => exact Or.inl rfl
  | markSent d | refund d =>
    rw [c.finish_committed d] at committed
    cases committed
  | early before after =>
    rcases after with rfl | ⟨key, -, rfl⟩ | ⟨-, rfl⟩ <;> cases handing
  | check before same after =>
    have position : pc'.handing = false := by cases pc' <;> first | rfl | cases after
    rw [position] at handing
    cases handing
  | enqueue d =>
    rw [c.finish_committed d] at committed
    cases committed
  | deliver d after =>
    rw [after] at handing
    split at handing <;> cases handing
  | prepare | create | debit | store | refuse | hit | miss | known | unknown | unpaid | markFailed
  | saveCache | saveRecord | crash => cases handing

theorem ResendCall.Move.handing {c : ResendCall} {pc pc' : ResendPc} (move : Move env w c a pc w' pc')
    (handing : pc'.handing = true) : pc.handing = true ∨ ∃ d, pc = .setCooldown d := by
  cases move with
  | setCooldown d same => exact Or.inr ⟨d, rfl⟩
  | offline d down => exact Or.inl rfl
  | deliver d after =>
    rw [after] at handing
    split at handing <;> cases handing
  | reject | lapse | found | expire | prepare | debit | update | store | enqueue | markSent
  | crash => cases handing

/-- Right before the message is handed over, the cooldown is set. -/
theorem Thread.handing_step {t t' : Thread} (resumed : t.resume env w a = some (w', t'))
    (handing : t'.handing phoneNumber = true) :
    t.handing phoneNumber = true ∨ t.committed phoneNumber = true ∧ t.awaitsRedis = true ∧
      ∃ process, w' = setPhoneCooldown env w process (hashPhoneNumber env phoneNumber) a.ok := by
  cases t with
  | send c =>
    obtain ⟨c', stepped, rfl⟩ := stepped_eq_some resumed
    obtain ⟨move, goto⟩ := SendCall.step_move stepped
    have same : c'.body = c.body := by
      rw [goto]
      rfl
    simp only [Thread.handing, Thread.committed, same, Bool.and_eq_true, beq_iff_eq] at handing ⊢
    obtain ⟨⟨recipient, -⟩, handing⟩ := handing
    rcases move.handing handing with still | ⟨d, pc⟩
    · have committed : c.pc.committed = true := by
        revert still
        cases c.pc <;> simp [SendPc.handing, SendPc.committed]
      exact Or.inl ⟨⟨recipient, committed⟩, still⟩
    · right
      simp only [SendCall.step, pc] at stepped
      cases stepped
      refine ⟨⟨recipient, by rw [pc]; rfl⟩, by simp only [Thread.awaitsRedis, pc]; rfl, c.process, ?_⟩
      rw [SendCall.phoneHash, recipient]
  | resend c =>
    obtain ⟨c', stepped, rfl⟩ := stepped_eq_some resumed
    have move := (ResendCall.step_move stepped).1
    simp only [Thread.handing, Thread.committed, Bool.and_eq_true, Option.any_eq_true, beq_iff_eq]
      at handing ⊢
    obtain ⟨⟨d, there, recipient⟩, handing⟩ := handing
    have before := move.committed there
    rcases move.handing handing with still | ⟨e, pc⟩
    · refine Or.inl ⟨⟨d, ?_, recipient⟩, still⟩
      rcases before with committed | ⟨now, pc⟩
      · exact committed
      · rw [pc] at still
        cases still
    · right
      simp only [ResendCall.step, pc] at stepped
      cases stepped
      cases there
      refine ⟨⟨d, by rw [pc]; rfl, recipient⟩, by simp only [Thread.awaitsRedis, pc]; rfl, c.process, ?_⟩
      rw [ResendCall.phoneHash, recipient]
  | authenticating request c =>
    simp only [resume] at resumed
    obtain ⟨c', stepped, rfl⟩ := stepped_eq_some resumed
    simp only [Thread.handing, Bool.and_eq_true] at handing
    rcases committed_step (t := .authenticating request c) resumed handing.1 with still | ⟨passed, -⟩
    · cases still
    · cases passed
  | verify | status | dashboard | register | sendOtpJob | webhook =>
    obtain ⟨c', stepped, rfl⟩ := stepped_eq_some resumed
    cases handing

/-- No request starts on its way to a dispatch. -/
theorem Thread.external_uncommitted {event : SystemEvent} {born : List Thread}
    (acted : Thread.external w event = some (w', born)) :
    ∀ t ∈ born, t.committed phoneNumber = false := by
  intro t member
  cases event with
  | tick d =>
    cases acted
    cases member
  | takeSendOtpJob i =>
    simp only [external] at acted
    split at acted <;> cases acted
    cases List.mem_singleton.mp member
    rfl
  | api | dashboard | register | processWebhook =>
    cases acted
    cases List.mem_singleton.mp member
    rfl

/-- Only a tick moves the clock, and no event changes Redis. -/
theorem Thread.external_clock {event : SystemEvent} {born : List Thread}
    (acted : Thread.external w event = some (w', born)) :
    w'.redis = w.redis ∧ (w'.now = w.now ∨ ∃ d, event = .tick d ∧ w'.now = w.now + d) := by
  cases event with
  | tick d =>
    cases acted
    exact ⟨rfl, Or.inr ⟨d, rfl, rfl⟩⟩
  | takeSendOtpJob i =>
    simp only [external] at acted
    split at acted <;> cases acted
    exact ⟨rfl, Or.inl rfl⟩
  | api | dashboard | register | processWebhook =>
    cases acted
    exact ⟨rfl, Or.inl rfl⟩

theorem Thread.passes_check {t : Thread} (passes : t.passes env phoneNumber w a = true) :
    t.awaitsRedis = true ∧ ∃ process,
      checkPhoneCooldown env w process (hashPhoneNumber env phoneNumber) a.ok = false := by
  cases t with
  | send c =>
    simp only [Thread.passes] at passes
    split at passes
    next pc =>
      simp only [Bool.and_eq_true, beq_iff_eq, Bool.not_eq_true', SendCall.phoneHash] at passes
      obtain ⟨rfl, passed⟩ := passes
      exact ⟨by simp only [awaitsRedis, pc]; rfl, c.process, passed⟩
    · cases passes
  | resend c =>
    simp only [Thread.passes] at passes
    split at passes
    next pc =>
      simp only [Bool.and_eq_true, beq_iff_eq, Bool.not_eq_true', ResendCall.phoneHash] at passes
      obtain ⟨rfl, passed⟩ := passes
      exact ⟨by simp only [awaitsRedis, pc]; rfl, c.process, passed⟩
    · cases passes
  | authenticating | verify | status | dashboard | register | sendOtpJob | webhook => cases passes

theorem Thread.committed_of_handing {t : Thread} (handing : t.handing phoneNumber = true) :
    t.committed phoneNumber = true :=
  (Bool.and_eq_true_iff.mp handing).1

end Dispatches

/-! ### The guards -/

/-- The limiter call that the thread is in. -/
def Thread.limiting : Thread → Option LimitCall
  | authenticating _ c =>
    match c.pc with
    | .limit _ call => some call
    | _ => none
  | send c =>
    match c.pc with
    | .limit _ call => some call
    | _ => none
  | verify .. | resend _ | status .. | dashboard _ | register _ | sendOtpJob _ | webhook _ => none

/-- The phone hash whose cooldown the thread sets next. -/
def Thread.cooling (env : Env) : Thread → Option String
  | send c =>
    match c.pc with
    | .setCooldown _ => some (c.phoneHash env)
    | _ => none
  | resend c =>
    match c.pc with
    | .setCooldown d => some (ResendCall.phoneHash env d.record)
    | _ => none
  | authenticating .. | verify .. | status .. | dashboard _ | register _ | sendOtpJob _
  | webhook _ => none

/-- What a step does to the guards that Redis keeps. -/
structure GuardsStep (env : Env) (w : World) (t : Thread) (ok : Bool) (w' : World) : Prop where
  now : w'.now = w.now
  limits : w'.redis.limits = w.redis.limits ∨
    ∃ call, t.limiting = some call ∧ w'.redis.limits = (call.step w ok).1.redis.limits
  cooldown : w'.redis.cooldown = w.redis.cooldown ∨
    ∃ process phoneHash, t.cooling env = some phoneHash ∧
      w'.redis.cooldown = (setPhoneCooldown env w process phoneHash ok).redis.cooldown
  blockedPhones : w'.redis.blockedPhones = w.redis.blockedPhones ∨
    ∃ process phoneHash, w'.redis.blockedPhones =
      (blockPhoneNumber w process phoneHash 3600 ok).redis.blockedPhones

section Guards

variable {env : Env} {w w' : World} {a : Answer} {ok : Bool} {t : Thread}

/-- A thread starts at its first call. -/
theorem Thread.born_unstarted {event : SystemEvent} {born : List Thread}
    (acted : Thread.external w event = some (w', born)) :
    ∀ t ∈ born, t.limiting = none ∧ t.isResend = false ∧ (∀ c, t ≠ .send c) ∧
      ∀ customer c, t ≠ .verify customer c := by
  intro t member
  cases event with
  | tick d =>
    cases acted
    cases member
  | takeSendOtpJob i =>
    simp only [external] at acted
    split at acted <;> cases acted
    cases List.mem_singleton.mp member
    exact ⟨rfl, rfl, fun c h => (by cases h), fun customer c h => (by cases h)⟩
  | api rawApiKey request =>
    cases acted
    cases List.mem_singleton.mp member
    refine ⟨?_, rfl, fun c h => (by cases h), fun customer c h => (by cases h)⟩
    unfold AuthCall.start
    split <;> rfl
  | dashboard | register | processWebhook =>
    cases acted
    cases List.mem_singleton.mp member
    exact ⟨rfl, rfl, fun c h => (by cases h), fun customer c h => (by cases h)⟩

theorem GuardsStep.same (now : w'.now = w.now) (limits : w'.redis.limits = w.redis.limits)
    (cooldown : w'.redis.cooldown = w.redis.cooldown)
    (blockedPhones : w'.redis.blockedPhones = w.redis.blockedPhones) : GuardsStep env w t ok w' :=
  ⟨now, Or.inl limits, Or.inl cooldown, Or.inl blockedPhones⟩

theorem GuardsStep.of_stores (same : SameStores w w') : GuardsStep env w t ok w' :=
  .same same.now (by rw [same.redis]) (by rw [same.redis]) (by rw [same.redis])

theorem GuardsStep.of_storeOtp {process : ℕ} {key : OtpKey} {data : StoredOtp} {ttlSeconds : ℚ} :
    GuardsStep env w t ok (storeOtp w process key data ttlSeconds ok) := by
  unfold storeOtp
  split <;> exact .same rfl rfl rfl rfl

theorem LimitCall.step_others (call : LimitCall) :
    (call.step w ok).1.redis.cooldown = w.redis.cooldown ∧
      (call.step w ok).1.redis.blockedPhones = w.redis.blockedPhones := by
  cases command : call.command with
  | zremrangebyscore | zadd =>
    cases ok <;> simp only [LimitCall.step, command] <;> exact ⟨rfl, rfl⟩
  | zcard =>
    simp only [LimitCall.step, command]
    exact ⟨trivial, trivial⟩
  | expire count =>
    cases ok <;> cases count <;> simp only [LimitCall.step, command] <;> exact ⟨rfl, rfl⟩

theorem GuardsStep.of_limit {call : LimitCall} (limiting : t.limiting = some call) :
    GuardsStep env w t ok (call.step w ok).1 :=
  ⟨call.step_sameCore.now, Or.inr ⟨call, limiting, rfl⟩, Or.inl call.step_others.1,
    Or.inl call.step_others.2⟩

theorem AuthCall.step_guards {request : ApiRequest} {c c' : AuthCall}
    (h : c.step env w ok = some (w', c')) : GuardsStep env w (.authenticating request c) ok w' := by
  cases pc : c.pc with
  | findKey =>
    simp only [step, pc] at h
    split at h
    · split at h
      · cases h
        exact .same rfl rfl rfl rfl
      · split at h <;> cases h <;> exact .same rfl rfl rfl rfl
    · cases h
      exact .same rfl rfl rfl rfl
  | limit s call =>
    have guards : GuardsStep env w (.authenticating request c) ok (call.step w ok).1 :=
      .of_limit (by simp only [Thread.limiting, pc])
    simp only [step, pc] at h
    split at h
    · cases h
      exact guards
    · split at h <;> cases h <;> exact guards
  | authenticated | rejected | internalError => simp [step, pc] at h

theorem SendCall.step_guards {c c' : SendCall} (h : c.step env w a = some (w', c')) :
    GuardsStep env w (.send c) a.ok w' := by
  cases pc : c.pc with
  | limit limit call =>
    have guards : GuardsStep env w (.send c) a.ok (call.step w a.ok).1 :=
      .of_limit (by simp only [Thread.limiting, pc])
    simp only [step, pc] at h
    split at h
    · cases h
      exact guards
    · split at h <;> cases h <;> exact guards
  | store d =>
    simp only [step, pc] at h
    cases h
    exact .of_storeOtp
  | setCooldown d =>
    simp only [step, pc] at h
    cases h
    refine ⟨(setPhoneCooldown_sameCore ..).now, Or.inl ?_, Or.inr ⟨c.process, _, ?_, rfl⟩, Or.inl ?_⟩
    · unfold setPhoneCooldown
      split <;> rfl
    · simp only [Thread.cooling, pc]
    · unfold setPhoneCooldown
      split <;> rfl
  | phoneBlocked =>
    simp only [step, pc] at h
    split at h
    · cases h
      exact .same rfl rfl rfl rfl
    · split at h <;> cases h <;> exact .same rfl rfl rfl rfl
  | debit d =>
    simp only [step, pc] at h
    split at h
    · split at h <;> cases h <;> exact .same rfl rfl rfl rfl
    · cases h
      exact .same rfl rfl rfl rfl
  | fallback d | fallbackRefund d reason =>
    simp only [step, pc] at h
    split at h
    · split at h <;> cases h <;> exact .same rfl rfl rfl rfl
    · cases h
      exact .same rfl rfl rfl rfl
  | customerBlocked | idempotencyCache | idempotencyRecord | cooldown | create | enqueue
  | fallbackSent | fallbackFailed =>
    simp only [step, pc] at h
    split at h <;> cases h <;> exact .same rfl rfl rfl rfl
  | saveCache d key =>
    simp only [step, pc] at h
    cases h
    unfold cacheResponse
    dsimp only
    split <;> exact .same rfl rfl rfl rfl
  | saveRecord d key =>
    simp only [step, pc] at h
    cases h
    unfold recordResponse
    split <;> exact .same rfl rfl rfl rfl
  | replied | rejected | internalError => simp [step, pc] at h

theorem ResendCall.step_guards {c c' : ResendCall} (h : c.step env w a = some (w', c')) :
    GuardsStep env w (.resend c) a.ok w' := by
  cases pc : c.pc with
  | findRecord =>
    simp only [step, pc] at h
    split at h
    · split at h
      · cases h
        exact .same rfl rfl rfl rfl
      · split at h
        · cases h
          exact .same rfl rfl rfl rfl
        · split at h <;> cases h <;> exact .same rfl rfl rfl rfl
    · cases h
      exact .same rfl rfl rfl rfl
  | debit d | fallback d =>
    simp only [step, pc] at h
    split at h
    · split at h <;> cases h <;> exact .same rfl rfl rfl rfl
    · cases h
      exact .same rfl rfl rfl rfl
  | store d =>
    simp only [step, pc] at h
    cases h
    exact .of_storeOtp
  | setCooldown d =>
    simp only [step, pc] at h
    cases h
    refine ⟨(setPhoneCooldown_sameCore ..).now, Or.inl ?_, Or.inr ⟨c.process, _, ?_, rfl⟩, Or.inl ?_⟩
    · unfold setPhoneCooldown
      split <;> rfl
    · simp only [Thread.cooling, pc]
    · unfold setPhoneCooldown
      split <;> rfl
  | expire | cooldown | update | enqueue | fallbackSent =>
    simp only [step, pc] at h
    split at h <;> cases h <;> exact .same rfl rfl rfl rfl
  | replied | rejected | internalError => simp [step, pc] at h

theorem VerifyCall.step_guards {customer : Customer} {c c' : VerifyCall}
    (h : c.step env w ok = some (w', c')) : GuardsStep env w (.verify customer c) ok w' := by
  have now := (step_move h).2.2
  cases pc : c.pc with
  | findRecord f =>
    simp only [step, pc] at h
    split at h
    · split at h <;> cases h
      · exact .same rfl rfl rfl rfl
      -- a wrong attempt is counted in the object that was fetched
      · exact .same now (by rw [mutate_redis]) (by rw [mutate_redis]) (by rw [mutate_redis])
    · cases h
      exact .same rfl rfl rfl rfl
  -- the only block that is set
  | maxBlock f =>
    simp only [step, pc] at h
    cases h
    refine ⟨now, Or.inl ?_, Or.inl ?_, Or.inr ⟨c.process, c.phoneHash env, rfl⟩⟩
    · unfold blockPhoneNumber
      split <;> rfl
    · unfold blockPhoneNumber
      split <;> rfl
  | maxDelete f =>
    simp only [step, pc] at h
    cases h
    cases ok <;> exact .same rfl rfl rfl rfl
  | delete f record =>
    simp only [step, pc] at h
    cases record <;> cases h <;> cases ok <;> exact .same rfl rfl rfl rfl
  | lookup | incorrectAttempts | incorrectVerification | maxStatus | ttl | writeBack
  | verifiedStatus | correctVerification =>
    simp only [step, pc] at h
    split at h <;> cases h <;> exact .same rfl rfl rfl rfl
  | verified | rejected | internalError => simp [step, pc] at h

/-- The guards change only through the calls that are there for it. -/
theorem Thread.resume_guards {t' : Thread} (h : t.resume env w a = some (w', t')) :
    GuardsStep env w t a.ok w' := by
  cases t with
  | authenticating request c =>
    simp only [resume] at h
    obtain ⟨c', stepped, -⟩ := stepped_eq_some h
    exact AuthCall.step_guards stepped
  | send c =>
    obtain ⟨c', stepped, -⟩ := stepped_eq_some h
    exact SendCall.step_guards stepped
  | verify customer c =>
    obtain ⟨c', stepped, -⟩ := stepped_eq_some h
    exact VerifyCall.step_guards stepped
  | resend c =>
    obtain ⟨c', stepped, -⟩ := stepped_eq_some h
    exact ResendCall.step_guards stepped
  | status customer c =>
    obtain ⟨c', stepped, -⟩ := stepped_eq_some h
    exact .of_stores (StatusCall.step_sameStores stepped)
  | dashboard c =>
    obtain ⟨c', stepped, -⟩ := stepped_eq_some h
    have same := DashboardCall.step_sameRequests stepped
    exact .of_stores ⟨same.redis, same.memory, same.otpQueue, same.now⟩
  | register c =>
    obtain ⟨c', stepped, -⟩ := stepped_eq_some h
    have same := RegisterCall.step_sameRequests stepped
    exact .of_stores ⟨same.redis, same.memory, same.otpQueue, same.now⟩
  | sendOtpJob c =>
    obtain ⟨c', stepped, -⟩ := stepped_eq_some h
    exact .of_stores (JobCall.step_sameStores stepped)
  | webhook c =>
    obtain ⟨c', stepped, -⟩ := stepped_eq_some h
    exact .of_stores (WebhookCall.step_sameStores stepped)

end Guards

end SelfOtp
