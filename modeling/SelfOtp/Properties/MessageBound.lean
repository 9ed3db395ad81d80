import SelfOtp.Properties.MessageMoves
import SelfOtp.Properties.Reconciliation

/-! How many messages a customer's debits can lead to: each of them pays for the attempts of one job. -/
namespace SelfOtp

open Pool Transition WalletService

namespace MessageBound

open JobCall (ledger)

/-! ### The measures -/

def debits (w : World) (customerId : Id) : ℕ :=
  (ledger w customerId).countP (·.transactionType == .debit)

def messages (w : World) (customerId : Id) : ℕ := w.db.messages.countP (·.customerId == customerId)

def queued (w : World) (customerId : Id) : ℕ := w.otpQueue.countP (·.data.customerId == customerId)

/-- How many messages the job may still enter. -/
def remaining (c : JobCall) : ℕ :=
  match c.pc with
  | .send | .createMessage _ => c.job.attempts - c.attemptsMade
  | .createEvent .. | .markSent | .markFailed _ | .refund _ | .deadLetter _ | .exhaustedMark _
  | .exhaustedRefund _ | .exhaustedDeadLetter _ => c.job.attempts - (c.attemptsMade + 1)
  | .completed _ | .failed => 0

/-- Between the debit and the queue. -/
def SendPc.funded : SendPc → Bool
  | .store _ | .setCooldown _ | .enqueue _ => true
  | _ => false

def ResendPc.funded : ResendPc → Bool
  | .update _ | .store _ | .setCooldown _ | .enqueue _ => true
  | _ => false

/-- The messages that a thread may still enter or have entered for the customer. -/
def allowance (customerId : Id) : Thread → ℕ
  | .send c => if SendPc.funded c.pc && c.customer.id == customerId then 3 else 0
  | .resend c => if ResendPc.funded c.pc && c.customer.id == customerId then 3 else 0
  | .sendOtpJob c => if c.job.data.customerId = customerId then remaining c else 0
  | _ => 0

/-- A job has three attempts, and one is left while it runs. -/
def Attempting (c : JobCall) : Prop :=
  c.job.attempts = 3 ∧ match c.pc with
    | .send | .createMessage _ => c.attemptsMade < c.job.attempts
    | _ => True

def Sound : Thread → Prop
  | .sendOtpJob c => Attempting c
  | _ => True

/-! ### What a step does to them -/

section Steps

variable {env : Env} {w w' : World} {a : Answer} {ok : Bool} {customerId : Id}

/-- A step leaves at least as much unused as before, counting three messages for a debit. -/
def Balances (customerId : Id) (w w' : World) (before after : ℕ) : Prop :=
  messages w' customerId + 3 * queued w' customerId + after + 3 * debits w customerId ≤
    messages w customerId + 3 * queued w customerId + before + 3 * debits w' customerId

theorem Balances.same {before after : ℕ} (rows : w'.db.messages = w.db.messages)
    (queue : w'.otpQueue = w.otpQueue) (debited : debits w customerId ≤ debits w' customerId)
    (le : after ≤ before) : Balances customerId w w' before after := by
  simp only [Balances, messages, queued, rows, queue]
  omega

theorem posted_debits {wallet wallet' : Wallet} {call : WalletCall} {balance : ℚ}
    (returned : call.result resolves (some wallet) = .ok (balance, wallet')) :
    wallet.transactions.countP (·.transactionType == .debit) ≤
      wallet'.transactions.countP (·.transactionType == .debit) := by
  rcases result_appends returned with ⟨-, appended⟩ | ⟨-, rfl⟩
  · rw [appended, List.countP_append]
    exact Nat.le_add_right _ _
  · exact le_refl _

/-- No step takes a debit back. -/
theorem WalletsStep.debits_le {charge : Option (Id × WalletCall)} (step : WalletsStep w w' charge)
    (customerId : Id) : debits w customerId ≤ debits w' customerId := by
  simp only [debits, ledger]
  cases step with
  | same wallets => rw [wallets]
  | opened owner wallets =>
    rw [wallets, Function.update_apply]
    split
    next same =>
      subst same
      exact le_refl _
    · exact le_refl _
  | posted owner call charged balance wallet returned wallets =>
    rw [wallets, Function.update_apply]
    split
    next same =>
      subst same
      cases existing : w.db.wallets customerId with
      | some old =>
        rw [existing] at returned
        exact posted_debits returned
      | none =>
        rw [existing, ← result_opened] at returned
        exact posted_debits returned
    · exact le_refl _

theorem debits_deduct {cost balance : ℚ} {wallet : Wallet} {kind reference : String}
    (paid : deductCreditsAtomic resolves (w.db.wallets customerId) cost kind reference = .ok (balance, wallet)) :
    debits (w.mapDb (·.setWallet customerId wallet)) customerId = debits w customerId + 1 := by
  obtain rfl := deductCreditsAtomic_ok paid
  simp [debits, ledger, World.mapDb, Database.setWallet, getOrCreateWallet, Wallet.enter]

/-- A new job takes up what its thread was allowed. -/
theorem Balances.enqueue {data : SendOtpJobData} (owner : Id) (of_owner : data.customerId = owner) :
    Balances customerId w (addSendOtpJob w data) (if owner = customerId then 3 else 0) 0 := by
  have count : queued (addSendOtpJob w data) customerId =
      queued w customerId + if owner = customerId then 1 else 0 := by
    simp only [queued, addSendOtpJob, List.countP_append, List.countP_singleton, of_owner, beq_iff_eq]
  have same : messages (addSendOtpJob w data) customerId = messages w customerId := rfl
  have ledger_same : debits (addSendOtpJob w data) customerId = debits w customerId := rfl
  simp only [Balances, count, same, ledger_same]
  split <;> omega

theorem finish_unfunded (c : SendCall) (d : Dispatch) : SendPc.funded (c.finish env d) = false := by
  unfold SendCall.finish
  split <;> rfl

theorem send_allowance {c c' : SendCall} (same : c' = c.goto c'.pc) (customerId : Id) :
    allowance customerId (.send c') = if SendPc.funded c'.pc && c.customer.id == customerId then 3 else 0 := by
  rw [same]
  rfl

theorem send_balances {c c' : SendCall} (h : c.step env w a = some (w', c')) :
    Balances customerId w w' (allowance customerId (.send c)) (allowance customerId (.send c')) := by
  have rows := (SendCall.step_sameMessages h).messages
  have debited := WalletsStep.debits_le (SendCall.step_wallets h) customerId
  obtain ⟨move, same⟩ := SendCall.step_move h
  rw [send_allowance same, allowance]
  generalize c.pc = pc at move
  generalize c'.pc = pc' at move
  cases move with
  | debit d balance wallet paid =>
    by_cases owner : c.customer.id = customerId
    · subst owner
      have count := debits_deduct paid
      simp only [SendPc.funded, Bool.false_and, Bool.false_eq_true, if_false, Bool.true_and,
        beq_self_eq_true, if_true]
      simp only [Balances, count]
      have queue : queued (w.mapDb (·.setWallet c.customer.id wallet)) c.customer.id =
        queued w c.customer.id := rfl
      have unmoved : messages (w.mapDb (·.setWallet c.customer.id wallet)) c.customer.id =
        messages w c.customer.id := rfl
      omega
    · exact .same rows rfl debited (by simp [SendPc.funded, owner])
  | enqueue d =>
    rw [finish_unfunded]
    have balanced : Balances customerId w (addSendOtpJob w (c.job env d))
        (if c.customer.id = customerId then 3 else 0) 0 := .enqueue c.customer.id rfl
    simpa [SendPc.funded] using balanced
  | store d =>
    refine .same rows ?_ debited (le_refl _)
    unfold storeOtp
    split <;> rfl
  | setCooldown d core => exact .same rows core.otpQueue debited (le_refl _)
  | refuse before core error => exact .same rows core.otpQueue debited (Nat.zero_le _)
  | check before core after =>
    refine .same rows core.otpQueue debited ?_
    cases pc' <;> first | exact Nat.zero_le _ | cases after
  | early before after =>
    obtain rfl | ⟨key, -, rfl⟩ | ⟨-, rfl⟩ := after <;> exact .same rows rfl debited (Nat.zero_le _)
  | deliver d after =>
    subst after
    refine .same rows rfl debited ?_
    split <;> exact Nat.zero_le _
  | markSent d | refund d =>
    rw [finish_unfunded]
    exact .same rows rfl debited (Nat.zero_le _)
  | saveCache d key =>
    refine .same rows ?_ debited (Nat.zero_le _)
    unfold cacheResponse
    dsimp only
    split <;> rfl
  | saveRecord d key =>
    refine .same rows ?_ debited (Nat.zero_le _)
    unfold recordResponse
    split <;> rfl
  | hit | miss | known | unknown | prepare | create | unpaid | offline | markFailed | crash =>
    exact .same rows rfl debited (Nat.zero_le _)

theorem resend_balances {c c' : ResendCall} (h : c.step env w a = some (w', c')) :
    Balances customerId w w' (allowance customerId (.resend c)) (allowance customerId (.resend c')) := by
  have rows := (ResendCall.step_sameMessages h).messages
  have debited := WalletsStep.debits_le (ResendCall.step_wallets h) customerId
  obtain ⟨move, same⟩ := ResendCall.step_move h
  have after : allowance customerId (.resend c') =
      if ResendPc.funded c'.pc && c.customer.id == customerId then 3 else 0 := by
    rw [same]
    rfl
  rw [after, allowance]
  clear after
  generalize c.pc = pc at move
  generalize c'.pc = pc' at move
  cases move with
  | debit d balance wallet paid =>
    by_cases owner : c.customer.id = customerId
    · subst owner
      have count := debits_deduct paid
      simp only [ResendPc.funded, Bool.false_and, Bool.false_eq_true, if_false, Bool.true_and,
        beq_self_eq_true, if_true]
      simp only [Balances, count]
      have queue : queued (w.mapDb (·.setWallet c.customer.id wallet)) c.customer.id =
        queued w c.customer.id := rfl
      have unmoved : messages (w.mapDb (·.setWallet c.customer.id wallet)) c.customer.id =
        messages w c.customer.id := rfl
      omega
    · exact .same rows rfl debited (by simp [ResendPc.funded, owner])
  | enqueue d =>
    have balanced : Balances customerId w (addSendOtpJob w (c.job env d))
        (if c.customer.id = customerId then 3 else 0) 0 := .enqueue c.customer.id rfl
    simpa [ResendPc.funded] using balanced
  | store d =>
    refine .same rows ?_ debited (le_refl _)
    unfold storeOtp
    split <;> rfl
  | setCooldown d core => exact .same rows core.otpQueue debited (le_refl _)
  | update d => exact .same rows rfl debited (le_refl _)
  | deliver d after =>
    subst after
    refine .same rows rfl debited ?_
    split <;> exact Nat.zero_le _
  | reject | lapse | found | expire | prepare | offline | markSent | crash =>
    exact .same rows rfl debited (Nat.zero_le _)

theorem rethrow_attempting {c : JobCall} (attempts : c.job.attempts = 3) : Attempting c.rethrow := by
  refine ⟨attempts, ?_⟩
  unfold JobCall.rethrow
  by_cases more : c.attemptsMade + 1 < c.job.attempts
  · simp only [more, if_true]
  · simp only [more, if_false]

theorem threw_attempting {c : JobCall} (attempts : c.job.attempts = 3) (error : String) :
    Attempting (c.threw error) := by
  unfold JobCall.threw
  split
  · exact ⟨attempts, trivial⟩
  · exact rethrow_attempting attempts

theorem rethrow_remaining (c : JobCall) : remaining c.rethrow ≤ c.job.attempts - (c.attemptsMade + 1) := by
  unfold JobCall.rethrow remaining
  by_cases more : c.attemptsMade + 1 < c.job.attempts
  · simp only [more, if_true, le_refl]
  · simp only [more, if_false, Nat.zero_le]

theorem threw_remaining (c : JobCall) (error : String) :
    remaining (c.threw error) ≤ c.job.attempts - (c.attemptsMade + 1) := by
  unfold JobCall.threw
  split
  · exact le_refl _
  · exact rethrow_remaining c

theorem Balances.refunded {c : JobCall} {reason : String} {before after : ℕ}
    (granted : JobCall.refunded w c reason = .ok w') (le : after ≤ before) :
    Balances customerId w w' before after :=
  .same (SameMessages.refunded granted).messages (JobCall.refunded_sameStores granted).otpQueue
    (WalletsStep.debits_le (JobCall.refunded_wallets granted) customerId) le

/-- A job enters at most one message in each attempt. -/
theorem job_balances {c c' : JobCall} (env : Env) (attempting : Attempting c)
    (h : c.step w a = some (w', c')) :
    Attempting c' ∧ Balances customerId w w' (allowance customerId (.sendOtpJob c))
      (allowance customerId (.sendOtpJob c')) := by
  obtain ⟨attempts, left⟩ := attempting
  have job := JobCall.step_job h
  have posted : WalletsStep w w' ((Thread.sendOtpJob c).walletCall env) := JobCall.step_wallets h
  have debited := WalletsStep.debits_le posted customerId
  have queue := (JobCall.step_sameStores h).otpQueue
  simp only [allowance, job]
  have weaken (le : remaining c' ≤ remaining c) (rows : w'.db.messages = w.db.messages) :
      Balances customerId w w' (if c.job.data.customerId = customerId then remaining c else 0)
        (if c.job.data.customerId = customerId then remaining c' else 0) := by
    refine .same rows queue debited ?_
    split
    · exact le
    · exact le_refl _
  cases pc : c.pc with
  | send =>
    have before : remaining c = c.job.attempts - c.attemptsMade := by simp only [remaining, pc]
    simp only [JobCall.step, pc] at h
    simp only [pc] at left
    split at h <;> cases h
    · exact ⟨⟨attempts, left⟩, weaken (by rw [before]; exact le_refl _) rfl⟩
    · refine ⟨threw_attempting attempts _, weaken ?_ rfl⟩
      have bound := threw_remaining c a.error
      omega
  | createMessage res =>
    have before : remaining c = c.job.attempts - c.attemptsMade := by simp only [remaining, pc]
    simp only [JobCall.step, pc] at h
    simp only [pc] at left
    split at h <;> cases h
    · refine ⟨⟨attempts, trivial⟩, ?_⟩
      have after : remaining (c.goto (.createEvent res w.nextId)) = c.job.attempts - (c.attemptsMade + 1) := rfl
      rw [before, after]
      have ledger_same : debits { w with
          db := { w.db with messages := w.db.messages ++ [c.message w res] }
          nextId := w.nextId + 1 } customerId = debits w customerId := rfl
      rw [Balances, ledger_same]
      simp only [messages, queued, List.countP_append, List.countP_singleton, JobCall.message, beq_iff_eq]
      split <;> omega
    · refine ⟨threw_attempting attempts _, weaken ?_ rfl⟩
      have bound := threw_remaining c a.error
      omega
  | createEvent res message =>
    have before : remaining c = c.job.attempts - (c.attemptsMade + 1) := by simp only [remaining, pc]
    have raised (error : String) : remaining (c.threw error) ≤ remaining c :=
      (threw_remaining c error).trans before.ge
    simp only [JobCall.step, pc] at h
    split at h
    · split at h
      · cases h
        exact ⟨⟨attempts, trivial⟩, weaken before.ge rfl⟩
      · split at h <;> cases h
        · exact ⟨threw_attempting attempts _, weaken (raised _) rfl⟩
        · exact ⟨⟨attempts, trivial⟩, weaken before.ge rfl⟩
    · cases h
      exact ⟨threw_attempting attempts _, weaken (raised _) rfl⟩
  | markSent | deadLetter =>
    have before : remaining c = c.job.attempts - (c.attemptsMade + 1) := by simp only [remaining, pc]
    simp only [JobCall.step, pc] at h
    split at h <;> cases h
    · exact ⟨⟨attempts, trivial⟩, weaken (Nat.zero_le _) rfl⟩
    · exact ⟨threw_attempting attempts _, weaken ((threw_remaining c _).trans before.ge) rfl⟩
  | markFailed res =>
    have before : remaining c = c.job.attempts - (c.attemptsMade + 1) := by simp only [remaining, pc]
    simp only [JobCall.step, pc] at h
    split at h <;> cases h
    · exact ⟨⟨attempts, trivial⟩, weaken before.ge rfl⟩
    · exact ⟨threw_attempting attempts _, weaken ((threw_remaining c _).trans before.ge) rfl⟩
  | refund res =>
    have before : remaining c = c.job.attempts - (c.attemptsMade + 1) := by simp only [remaining, pc]
    simp only [JobCall.step, pc] at h
    split at h
    · split at h <;> cases h
      next granted =>
        exact ⟨⟨attempts, trivial⟩, weaken before.ge (SameMessages.refunded granted).messages⟩
      · exact ⟨threw_attempting attempts _, weaken ((threw_remaining c _).trans before.ge) rfl⟩
    · cases h
      exact ⟨threw_attempting attempts _, weaken ((threw_remaining c _).trans before.ge) rfl⟩
  | exhaustedMark error =>
    have before : remaining c = c.job.attempts - (c.attemptsMade + 1) := by simp only [remaining, pc]
    simp only [JobCall.step, pc] at h
    cases h
    exact ⟨⟨attempts, trivial⟩, weaken before.ge (by split <;> rfl)⟩
  | exhaustedRefund error =>
    have before : remaining c = c.job.attempts - (c.attemptsMade + 1) := by simp only [remaining, pc]
    simp only [JobCall.step, pc] at h
    cases h
    refine ⟨⟨attempts, trivial⟩, weaken before.ge ?_⟩
    split
    · split
      next granted => exact (SameMessages.refunded granted).messages
      · rfl
    · rfl
  | exhaustedDeadLetter error =>
    have before : remaining c = c.job.attempts - (c.attemptsMade + 1) := by simp only [remaining, pc]
    simp only [JobCall.step, pc] at h
    cases h
    exact ⟨rethrow_attempting attempts, weaken ((rethrow_remaining c).trans before.ge) (by split <;> rfl)⟩
  | completed | failed => simp [JobCall.step, pc] at h

theorem webhook_messages {c c' : WebhookCall} (h : c.step w ok = some (w', c')) (customerId : Id) :
    messages w' customerId = messages w customerId := by
  cases pc : c.pc with
  | updateMessage m =>
    simp only [WebhookCall.step, pc] at h
    split at h <;> cases h
    · simp only [messages, World.mapDb, List.countP_map]
      apply List.countP_congr
      intro r _
      simp only [Function.comp_apply]
      split <;> rfl
    · rfl
  | findMessage | findEvent m =>
    simp only [WebhookCall.step, pc] at h
    split at h
    · split at h <;> cases h <;> rfl
    · cases h
      rfl
  | findOtpRequest record =>
    simp only [WebhookCall.step, pc] at h
    split at h
    · split at h
      · split at h
        · cases h
          rfl
        · split at h <;> cases h <;> rfl
      · cases h
        rfl
    · cases h
      rfl
  | createEvent | updateOtpRequest =>
    simp only [WebhookCall.step, pc] at h
    split at h <;> cases h <;> rfl
  | markProcessed =>
    simp only [WebhookCall.step, pc] at h
    cases h
    split <;> rfl
  | finished | threw => simp [WebhookCall.step, pc] at h

theorem handler_allowance (s : Session) (request : ApiRequest) :
    allowance customerId (Thread.handler s request) = 0 := by
  unfold Thread.handler
  split <;> rfl

/-- A step of any thread balances. -/
theorem resume_balances {t t' : Thread} (sound : Sound t) (h : Thread.resume env w t a = some (w', t'))
    (customerId : Id) :
    Sound t' ∧ Balances customerId w w' (allowance customerId t) (allowance customerId t') := by
  have debited := WalletsStep.debits_le (Thread.resume_wallets h) customerId
  cases t with
  | authenticating request c =>
    simp only [Thread.resume] at h
    obtain ⟨c', stepped, rfl⟩ := Thread.stepped_eq_some h
    have core := (AuthCall.step_session stepped).1
    split
    · refine ⟨?_, .same (by rw [core.db]) core.otpQueue debited ?_⟩
      · unfold Thread.handler
        split <;> exact trivial
      · rw [handler_allowance]
        exact Nat.zero_le _
    · exact ⟨trivial, .same (by rw [core.db]) core.otpQueue debited (Nat.zero_le _)⟩
  | send c =>
    obtain ⟨c', stepped, rfl⟩ := Thread.stepped_eq_some h
    exact ⟨trivial, send_balances stepped⟩
  | verify customer c =>
    obtain ⟨c', stepped, rfl⟩ := Thread.stepped_eq_some h
    exact ⟨trivial, .same (VerifyCall.step_sameMessages stepped).messages (VerifyCall.step_queue stepped)
      debited (le_refl _)⟩
  | resend c =>
    obtain ⟨c', stepped, rfl⟩ := Thread.stepped_eq_some h
    exact ⟨trivial, resend_balances stepped⟩
  | status customer c =>
    obtain ⟨c', stepped, rfl⟩ := Thread.stepped_eq_some h
    exact ⟨trivial, .same (StatusCall.step_sameMessages stepped).messages
      (StatusCall.step_sameStores stepped).otpQueue debited (le_refl _)⟩
  | dashboard c =>
    obtain ⟨c', stepped, rfl⟩ := Thread.stepped_eq_some h
    exact ⟨trivial, .same (DashboardCall.step_sameMessages stepped).messages
      (DashboardCall.step_sameRequests stepped).otpQueue debited (le_refl _)⟩
  | register c =>
    obtain ⟨c', stepped, rfl⟩ := Thread.stepped_eq_some h
    exact ⟨trivial, .same (RegisterCall.step_sameMessages stepped).messages
      (RegisterCall.step_sameRequests stepped).otpQueue debited (le_refl _)⟩
  | sendOtpJob c =>
    obtain ⟨c', stepped, rfl⟩ := Thread.stepped_eq_some h
    exact job_balances env sound stepped
  | webhook c =>
    obtain ⟨c', stepped, rfl⟩ := Thread.stepped_eq_some h
    refine ⟨trivial, ?_⟩
    simp only [Balances, webhook_messages stepped, queued, (WebhookCall.step_sameStores stepped).otpQueue,
      allowance]
    omega

end Steps

/-! ### The system -/

variable {env : Env} {p q : System}

/-- What is spoken for: the messages, those that the queue may lead to, and those of the threads. -/
def spoken (p : System) (customerId : Id) : ℕ :=
  messages p.shared customerId + 3 * queued p.shared customerId + total (allowance customerId) p.threads

structure Bounded (p : System) : Prop where
  sound : ∀ t ∈ p.threads, Sound t
  queue : ∀ job ∈ p.shared.otpQueue, job.attempts = 3
  spoken : ∀ customerId, spoken p customerId ≤ 3 * debits p.shared customerId

theorem queued_eraseIdx {w : World} {i : ℕ} {job : SendOtpJob} (there : w.otpQueue[i]? = some job)
    (customerId : Id) :
    queued { w with otpQueue := w.otpQueue.eraseIdx i } customerId +
      (if job.data.customerId = customerId then 1 else 0) = queued w customerId := by
  obtain ⟨inside, rfl⟩ := List.getElem?_eq_some_iff.mp there
  have taken := (List.getElem_cons_eraseIdx_perm inside).countP_eq (·.data.customerId == customerId)
  rw [List.countP_cons] at taken
  simp only [queued, ← taken, beq_iff_eq]

/-- A job that is taken may enter as many messages as it stood for in the queue. -/
theorem external_balances {w w' : World} {event : SystemEvent} {born : List Thread}
    (attempts : ∀ job ∈ w.otpQueue, job.attempts = 3) (acted : Thread.external w event = some (w', born)) :
    (∀ t ∈ born, Sound t) ∧ ∀ customerId,
      3 * queued w' customerId + total (allowance customerId) born = 3 * queued w customerId := by
  cases event with
  | takeSendOtpJob i =>
    simp only [Thread.external] at acted
    split at acted <;> cases acted
    next job there =>
      have three := attempts job (List.mem_of_getElem? there)
      refine ⟨fun t member => ?_, fun customerId => ?_⟩
      · rw [List.mem_singleton.mp member]
        exact ⟨three, by rw [JobCall.start, three]; exact Nat.zero_lt_succ 2⟩
      · have moved := queued_eraseIdx there customerId
        have left : remaining (.start job) = 3 := by simp only [remaining, JobCall.start, three]
        have own : (JobCall.start job).job = job := rfl
        simp only [total_cons, total_nil, allowance, left, own]
        by_cases owner : job.data.customerId = customerId
        · rw [if_pos owner] at moved ⊢
          omega
        · rw [if_neg owner] at moved ⊢
          omega
  | tick d =>
    cases acted
    exact ⟨fun t member => (by cases member), fun _ => rfl⟩
  | api | dashboard | register | processWebhook =>
    cases acted
    refine ⟨fun t member => ?_, fun _ => rfl⟩
    rw [List.mem_singleton.mp member]
    exact trivial

theorem Bounded.step (bounded : Bounded p) {l : SystemLabel}
    (taken : Pool.step (systemProgram env) p l = some q) : Bounded q := by
  cases l with
  | resume i a =>
    obtain ⟨t, w', t', found, resumed, rfl⟩ := step_resume taken
    have sound := bounded.sound t (List.mem_of_getElem? found)
    refine ⟨fun u member => ?_, fun job member => ?_, fun customerId => ?_⟩
    · rcases mem_set_cases member with rfl | ⟨j, -, other⟩
      · exact (resume_balances sound resumed 0).1
      · exact bounded.sound u (List.mem_of_getElem? other)
    · rcases Thread.resume_queue resumed with same | ⟨data, -, appended⟩
      · exact bounded.queue job (same ▸ member)
      · simp only [appended] at member
        rcases List.mem_append.mp member with old | new
        · exact bounded.queue job old
        · rw [List.mem_singleton.mp new]
    · have balanced := (resume_balances sound resumed customerId).2
      have moved := total_set (m := allowance customerId) found t'
      have before := bounded.spoken customerId
      simp only [Balances, MessageBound.spoken] at balanced before ⊢
      omega
  | external event =>
    obtain ⟨w', born, acted, rfl⟩ := step_external taken
    have same : External env p.shared w' born := Thread.external_cases acted
    obtain ⟨sound, balanced⟩ := external_balances bounded.queue acted
    refine ⟨fun t member => ?_, fun job member => bounded.queue job (same.queue job member),
      fun customerId => ?_⟩
    · exact (List.mem_append.mp member).elim (bounded.sound t) (sound t)
    · have before := bounded.spoken customerId
      have moved := balanced customerId
      simp only [MessageBound.spoken, messages, debits, ledger, total_append, same.db] at before ⊢
      omega

theorem Bounded.run (bounded : Bounded p) {es : List SystemLabel}
    (ran : Transition.run (Pool.step (systemProgram env)) p es = some q) : Bounded q :=
  run_invariant Bounded (fun _ _ _ bounded taken => bounded.step taken) bounded ran

end MessageBound

open MessageBound

/-- Whatever is interleaved, retried or lost, a customer's debits pay for three messages each: the
jobs that still wait have theirs set apart. -/
theorem messages_paid {env : Env} {p q : System} {es : List SystemLabel} (idle : p.threads = [])
    (unqueued : p.shared.otpQueue = []) (unsent : p.shared.db.messages = [])
    (ran : Transition.run (Pool.step (systemProgram env)) p es = some q) (customerId : Id) :
    messages q.shared customerId + 3 * queued q.shared customerId ≤ 3 * debits q.shared customerId := by
  have start : Bounded p := by
    refine ⟨?_, ?_, fun customerId => ?_⟩
    · rw [idle]
      exact fun t member => (by cases member)
    · rw [unqueued]
      exact fun job member => (by cases member)
    · simp only [spoken, messages, queued, idle, unqueued, unsent]
      exact Nat.zero_le _
  have bounded := (start.run ran).spoken customerId
  simp only [spoken] at bounded
  omega

/-- The provider's failures of a send are temporary, but for the last: each attempt enters a message. -/
def threeAttempts : List SystemLabel :=
  Billing.sampleSend "+4915112345678" 7 0 ++
    (Pool.Label.resume 1 ⟨true, "", ⟨false, none, true, none⟩⟩ :: resolve 1 2) ++
    (Pool.Label.resume 1 ⟨true, "", ⟨false, none, true, none⟩⟩ :: resolve 1 2) ++
    Billing.sampleDelivery 1

theorem messages_paid_threeAttempts :
    ∃ q, Transition.run (Pool.step (systemProgram OtpPool.sampleEnv)) sampleSystem threeAttempts = some q ∧
      messages q.shared 1 = 3 ∧ debits q.shared 1 = 1 ∧
      messages q.shared 1 + 3 * queued q.shared 1 ≤ 3 * debits q.shared 1 :=
  ⟨_, (Option.some_get (by decide +kernel)).symm, by decide +kernel, by decide +kernel,
    messages_paid rfl rfl rfl (Option.some_get (by decide +kernel)).symm 1⟩

end SelfOtp
