import SelfOtp.Properties.Billing
import SelfOtp.Properties.Tenants
import SelfOtp.Properties.VerifiedAbsorbing
import SelfOtp.Properties.WalletLedger

/-! The wallets of the running system: whatever is interleaved, each of them is what a history of
`WalletService` calls leaves, and its entries can be traced to requests. -/
namespace SelfOtp

open Pool Transition WalletService

/-! ### The wallet calls of the threads -/

/-- The call of `WalletService` that a thread awaits, and the customer it is for. -/
def Thread.walletCall (env : Env) : Thread → Option (Id × WalletCall)
  | send c =>
    match c.pc with
    | .debit d => some (c.customer.id, .deduct env.otpCreditCost "otp_request" (uuidText d.record))
    | .fallbackRefund d reason =>
      some (c.customer.id, .refund env.otpCreditCost "otp_request_failure" d.requestId reason)
    | _ => none
  | resend c =>
    match c.pc with
    | .debit d => some (c.customer.id, .deduct env.otpCreditCost "otp_resend" d.record.requestId)
    | _ => none
  | sendOtpJob c =>
    let refund (reason : String) : Id × WalletCall := (c.job.data.customerId,
      .refund c.job.data.costCredits "otp_request_failure" c.job.data.requestId reason)
    match c.pc with
    | .refund res => some (refund (res.reason "Permanent Meta delivery failure"))
    | .exhaustedRefund error => some (refund ("Max retries exceeded: " ++ error))
    | _ => none
  | dashboard c =>
    match c.pc, c.request with
    | .handle customer, .topup amount referenceId => some (customer.id, .topup amount referenceId)
    | _, _ => none
  | authenticating .. | verify .. | status .. | register _ | webhook _ => none

/-- What a step does to the wallets: nothing, it opens one, or it commits the call that its thread
awaits. -/
inductive WalletsStep (w w' : World) (charge : Option (Id × WalletCall)) : Prop
  | same (wallets : w'.db.wallets = w.db.wallets)
  | opened (customerId : Id) (wallets : w'.db.wallets =
      Function.update w.db.wallets customerId (some (getOrCreateWallet (w.db.wallets customerId))))
  | posted (customerId : Id) (call : WalletCall) (charged : charge = some (customerId, call))
      (balance : ℚ) (wallet : Wallet)
      (returned : call.result resolves (w.db.wallets customerId) = .ok (balance, wallet))
      (wallets : w'.db.wallets = Function.update w.db.wallets customerId (some wallet))

section Steps

variable {env : Env} {w w' : World} {a : Answer} {ok : Bool} {charge : Option (Id × WalletCall)}

theorem WalletsStep.of_db (same : w'.db = w.db) : WalletsStep w w' charge :=
  .same (by rw [same])

theorem WalletsStep.of_tables {judged : Option Id} {saved : Option (Id × String)}
    (tables : TablesStep w w' none judged saved) : WalletsStep w w' charge :=
  .same (funext fun other => tables.wallets other fun h => (by cases h))

theorem WalletsStep.of_storeOtp {process : ℕ} {key : OtpKey} {data : StoredOtp} {ttlSeconds : ℚ} :
    WalletsStep w (storeOtp w process key data ttlSeconds ok) charge := by
  unfold storeOtp
  split <;> exact .same rfl

theorem SendCall.step_wallets {c c' : SendCall} (h : c.step env w a = some (w', c')) :
    WalletsStep w w' ((Thread.send c).walletCall env) := by
  obtain ⟨move, -⟩ := step_move h
  generalize before : c.pc = pc at move
  generalize c'.pc = pc' at move
  cases move with
  | create otpCode requestId expiresAt db created =>
    refine .same ?_
    unfold Database.createOtpRequest at created
    split at created <;> cases created
    rfl
  | debit d balance wallet paid =>
    exact .posted c.customer.id (.deduct env.otpCreditCost "otp_request" (uuidText d.record))
      (by simp only [Thread.walletCall, before]) balance wallet paid rfl
  | refund d reason balance wallet paid =>
    exact .posted c.customer.id (.refund env.otpCreditCost "otp_request_failure" d.requestId reason)
      (by simp only [Thread.walletCall, before]) balance wallet paid rfl
  | store d => exact .of_storeOtp
  | refuse _ same | check _ same | setCooldown _ same => exact .of_db same.db
  | saveCache d key =>
    refine .same ?_
    unfold cacheResponse
    dsimp only
    split <;> rfl
  | saveRecord d key =>
    refine .same ?_
    unfold recordResponse
    split <;> rfl
  | early | hit | miss | known | unknown | prepare | unpaid | enqueue | offline | deliver | markSent
  | markFailed | crash => exact .same rfl

theorem ResendCall.step_wallets {c c' : ResendCall} (h : c.step env w a = some (w', c')) :
    WalletsStep w w' ((Thread.resend c).walletCall env) := by
  obtain ⟨move, -⟩ := step_move h
  generalize before : c.pc = pc at move
  generalize c'.pc = pc' at move
  cases move with
  | debit d balance wallet paid =>
    exact .posted c.customer.id (.deduct env.otpCreditCost "otp_resend" d.record.requestId)
      (by simp only [Thread.walletCall, before]) balance wallet paid rfl
  | store d => exact .of_storeOtp
  | setCooldown _ same => exact .of_db same.db
  | reject | lapse | found | expire | prepare | update | enqueue | offline | deliver | markSent
  | crash => exact .same rfl

theorem JobCall.refunded_wallets {c : JobCall} {reason : String}
    (granted : refunded w c reason = .ok w') : WalletsStep w w' (some (c.job.data.customerId,
      .refund c.job.data.costCredits "otp_request_failure" c.job.data.requestId reason)) := by
  unfold refunded at granted
  split at granted <;> cases granted
  next balance wallet paid => exact .posted _ _ rfl balance wallet paid rfl

theorem JobCall.step_wallets {c c' : JobCall} (h : c.step w a = some (w', c')) :
    WalletsStep w w' ((Thread.sendOtpJob c).walletCall env) := by
  cases pc : c.pc with
  | createEvent res message =>
    simp only [step, pc] at h
    split at h
    · split at h
      · cases h
        exact .same rfl
      · split at h <;> cases h <;> exact .same rfl
    · cases h
      exact .same rfl
  | refund res =>
    simp only [step, pc, Thread.walletCall] at h ⊢
    split at h
    · split at h <;> cases h
      next granted => exact refunded_wallets granted
      · exact .same rfl
    · cases h
      exact .same rfl
  -- a refund that fails here is passed over
  | exhaustedRefund error =>
    simp only [step, pc, Thread.walletCall] at h ⊢
    cases h
    split
    · split
      next granted => exact refunded_wallets granted
      · exact .same rfl
    · exact .same rfl
  | exhaustedMark error | exhaustedDeadLetter error =>
    simp only [step, pc] at h
    cases h
    split <;> exact .same rfl
  | send | createMessage | markSent | markFailed | deadLetter =>
    simp only [step, pc] at h
    split at h <;> cases h <;> exact .same rfl
  | completed | failed => simp [step, pc] at h

theorem DashboardCall.openWallet_wallets (customer : Customer) :
    WalletsStep w (openWallet w customer) charge :=
  .opened customer.id rfl

theorem DashboardCall.handle_wallets {c : DashboardCall} {customer : Customer}
    (before : c.pc = .handle customer) :
    WalletsStep w (c.handle env w customer).1 ((Thread.dashboard c).walletCall env) := by
  cases request : c.request with
  | createApplication name =>
    simp only [handle, request, Database.createApplication]
    split
    next created =>
      split at created <;> cases created
      exact .same rfl
    · exact .same rfl
  | createApiKey applicationId name rawSecret =>
    simp only [handle, request, Database.createApiKey]
    split
    next created =>
      split at created <;> cases created
      exact .same rfl
    · exact .same rfl
  | topup amount referenceId =>
    exact .posted customer.id (.topup amount referenceId)
      (by simp only [Thread.walletCall, before, request]) _ _ rfl (by simp only [handle, request]; rfl)
  | account accountRequest =>
    cases accountRequest <;> simp only [handle, request]
    · exact openWallet_wallets customer
    · exact openWallet_wallets customer
    · exact .same rfl
  | transactions =>
    simp only [handle, request]
    exact openWallet_wallets customer
  | getApplication | deleteApplication | revokeApiKey =>
    simp only [handle, request]
    split <;> exact .same rfl
  | listApplications | listApiKeys =>
    simp only [handle, request]
    exact .same rfl

theorem DashboardCall.step_wallets {c c' : DashboardCall} (h : c.step env w ok = some (w', c')) :
    WalletsStep w w' ((Thread.dashboard c).walletCall env) := by
  cases pc : c.pc with
  | authenticate sub jwt =>
    simp only [step, pc] at h
    split at h <;> cases h <;> exact .same rfl
  | handle customer =>
    simp only [step, pc] at h
    split at h
    · have handled : WalletsStep w (c.handle env w customer).1 ((Thread.dashboard c).walletCall env) :=
        c.handle_wallets pc
      rw [Option.some.inj h] at handled
      exact handled
    · cases h
      exact .same rfl
  | deleteApplication customer app =>
    simp only [step, pc, Database.deleteApplication] at h
    split at h <;> cases h
    next deleted =>
      split at deleted
      · split at deleted <;> cases deleted
        exact .same rfl
      · cases deleted
    · exact .same rfl
  | readWallet customer newBalance =>
    simp only [step, pc] at h
    split at h <;> cases h
    · exact openWallet_wallets customer
    · exact .same rfl
  | revokeApiKey | readTransactions | countVerified | countFailed =>
    simp only [step, pc] at h
    split at h <;> cases h <;> exact .same rfl
  | answered | rejected | internalError => simp [step, pc] at h

theorem RegisterCall.step_wallets {c c' : RegisterCall} (h : c.step w ok = some (w', c')) :
    WalletsStep w w' charge := by
  cases pc : c.pc with
  | findUser =>
    simp only [step, pc] at h
    split at h
    · split at h <;> cases h <;> exact .same rfl
    · cases h
      exact .same rfl
  | create =>
    simp only [step, pc] at h
    split at h <;> cases h
    next registered =>
      split at registered
      · unfold RegisterCall.create Database.createApplication at registered
        dsimp only at registered
        split at registered
        · split at registered <;> cases registered
          exact .opened w.nextId rfl
        · cases registered
      · cases registered
    · exact .same rfl
  | registered | rejected | internalError => simp [step, pc] at h

theorem Thread.resume_wallets {t t' : Thread} (h : Thread.resume env w t a = some (w', t')) :
    WalletsStep w w' (t.walletCall env) := by
  cases t with
  | authenticating request c =>
    simp only [resume] at h
    obtain ⟨c', stepped, -⟩ := stepped_eq_some h
    exact .of_db (AuthCall.step_session stepped).1.db
  | send c =>
    obtain ⟨c', stepped, -⟩ := stepped_eq_some h
    exact SendCall.step_wallets stepped
  | verify customer c =>
    obtain ⟨c', stepped, -⟩ := stepped_eq_some h
    exact .of_tables (VerifyCall.step_tables stepped)
  | resend c =>
    obtain ⟨c', stepped, -⟩ := stepped_eq_some h
    exact ResendCall.step_wallets stepped
  | status customer c =>
    obtain ⟨c', stepped, -⟩ := stepped_eq_some h
    exact .of_tables (StatusCall.step_tables stepped)
  | dashboard c =>
    obtain ⟨c', stepped, -⟩ := stepped_eq_some h
    exact DashboardCall.step_wallets stepped
  | register c =>
    obtain ⟨c', stepped, -⟩ := stepped_eq_some h
    exact RegisterCall.step_wallets stepped
  | sendOtpJob c =>
    obtain ⟨c', stepped, -⟩ := stepped_eq_some h
    exact JobCall.step_wallets stepped
  | webhook c =>
    obtain ⟨c', stepped, -⟩ := stepped_eq_some h
    exact .of_tables (WebhookCall.step_tables stepped)

end Steps

/-! ### What they cost, and what they refer to -/

/-- The calls that the system makes: none of its request ids is a UUID. -/
inductive Systemic (env : Env) : WalletCall → Prop
  | send (record : Id) : Systemic env (.deduct env.otpCreditCost "otp_request" (uuidText record))
  | resend (requestId : String) (plain : uuidRegex requestId = false) :
      Systemic env (.deduct env.otpCreditCost "otp_resend" requestId)
  | refund (requestId reason : String) (plain : uuidRegex requestId = false) :
      Systemic env (.refund env.otpCreditCost "otp_request_failure" requestId reason)
  | topup (amount : ℚ) (referenceId : String) (accepted : topupSchema amount referenceId = true) :
      Systemic env (.topup amount referenceId)

def SendOtpJobData.Priced (env : Env) (data : SendOtpJobData) : Prop :=
  data.costCredits = env.otpCreditCost ∧ uuidRegex data.requestId = false

/-- The request id that a send has drawn. -/
def SendPc.drawn : SendPc → Option String
  | create _ requestId _ => some requestId
  | pc => pc.dispatch.map (·.requestId)

/-- What is charged and refunded for the thread. -/
def Thread.Priced (env : Env) : Thread → Prop
  | send c => ∀ requestId ∈ c.pc.drawn, uuidRegex requestId = false
  | resend c => ∀ record ∈ c.pc.record, uuidRegex record.requestId = false
  | sendOtpJob c => c.job.data.Priced env
  | dashboard c => ∀ amount referenceId, c.request = .topup amount referenceId →
      topupSchema amount referenceId = true
  | authenticating .. | verify .. | status .. | register _ | webhook _ => True

structure Priced (env : Env) (p : System) : Prop where
  rows : ∀ r ∈ p.shared.db.otpRequests, uuidRegex r.requestId = false
  queue : ∀ job ∈ p.shared.otpQueue, job.data.Priced env
  threads : ∀ t ∈ p.threads, t.Priced env

/-- A top-up has passed its schema. -/
def TopupsParsed : SystemLabel → Prop
  | .external (.dashboard _ (.topup amount referenceId)) => topupSchema amount referenceId = true
  | _ => True

instance : DecidablePred TopupsParsed
  | .external (.dashboard _ request) =>
    match request with
    | .topup amount referenceId => inferInstanceAs (Decidable (topupSchema amount referenceId = true))
    | .listApplications | .getApplication _ | .createApplication _ | .deleteApplication _
    | .createApiKey .. | .listApiKeys | .revokeApiKey _ | .transactions | .account _ => isTrue trivial
  | .external (.tick _) | .external (.api ..) | .external (.register ..)
  | .external (.takeSendOtpJob _) | .external (.processWebhook ..) | .resume .. => isTrue trivial

/-- The job that a thread is about to queue. -/
def Thread.enqueues (env : Env) : Thread → Option SendOtpJobData
  | send c =>
    match c.pc with
    | .enqueue d => some (c.job env d)
    | _ => none
  | resend c =>
    match c.pc with
    | .enqueue d => some (c.job env d)
    | _ => none
  | _ => none

section Prices

variable {env : Env} {w w' : World} {a : Answer} {ok : Bool}

theorem SendPc.drawn_of_dispatch {pc : SendPc} {d : Dispatch} (dispatched : pc.dispatch = some d) :
    pc.drawn = some d.requestId := by
  cases pc <;> cases dispatched <;> rfl

theorem SendPc.drawn_of_checking {pc : SendPc} (checking : pc.checking = true) : pc.drawn = none := by
  cases pc <;> first | rfl | cases checking

theorem DashboardCall.handle_request (c : DashboardCall) (customer : Customer) :
    (c.handle env w customer).2.request = c.request := by
  cases request : c.request with
  | createApplication | createApiKey | getApplication | deleteApplication | revokeApiKey | topup =>
    simp only [handle, request]
    split <;> exact request
  | account accountRequest =>
    cases accountRequest <;> simp only [handle, request] <;> exact request
  | listApplications | listApiKeys | transactions =>
    simp only [handle, request]
    exact request

theorem DashboardCall.step_request {c c' : DashboardCall} (h : c.step env w ok = some (w', c')) :
    c'.request = c.request := by
  cases pc : c.pc with
  | handle customer =>
    simp only [step, pc] at h
    split at h
    · have same : (c.handle env w customer).2.request = c.request := c.handle_request customer
      rw [Option.some.inj h] at same
      exact same
    · cases h
      rfl
  | authenticate | deleteApplication | revokeApiKey | readWallet | readTransactions | countVerified
  | countFailed =>
    simp only [step, pc] at h
    split at h <;> cases h <;> rfl
  | answered | rejected | internalError => simp [step, pc] at h

theorem Thread.walletCall_systemic {t : Thread} {customerId : Id} {call : WalletCall}
    (priced : t.Priced env) (awaits : t.walletCall env = some (customerId, call)) :
    Systemic env call := by
  cases t with
  | send c =>
    simp only [walletCall] at awaits
    split at awaits <;> cases awaits
    · exact .send _
    next d reason pc => exact .refund _ _ (priced _ (SendPc.drawn_of_dispatch (by rw [pc]; rfl)))
  | resend c =>
    simp only [walletCall] at awaits
    split at awaits <;> cases awaits
    next d pc => exact .resend _ (priced _ (by rw [pc]; rfl))
  | sendOtpJob c =>
    obtain ⟨cost, plain⟩ := priced
    simp only [walletCall] at awaits
    split at awaits <;> cases awaits <;> (rw [cost]; exact .refund _ _ plain)
  | dashboard c =>
    simp only [walletCall] at awaits
    split at awaits <;> cases awaits
    next request => exact .topup _ _ (priced _ _ request)
  | authenticating | verify | status | register | webhook => cases awaits

theorem Thread.resume_queue {t t' : Thread} (h : Thread.resume env w t a = some (w', t')) :
    w'.otpQueue = w.otpQueue ∨ ∃ data, t.enqueues env = some data ∧
      w'.otpQueue = w.otpQueue ++ [⟨w.nextId, data, 3⟩] := by
  cases t with
  | authenticating request c =>
    simp only [resume] at h
    obtain ⟨c', stepped, -⟩ := stepped_eq_some h
    exact Or.inl (AuthCall.step_session stepped).1.otpQueue
  | send c =>
    obtain ⟨c', stepped, -⟩ := stepped_eq_some h
    have move := (SendCall.step_move stepped).1
    generalize before : c.pc = pc at move
    generalize c'.pc = pc' at move
    cases move with
    | enqueue d => exact Or.inr ⟨c.job env d, by simp only [enqueues, before], rfl⟩
    | refuse _ same | check _ same | setCooldown _ same => exact Or.inl same.otpQueue
    | store d =>
      unfold storeOtp
      split <;> exact Or.inl rfl
    | saveCache d key =>
      unfold cacheResponse
      dsimp only
      split <;> exact Or.inl rfl
    | saveRecord d key =>
      unfold recordResponse
      split <;> exact Or.inl rfl
    | _ => exact Or.inl rfl
  | verify customer c =>
    obtain ⟨c', stepped, -⟩ := stepped_eq_some h
    exact Or.inl (VerifyCall.step_queue stepped)
  | resend c =>
    obtain ⟨c', stepped, -⟩ := stepped_eq_some h
    have move := (ResendCall.step_move stepped).1
    generalize before : c.pc = pc at move
    generalize c'.pc = pc' at move
    cases move with
    | enqueue d => exact Or.inr ⟨c.job env d, by simp only [enqueues, before], rfl⟩
    | setCooldown _ same => exact Or.inl same.otpQueue
    | store d =>
      unfold storeOtp
      split <;> exact Or.inl rfl
    | _ => exact Or.inl rfl
  | status customer c =>
    obtain ⟨c', stepped, -⟩ := stepped_eq_some h
    exact Or.inl (StatusCall.step_sameStores stepped).otpQueue
  | dashboard c =>
    obtain ⟨c', stepped, -⟩ := stepped_eq_some h
    exact Or.inl (DashboardCall.step_sameRequests stepped).otpQueue
  | register c =>
    obtain ⟨c', stepped, -⟩ := stepped_eq_some h
    exact Or.inl (RegisterCall.step_sameRequests stepped).otpQueue
  | sendOtpJob c =>
    obtain ⟨c', stepped, -⟩ := stepped_eq_some h
    exact Or.inl (JobCall.step_sameStores stepped).otpQueue
  | webhook c =>
    obtain ⟨c', stepped, -⟩ := stepped_eq_some h
    exact Or.inl (WebhookCall.step_sameStores stepped).otpQueue

theorem Thread.enqueues_priced {t : Thread} {data : SendOtpJobData} (priced : t.Priced env)
    (queues : t.enqueues env = some data) : data.Priced env := by
  cases t with
  | send c =>
    simp only [enqueues] at queues
    split at queues <;> cases queues
    next d pc => exact ⟨rfl, priced _ (SendPc.drawn_of_dispatch (by rw [pc]; rfl))⟩
  | resend c =>
    simp only [enqueues] at queues
    split at queues <;> cases queues
    next d pc => exact ⟨rfl, priced _ (by rw [pc]; rfl)⟩
  | _ => cases queues

theorem SendCall.finish_drawn (c : SendCall) (d : Dispatch) :
    ∀ requestId ∈ (c.finish env d).drawn, requestId = d.requestId := by
  intro requestId drawn
  unfold finish at drawn
  split at drawn <;> cases drawn
  rfl

/-- A send keeps the request id that it has drawn. -/
theorem SendCall.step_drawn {c c' : SendCall} (h : c.step env w a = some (w', c')) :
    ∀ requestId ∈ c'.pc.drawn, c.pc.drawn = some requestId ∨
      requestId = generateRequestId c.bytes := by
  obtain ⟨move, -⟩ := step_move h
  generalize c.pc = pc at move
  generalize c'.pc = pc' at move
  intro requestId drawn
  cases move with
  | prepare otpCode expiresAt =>
    cases drawn
    exact Or.inr rfl
  | create | debit | store | setCooldown | offline | markFailed | saveCache => exact Or.inl drawn
  | enqueue d | markSent d | refund d =>
    cases c.finish_drawn d requestId drawn
    exact Or.inl rfl
  | deliver d after =>
    subst after
    split at drawn <;> exact Or.inl drawn
  | early _ after =>
    obtain rfl | ⟨_, -, rfl⟩ | ⟨-, rfl⟩ := after <;> cases drawn
  | check _ _ after =>
    rw [SendPc.drawn_of_checking after] at drawn
    cases drawn
  | refuse | hit | miss | known | unknown | unpaid | saveRecord | crash => cases drawn

theorem Thread.resume_priced {t t' : Thread} (rows : ∀ r ∈ w.db.otpRequests, uuidRegex r.requestId = false)
    (priced : t.Priced env) (h : Thread.resume env w t a = some (w', t')) : t'.Priced env := by
  cases t with
  | authenticating request c =>
    simp only [resume] at h
    obtain ⟨c', stepped, rfl⟩ := stepped_eq_some h
    split
    next s authenticated =>
      unfold handler
      split
      · exact fun requestId drawn => (by cases drawn)
      · trivial
      · exact fun record holds => (by cases holds)
      · trivial
      · exact fun amount referenceId request => (by cases request)
    · trivial
  | send c =>
    obtain ⟨c', stepped, rfl⟩ := stepped_eq_some h
    intro requestId drawn
    rcases SendCall.step_drawn stepped requestId drawn with before | new
    · exact priced requestId before
    · rw [new]
      exact uuidRegex_generateRequestId c.bytes
  | resend c =>
    obtain ⟨c', stepped, rfl⟩ := stepped_eq_some h
    have move := (ResendCall.step_move stepped).1
    intro record holds
    simp only [Priced] at priced
    generalize c.pc = pc at move priced
    generalize c'.pc = pc' at move holds
    cases move with
    | found record' found =>
      cases holds
      exact rows _ (Database.findOtpRequest_eq_some found).1
    | prepare | debit | update | store | setCooldown | enqueue | offline | markSent =>
      exact priced record holds
    | deliver d after =>
      subst after
      split at holds <;> exact priced record holds
    | reject | lapse | expire | crash => cases holds
  | dashboard c =>
    obtain ⟨c', stepped, rfl⟩ := stepped_eq_some h
    intro amount referenceId request
    rw [DashboardCall.step_request stepped] at request
    exact priced amount referenceId request
  | sendOtpJob c =>
    obtain ⟨c', stepped, rfl⟩ := stepped_eq_some h
    simp only [Priced, JobCall.step_job stepped]
    exact priced
  | verify customer c =>
    obtain ⟨c', stepped, rfl⟩ := stepped_eq_some h
    trivial
  | status customer c =>
    obtain ⟨c', stepped, rfl⟩ := stepped_eq_some h
    trivial
  | register c =>
    obtain ⟨c', stepped, rfl⟩ := stepped_eq_some h
    trivial
  | webhook c =>
    obtain ⟨c', stepped, rfl⟩ := stepped_eq_some h
    trivial

end Prices

section Runs

variable {env : Env} {p q : System}

theorem RowsTo.plain {w w' : World} {target : Option RowChange} (rows : RowsTo w w' target)
    (plain : ∀ r ∈ w.db.otpRequests, uuidRegex r.requestId = false)
    (created : ∀ row, target = some (.create row) → uuidRegex row.requestId = false) :
    ∀ r ∈ w'.db.otpRequests, uuidRegex r.requestId = false := by
  obtain ⟨change, step, aimed⟩ := rows
  intro r member
  rcases step.origin member with ⟨old, there, same⟩ | new
  · rw [same.requestId]
    exact plain old there
  · exact created r (aimed _ new)

theorem Thread.creates_priced {w : World} {t : Thread} (priced : t.Priced env) (row : OtpRequest)
    (creates : t.target env w = some (.create row)) : uuidRegex row.requestId = false := by
  cases t with
  | send c =>
    simp only [target, SendCall.target] at creates
    split at creates <;> cases creates
    next otpCode requestId expiresAt pc => exact priced requestId (by rw [pc]; rfl)
  | verify customer c =>
    simp only [target, VerifyPc.target] at creates
    split at creates <;> cases creates
  | resend c =>
    simp only [target, ResendPc.target] at creates
    split at creates <;> cases creates
  | status customer c =>
    simp only [target, StatusPc.target] at creates
    split at creates <;> cases creates
  | sendOtpJob c =>
    simp only [target, JobCall.target] at creates
    split at creates <;> cases creates
  | webhook c =>
    simp only [target, WebhookPc.target] at creates
    split at creates <;> cases creates
  | authenticating | dashboard | register => cases creates

theorem Priced.step (priced : Priced env p) {l : SystemLabel} (parsed : TopupsParsed l)
    (taken : Pool.step (systemProgram env) p l = some q) : Priced env q := by
  cases l with
  | resume i a =>
    obtain ⟨t, w', t', found, resumed, rfl⟩ := step_resume taken
    simp only [systemProgram] at resumed
    have own := priced.threads t (List.mem_of_getElem? found)
    constructor
    case rows => exact (Thread.resume_rows resumed).plain priced.rows (Thread.creates_priced own)
    case queue =>
      intro job member
      rcases Thread.resume_queue resumed with same | ⟨data, queues, grown⟩
      · exact priced.queue job (same ▸ member)
      · rw [grown] at member
        rcases List.mem_append.mp member with old | new
        · exact priced.queue job old
        · cases List.mem_singleton.mp new
          exact Thread.enqueues_priced own queues
    case threads =>
      intro u member
      rcases List.mem_or_eq_of_mem_set member with old | rfl
      · exact priced.threads u old
      · exact Thread.resume_priced priced.rows own resumed
  | external event =>
    obtain ⟨w', born, acted, rfl⟩ := step_external taken
    have same : External env p.shared w' born := Thread.external_cases acted
    refine ⟨?_, fun job member => priced.queue job (same.queue job member), fun u member => ?_⟩
    · rw [same.db]
      exact priced.rows
    rcases List.mem_append.mp member with old | new
    · exact priced.threads u old
    simp only [systemProgram, Thread.external] at acted
    cases event with
    | dashboard sub request =>
      cases acted
      cases List.mem_singleton.mp new
      rintro amount referenceId rfl
      exact parsed
    | takeSendOtpJob i =>
      dsimp only at acted
      split at acted <;> cases acted
      next job waiting =>
        cases List.mem_singleton.mp new
        exact priced.queue job (List.mem_of_getElem? waiting)
    | tick =>
      cases acted
      cases new
    | api | register | processWebhook =>
      cases acted
      rw [List.mem_singleton.mp new]
      trivial

/-- No request has been made and no wallet used. -/
structure Opening (p : System) : Prop extends Unused p where
  wallets : ∀ customerId wallet, p.shared.db.wallets customerId = some wallet →
    wallet = WalletCall.opened

theorem Opening.priced (opening : Opening p) : Priced env p := by
  constructor
  case rows =>
    rw [opening.rows]
    exact fun r member => (by cases member)
  case queue =>
    rw [opening.otpQueue]
    exact fun job member => (by cases member)
  case threads =>
    rw [opening.threads]
    exact fun t member => (by cases member)

/-- The wallet is what the calls leave of a new one. -/
structure LeftBy (env : Env) (calls : List WalletCall) (wallet : Wallet) : Prop where
  history : WalletCall.history resolves (some WalletCall.opened) calls = some wallet
  systemic : ∀ call ∈ calls, Systemic env call

structure Ledgered (env : Env) (p : System) : Prop where
  priced : Priced env p
  wallets : ∀ customerId wallet, p.shared.db.wallets customerId = some wallet →
    ∃ calls, LeftBy env calls wallet

theorem LeftBy.opened : LeftBy env [] WalletCall.opened := ⟨rfl, fun call member => (by cases member)⟩

/-- A wallet that does not exist yet is opened by the first call. -/
theorem result_opened (call : WalletCall) :
    call.result resolves (some WalletCall.opened) = call.result resolves none := by
  cases call <;> rfl

theorem LeftBy.append {calls : List WalletCall} {wallet wallet' : Wallet} {call : WalletCall}
    {balance : ℚ} (left : LeftBy env calls wallet) (systemic : Systemic env call)
    (returned : call.result resolves (some wallet) = .ok (balance, wallet')) :
    LeftBy env (calls ++ [call]) wallet' := by
  constructor
  · have before := left.history
    simp only [WalletCall.history, List.foldl_append, List.foldl_cons, List.foldl_nil] at before ⊢
    rw [before, WalletCall.apply, returned]
  · intro other member
    rcases List.mem_append.mp member with old | new
    · exact left.systemic other old
    · cases List.mem_singleton.mp new
      exact systemic

/-- What a step leaves of one customer's wallet. -/
theorem WalletsStep.leftBy {w w' : World} {charge : Option (Id × WalletCall)}
    (step : WalletsStep w w' charge)
    (systemic : ∀ customerId call, charge = some (customerId, call) → Systemic env call)
    (before : ∀ customerId wallet, w.db.wallets customerId = some wallet →
      ∃ calls, LeftBy env calls wallet)
    (customerId : Id) (wallet : Wallet) (has : w'.db.wallets customerId = some wallet) :
    ∃ calls, LeftBy env calls wallet := by
  cases step with
  | same wallets => exact before customerId wallet (wallets ▸ has)
  | opened owner wallets =>
    rw [wallets, Function.update_apply] at has
    split at has
    · cases existing : w.db.wallets owner with
      | some old =>
        rw [existing] at has
        cases has
        exact before owner _ existing
      | none =>
        rw [existing] at has
        cases has
        exact ⟨[], .opened⟩
    · exact before customerId wallet has
  | posted owner call charged balance paid returned wallets =>
    rw [wallets, Function.update_apply] at has
    split at has
    · cases has
      cases existing : w.db.wallets owner with
      | some old =>
        rw [existing] at returned
        obtain ⟨calls, left⟩ := before owner old existing
        exact ⟨_, left.append (systemic owner call charged) returned⟩
      | none =>
        rw [existing, ← result_opened] at returned
        exact ⟨_, LeftBy.opened.append (systemic owner call charged) returned⟩
    · exact before customerId wallet has

theorem Ledgered.step (ledgered : Ledgered env p) {l : SystemLabel} (parsed : TopupsParsed l)
    (taken : Pool.step (systemProgram env) p l = some q) : Ledgered env q := by
  refine ⟨ledgered.priced.step parsed taken, ?_⟩
  cases l with
  | resume i a =>
    obtain ⟨t, w', t', found, resumed, rfl⟩ := step_resume taken
    simp only [systemProgram] at resumed
    exact (Thread.resume_wallets resumed).leftBy (fun customerId call charged =>
      Thread.walletCall_systemic (ledgered.priced.threads t (List.mem_of_getElem? found)) charged)
      ledgered.wallets
  | external event =>
    obtain ⟨w', born, acted, rfl⟩ := step_external taken
    have same : External env p.shared w' born := Thread.external_cases acted
    simp only [same.db]
    exact ledgered.wallets

theorem Opening.ledgered (opening : Opening p) : Ledgered env p := by
  refine ⟨opening.priced, fun customerId wallet has => ⟨[], ?_⟩⟩
  rw [opening.wallets customerId wallet has]
  exact .opened

theorem Ledgered.run {es : List SystemLabel} (ledgered : Ledgered env p)
    (parsed : ∀ l ∈ es, TopupsParsed l)
    (ran : Transition.run (Pool.step (systemProgram env)) p es = some q) : Ledgered env q :=
  run_invariant_of_respects (Ledgered env)
    (fun _ l _ ledgered (parsed : TopupsParsed l) => ledgered.step parsed) ledgered
    (respects_of_forall (fun l member _ => parsed l member) p) ran

theorem Systemic.validAmount {call : WalletCall} (systemic : Systemic env call)
    (cost : 0 ≤ env.otpCreditCost) : call.ValidAmount := by
  cases systemic with
  | send | resend | refund => exact cost
  | topup amount referenceId accepted =>
    simp only [topupSchema, Bool.and_eq_true, decide_eq_true_eq] at accepted
    exact accepted.1

/-- Whatever the requests, the jobs and their order, the wallet of every customer is what a history
of the service's calls leaves of a new wallet: its balance is not negative, and its ledger is a
chain from 100 to it. -/
theorem wallets_of_runs {es : List SystemLabel} (cost : 0 ≤ env.otpCreditCost) (opening : Opening p)
    (parsed : ∀ l ∈ es, TopupsParsed l)
    (ran : Transition.run (Pool.step (systemProgram env)) p es = some q) (customerId : Id) (wallet : Wallet)
    (has : q.shared.db.wallets customerId = some wallet) :
    (∃ calls, LeftBy env calls wallet) ∧ WalletCall.Safe wallet := by
  obtain ⟨calls, left⟩ := (opening.ledgered.run parsed ran).wallets customerId wallet has
  obtain ⟨reached, history, safe⟩ := WalletCall.opened_safe.history resolves
    fun call member => (left.systemic call member).validAmount cost
  rw [left.history] at history
  cases history
  exact ⟨⟨calls, left⟩, safe⟩

end Runs

theorem sampleSystem_opening : Opening sampleSystem :=
  ⟨⟨rfl, rfl, rfl, fun _ => rfl, fun _ _ => rfl⟩, fun _ _ has => (by cases has)⟩

/-- A send is delivered and the next one refunded. -/
theorem wallets_of_runs_refunded :
    ∃ q wallet, Transition.run (Pool.step (systemProgram OtpPool.sampleEnv)) sampleSystem
        (Billing.sampleSend "+4915112345678" 7 0 ++ Billing.sampleDelivery 1 ++
          Billing.sampleSend "+4915112345679" 8 2 ++
          .resume 3 (.rejected "Meta API error (HTTP 400)") :: resolve 3 5) = some q ∧
      q.shared.db.wallets 1 = some wallet ∧
      (∃ calls, LeftBy OtpPool.sampleEnv calls wallet) ∧ WalletCall.Safe wallet :=
  ⟨_, _, (Option.some_get (by decide +kernel)).symm, (Option.some_get (by decide +kernel)).symm,
    wallets_of_runs (by decide +kernel) sampleSystem_opening (by decide +kernel)
      (Option.some_get (by decide +kernel)).symm 1 _ (Option.some_get (by decide +kernel)).symm⟩

end SelfOtp
