import Mathlib.Tactic.LinearCombination
import SelfOtp.Properties.Filing
import SelfOtp.Properties.JobRefund
import SelfOtp.Properties.OtpPool

/-! What a customer is charged for sends and resends once nothing of them is left to do. -/
namespace SelfOtp

/-! ### Dispatches that are still open -/

/-- Charged, and neither accepted by the provider nor settled nor handed to the queue. -/
def SendPc.outstanding : SendPc → ℕ
  | store _ | setCooldown _ | enqueue _ | fallback _ | fallbackFailed .. | fallbackRefund .. => 1
  | _ => 0

def ResendPc.outstanding : ResendPc → ℕ
  | update _ | store _ | setCooldown _ | enqueue _ | fallback _ => 1
  | _ => 0

/-- Neither accepted by the provider nor settled. -/
def JobPc.outstanding : JobPc → ℕ
  | send | markFailed _ | refund _ | exhaustedMark _ | exhaustedRefund _ => 1
  | createMessage res | createEvent res _ => if res.success then 0 else 1
  | markSent | deadLetter _ | exhaustedDeadLetter _ | completed _ | failed => 0

/-- The awaited call is a database or a provider call. -/
def JobPc.critical : JobPc → Bool
  | send | createMessage _ | createEvent .. | markSent | markFailed _ | refund _ | exhaustedMark _
  | exhaustedRefund _ => true
  | _ => false

def SendPc.refunding : SendPc → Option Dispatch
  | fallbackRefund d _ => some d
  | _ => none

def ResendPc.offline : ResendPc → Bool
  | fallback _ => true
  | _ => false

def JobPc.refunding : JobPc → Bool
  | refund _ | exhaustedRefund _ => true
  | _ => false

namespace Thread

def outstanding : Thread → ℕ
  | send c => c.pc.outstanding
  | resend c => c.pc.outstanding
  | sendOtpJob c => c.pc.outstanding
  | _ => 0

def critical : Thread → Bool
  | send c => c.pc.critical
  | resend c => c.pc.critical
  | sendOtpJob c => c.pc.critical
  | _ => false

/-- A job that adds the letter of a permanent refusal. -/
def burying : Thread → Bool
  | sendOtpJob c =>
    match c.pc with
    | .deadLetter _ => true
    | _ => false
  | _ => false

/-- A resend that hands its message to the provider, as the queue did not take it. -/
def resendsOffline : Thread → Bool
  | resend c => c.pc.offline
  | _ => false

/-- Customer and request id of the refund call that is made next. -/
def refunding : Thread → Option (Id × String)
  | send c => c.pc.refunding.map fun d => (c.customer.id, d.requestId)
  | sendOtpJob c =>
    if c.pc.refunding then some (c.job.data.customerId, c.job.data.requestId) else none
  | _ => none

/-- The request has been answered, or the job is done. -/
def ended : Thread → Bool
  | authenticating _ c =>
    match c.pc with
    | .rejected _ | .internalError => true
    | _ => false
  | send c =>
    match c.pc with
    | .replied .. | .rejected _ | .internalError => true
    | _ => false
  | resend c =>
    match c.pc with
    | .replied _ | .rejected _ | .internalError => true
    | _ => false
  | sendOtpJob c => c.await.isNone
  | _ => false

end Thread

namespace Billing

open Pool Transition WalletService Rounding
open JobCall (ledger acceptedCalls)

def balance (w : World) (customerId : Id) : ℚ := (getOrCreateWallet (w.db.wallets customerId)).balance

def entries (type : WalletTxnType) (w : World) (customerId : Id) : ℕ :=
  (ledger w customerId).countP (·.transactionType == type)

/-- From `w` to `w'` the customer has paid for the accepted dispatches, and every other charged
dispatch has been refunded. -/
structure NetBilled (env : Env) (customerId : Id) (w w' : World) : Prop where
  balance : balance w' customerId =
    balance w customerId - env.otpCreditCost * ((acceptedCalls w' : ℚ) - acceptedCalls w)
  refunds : entries .debit w' customerId + entries .refund w customerId + acceptedCalls w =
    entries .debit w customerId + entries .refund w' customerId + acceptedCalls w'

/-! ### The runs -/

def dispatches : Endpoint → Bool
  | .send .. | .resend _ => true
  | _ => false

/-- The API key that the thread looks up, if it exists, is the customer's. -/
def Authenticates (env : Env) (customerId : Id) (db : Database) : Thread → Prop
  | .authenticating _ c => ∀ found ∈ db.findApiKey (hashApiKey env (c.rawApiKey.getD "")),
      found.2.2.id = customerId
  | _ => True

/-- Only sends and resends of the customer arrive, and all database and provider calls resolve.
Redis and the queues may fail. -/
def OwnDispatches (env : Env) (customerId : Id) (p : System) : SystemLabel → Prop
  | .resume i a => ∀ t ∈ p.threads[i]?,
      (t.critical = true → a.ok = true) ∧ Authenticates env customerId p.shared.db t
  | .external (.tick _) => True
  | .external (.api _ request) => dispatches request.endpoint = true
  | .external (.takeSendOtpJob _) => True
  | .external (.dashboard ..) => False
  | .external (.register ..) => False
  | .external (.processWebhook ..) => False

/-- The dead-letter queue takes the letters of permanent refusals. -/
def Buries (p : System) : SystemLabel → Prop
  | .resume i a => ∀ t ∈ p.threads[i]?, t.burying = true → a.ok = true
  | .external _ => True

/-- The step leaves a failed dispatch charged: the provider refuses a resend that the queue did
not take, or the ledger has a refund that the refund call is taken to repeat. -/
def LeavesCharged (w : World) (a : Answer) (t : Thread) : Prop :=
  (t.resendsOffline = true ∧ a.delivery.success = false) ∨
    ∃ call ∈ t.refunding,
      Refunded (w.db.wallets call.1) "otp_request_failure" (storedReferenceId call.2)

def Unrefunded (p : System) : SystemLabel → Prop
  | .resume i a => ∃ t ∈ p.threads[i]?, LeavesCharged p.shared a t
  | .external _ => False

/-- Nothing runs and no job waits. -/
structure Quiet (p : System) : Prop where
  threads : p.threads = []
  otpQueue : p.shared.otpQueue = []

structure Ended (p : System) : Prop where
  threads : ∀ t ∈ p.threads, t.ended = true
  otpQueue : p.shared.otpQueue = []

instance {row : Option Wallet} {type : String} {id : Option String} :
    Decidable (Refunded row type id) :=
  inferInstanceAs (Decidable (∃ t ∈ (getOrCreateWallet row).transactions, _))

instance {w : World} {a : Answer} {t : Thread} : Decidable (LeavesCharged w a t) :=
  inferInstanceAs (Decidable (_ ∨ ∃ call ∈ t.refunding, _))

instance : DecidableRel Unrefunded
  | p, .resume i a => inferInstanceAs (Decidable (∃ t ∈ p.threads[i]?, LeavesCharged p.shared a t))
  | _, .external _ => isFalse id

/-! ### One step -/

/-- A job of one of the dispatches. -/
structure Billed (env : Env) (customerId : Id) (job : SendOtpJob) : Prop where
  customer : job.data.customerId = customerId
  cost : job.data.costCredits = env.otpCreditCost
  attempts : 0 < job.attempts

/-- What the wallet would hold had nothing been debited or refunded. -/
def worth (env : Env) (customerId : Id) (w : World) : ℚ :=
  balance w customerId + env.otpCreditCost * entries .debit w customerId -
    env.otpCreditCost * entries .refund w customerId

/-- A step from `w` to `w'` of a call that has `before` dispatches open before it and `after`
after it, and leaves `missed` failed ones charged. -/
structure Settles (env : Env) (customerId : Id) (w w' : World) (before after missed : ℕ) : Prop where
  valid : Valid (w.db.wallets customerId) → Valid (w'.db.wallets customerId)
  worth : Valid (w.db.wallets customerId) → worth env customerId w' = worth env customerId w
  count : entries .debit w' customerId + entries .refund w customerId + acceptedCalls w +
      w.otpQueue.length + before =
    entries .debit w customerId + entries .refund w' customerId + acceptedCalls w' +
      w'.otpQueue.length + after + missed
  queue : ∀ job ∈ w'.otpQueue, job ∈ w.otpQueue ∨ Billed env customerId job

section Settles

variable {env : Env} {customerId : Id} {w w' : World}

/-- Only the customer's wallet, the provider and the queue matter. -/
theorem Settles.same {before after missed : ℕ}
    (wallet : getOrCreateWallet (w'.db.wallets customerId) =
      getOrCreateWallet (w.db.wallets customerId))
    (provider : w'.provider = w.provider) (otpQueue : w'.otpQueue = w.otpQueue)
    (closed : before = after + missed) : Settles env customerId w w' before after missed := by
  have same_balance : balance w' customerId = balance w customerId := by rw [balance, wallet, balance]
  have same_entries (type : WalletTxnType) : entries type w' customerId = entries type w customerId := by
    simp only [entries, ledger, wallet]
  constructor
  case valid =>
    intro valid
    rwa [Valid, wallet]
  case worth =>
    intro _
    simp only [Billing.worth, same_balance, same_entries]
  case count =>
    simp only [same_entries, acceptedCalls, provider, otpQueue]
    omega
  case queue => exact fun job member => Or.inl (otpQueue ▸ member)

theorem Settles.of_core (core : SameCore w w') (n : ℕ) : Settles env customerId w w' n n 0 :=
  .same (by rw [core.db]) core.provider core.otpQueue rfl

section Wallet

variable {wallet : Wallet} {type : WalletTxnType} {entry : WalletTransaction}

@[simp] theorem wallets_setWallet :
    (w.mapDb (·.setWallet customerId wallet)).db.wallets customerId = some wallet := by
  simp only [World.mapDb_db, Database.setWallet, Function.update_self]

@[simp] theorem balance_enter :
    balance (w.mapDb (·.setWallet customerId (wallet.enter entry))) customerId = entry.balanceAfter := by
  simp only [balance, wallets_setWallet, getOrCreateWallet, Wallet.enter]

@[simp] theorem entries_enter :
    entries type (w.mapDb (·.setWallet customerId
        ((getOrCreateWallet (w.db.wallets customerId)).enter entry)))
      customerId = entries type w customerId + if entry.transactionType = type then 1 else 0 := by
  simp only [entries, ledger, wallets_setWallet, getOrCreateWallet, Wallet.enter, List.countP_append,
    List.countP_singleton, beq_iff_eq]

end Wallet

theorem Settles.debit {paid : ℚ} {wallet : Wallet} {type id : String}
    (grid : OnGrid 10000 env.otpCreditCost)
    (taken : deductCreditsAtomic resolves (w.db.wallets customerId) env.otpCreditCost type id =
      .ok (paid, wallet)) :
    Settles env customerId w (w.mapDb (·.setWallet customerId wallet)) 0 1 0 := by
  obtain rfl := deductCreditsAtomic_ok taken
  constructor
  case valid =>
    intro _
    rw [wallets_setWallet]
    exact onGrid_round4 _
  case worth =>
    intro valid
    -- on the grid of four decimals rounding changes nothing
    have exact_balance : round4 (balance w customerId - env.otpCreditCost) =
        balance w customerId - env.otpCreditCost := round4_of_onGrid (valid.sub grid)
    rw [Billing.worth, balance_enter, entries_enter, entries_enter, Billing.worth]
    rw [debitEntry_balanceAfter, debitEntry_transactionType]
    rw [balance] at exact_balance
    rw [exact_balance, if_pos rfl, if_neg (by decide)]
    push_cast
    rw [balance]
    ring
  case count =>
    rw [entries_enter, entries_enter, debitEntry_transactionType, if_pos rfl, if_neg (by decide)]
    simp only [acceptedCalls, World.mapDb]
    omega
  case queue => exact fun job => Or.inl

theorem Settles.refund {paid : ℚ} {wallet : Wallet} {id reason : String}
    (grid : OnGrid 10000 env.otpCreditCost)
    (taken : refundCredits resolves (w.db.wallets customerId) env.otpCreditCost "otp_request_failure" id
      reason = .ok (paid, wallet)) :
    Settles env customerId w (w.mapDb (·.setWallet customerId wallet)) 1 0
      (if Refunded (w.db.wallets customerId) "otp_request_failure" (storedReferenceId id)
        then 1 else 0) := by
  rcases refundCredits_ok taken with ⟨seen, rfl⟩ | ⟨fresh, rfl⟩
  · -- nothing is credited, and the dispatch is closed all the same
    rw [if_pos seen]
    exact .same (by rw [wallets_setWallet, getOrCreateWallet]) rfl rfl rfl
  · rw [if_neg fresh]
    constructor
    case valid =>
      intro _
      rw [wallets_setWallet]
      exact onGrid_round4 _
    case worth =>
      intro valid
      have exact_balance : round4 (balance w customerId + env.otpCreditCost) =
          balance w customerId + env.otpCreditCost := round4_of_onGrid (valid.add grid)
      rw [Billing.worth, balance_enter, entries_enter, entries_enter, Billing.worth]
      rw [refundEntry_balanceAfter, refundEntry_transactionType]
      rw [balance] at exact_balance
      rw [exact_balance, if_neg (by decide), if_pos rfl]
      push_cast
      rw [balance]
      ring
    case count =>
      rw [entries_enter, entries_enter, refundEntry_transactionType, if_neg (by decide), if_pos rfl]
      simp only [acceptedCalls, World.mapDb]
      omega
    case queue => exact fun job => Or.inl

/-- The provider answers. -/
theorem Settles.deliver (phoneNumber otpCode templateName languageCode : String)
    (res : SendMessageResult) :
    Settles env customerId w (sendOtp w phoneNumber otpCode templateName languageCode res) 1
      (if res.success then 0 else 1) 0 := by
  constructor
  case valid => exact id
  case worth => exact fun _ => rfl
  case count =>
    have calls : acceptedCalls (sendOtp w phoneNumber otpCode templateName languageCode res) =
        acceptedCalls w + if res.success then 1 else 0 := by
      simp [acceptedCalls, sendOtp, List.countP_cons]
    rw [calls]
    simp only [entries, ledger, sendOtp]
    split <;> omega
  case queue => exact fun job => Or.inl

/-- A dispatch is handed to the queue. -/
theorem Settles.enqueue {data : SendOtpJobData} (customer : data.customerId = customerId)
    (cost : data.costCredits = env.otpCreditCost) :
    Settles env customerId w (addSendOtpJob w data) 1 0 0 := by
  constructor
  case valid => exact id
  case worth => exact fun _ => rfl
  case count =>
    simp only [entries, ledger, acceptedCalls, addSendOtpJob, List.length_append,
      List.length_singleton]
    omega
  case queue =>
    intro job member
    rcases List.mem_append.mp member with old | new
    · exact Or.inl old
    · cases List.mem_singleton.mp new
      exact Or.inr ⟨customer, cost, Nat.succ_pos 2⟩

end Settles

/-! ### The calls -/

section Calls

variable {env : Env} {customerId : Id} {w w' : World} {a : Answer}

/-- What the next step of the thread leaves charged. -/
def missed (w : World) (a : Answer) (t : Thread) : ℕ := if LeavesCharged w a t then 1 else 0

theorem missed_eq_zero {t : Thread} (online : t.resendsOffline = false)
    (unrefunded : t.refunding = none) : missed w a t = 0 := by
  simp [missed, LeavesCharged, online, unrefunded]

theorem missed_refund {t : Thread} {customerId : Id} {requestId : String}
    (online : t.resendsOffline = false) (refunding : t.refunding = some (customerId, requestId)) :
    missed w a t = if Refunded (w.db.wallets customerId) "otp_request_failure"
      (storedReferenceId requestId) then 1 else 0 := by
  simp [missed, LeavesCharged, online, refunding]

theorem finish_outstanding (c : SendCall) (d : Dispatch) : (c.finish env d).outstanding = 0 := by
  unfold SendCall.finish
  split <;> rfl

theorem Settles.of_storeOtp {process : ℕ} {key : OtpKey} {data : StoredOtp} {ttlSeconds : ℚ}
    {ok : Bool} (n : ℕ) :
    Settles env customerId w (storeOtp w process key data ttlSeconds ok) n n 0 := by
  unfold storeOtp
  split <;> exact .same rfl rfl rfl rfl

theorem SendPc.early_closed {pc : SendPc} (early : pc.unlooked = true ∨ pc.checking = true) :
    pc.outstanding = 0 ∧ pc.refunding = none := by
  cases pc <;> first | exact ⟨rfl, rfl⟩ | (rcases early with h | h <;> cases h)

theorem send_settles {c c' : SendCall} (grid : OnGrid 10000 env.otpCreditCost)
    (own : c.customer.id = customerId) (up : c.pc.critical = true → a.ok = true)
    (h : c.step env w a = some (w', c')) :
    Settles env customerId w w' c.pc.outstanding c'.pc.outstanding (missed w a (.send c)) := by
  have move := (SendCall.step_move h).1
  subst own
  have no_refund (elsewhere : c.pc.refunding = none) : missed w a (.send c) = 0 :=
    missed_eq_zero rfl (by rw [Thread.refunding, elsewhere, Option.map_none])
  generalize at_pc : c.pc = pc at move up no_refund ⊢
  generalize c'.pc = pc' at move ⊢
  cases move with
  | refund d reason balance wallet paid =>
    -- the refund call closes the dispatch, whether it credits or is taken for a repetition
    have misses := @missed_refund w a (.send c) c.customer.id d.requestId rfl
      (by rw [Thread.refunding, at_pc]; rfl)
    rw [misses, finish_outstanding]
    exact .refund grid paid
  | early before after =>
    obtain ⟨closed, elsewhere⟩ := SendPc.early_closed (Or.inl before)
    rw [no_refund elsewhere, closed]
    rcases after with rfl | ⟨key, -, rfl⟩ | ⟨-, rfl⟩ <;> exact .same rfl rfl rfl rfl
  | refuse before same =>
    obtain ⟨closed, elsewhere⟩ := SendPc.early_closed before
    rw [no_refund elsewhere, closed]
    exact .of_core same 0
  | check before same after =>
    obtain ⟨closed, elsewhere⟩ := SendPc.early_closed (Or.inr before)
    rw [no_refund elsewhere, closed, (SendPc.early_closed (Or.inr after)).1]
    exact .of_core same 0
  | create otpCode requestId expiresAt db created =>
    rw [no_refund rfl]
    unfold Database.createOtpRequest at created
    split at created <;> cases created
    exact .same rfl rfl rfl rfl
  | debit d balance wallet paid =>
    rw [no_refund rfl]
    exact .debit grid paid
  | store d =>
    rw [no_refund rfl]
    exact .of_storeOtp 1
  | setCooldown d same =>
    rw [no_refund rfl]
    exact .of_core same 1
  | enqueue d =>
    rw [no_refund rfl, finish_outstanding]
    exact .enqueue rfl rfl
  | deliver d after =>
    rw [no_refund rfl]
    have answered : pc'.outstanding = if a.delivery.success then 0 else 1 := by
      rw [after]
      split <;> rfl
    rw [answered]
    exact .deliver ..
  | markSent d =>
    rw [no_refund rfl, finish_outstanding]
    exact .same rfl rfl rfl rfl
  | saveCache d key =>
    rw [no_refund rfl]
    unfold cacheResponse
    dsimp only
    split <;> exact .same rfl rfl rfl rfl
  | saveRecord d key =>
    rw [no_refund rfl]
    unfold recordResponse
    split <;> exact .same rfl rfl rfl rfl
  | crash before cause =>
    rcases cause with down | ⟨otpCode, requestId, expiresAt, rfl⟩
    · rw [up before] at down
      cases down
    · rw [no_refund rfl]
      exact .same rfl rfl rfl rfl
  | hit | miss | known | unknown | prepare | unpaid | offline | markFailed =>
    rw [no_refund rfl]
    exact .same rfl rfl rfl rfl

theorem resend_settles {c c' : ResendCall} (grid : OnGrid 10000 env.otpCreditCost)
    (own : c.customer.id = customerId) (up : c.pc.critical = true → a.ok = true)
    (h : c.step env w a = some (w', c')) :
    Settles env customerId w w' c.pc.outstanding c'.pc.outstanding (missed w a (.resend c)) := by
  have move := (ResendCall.step_move h).1
  subst own
  have online (elsewhere : c.pc.offline = false) : missed w a (.resend c) = 0 :=
    missed_eq_zero elsewhere rfl
  generalize at_pc : c.pc = pc at move up online ⊢
  generalize c'.pc = pc' at move ⊢
  cases move with
  | deliver d after =>
    have offline : (Thread.resend c).resendsOffline = true := by rw [Thread.resendsOffline, at_pc]; rfl
    have delivered : Settles env c.customer.id w _ 1 (if a.delivery.success then 0 else 1) 0 :=
      .deliver d.record.phoneNumber d.newOtpCode "otp_auth_v1" "en_US" a.delivery
    rw [after]
    cases success : a.delivery.success with
    | true =>
      rw [success] at delivered
      have misses : missed w a (.resend c) = 0 := by
        simp [missed, LeavesCharged, offline, success, Thread.refunding]
      rw [misses]
      exact delivered
    | false =>
      -- the request is answered and the dispatch stays charged
      rw [success] at delivered
      have misses : missed w a (.resend c) = 1 := by
        simp [missed, LeavesCharged, offline, success]
      rw [misses]
      exact ⟨delivered.valid, delivered.worth, delivered.count, delivered.queue⟩
  | reject before error =>
    have closed : pc.outstanding = 0 ∧ pc.offline = false := by
      cases pc <;> first | exact ⟨rfl, rfl⟩ | cases before
    rw [online closed.2, closed.1]
    exact .same rfl rfl rfl rfl
  | crash before down =>
    rw [up before] at down
    cases down
  | debit d balance wallet paid =>
    rw [online rfl]
    exact .debit grid paid
  | store d =>
    rw [online rfl]
    exact .of_storeOtp 1
  | setCooldown d same =>
    rw [online rfl]
    exact .of_core same 1
  | enqueue d =>
    rw [online rfl]
    exact .enqueue rfl rfl
  | lapse | found | expire | prepare | update | offline | markSent =>
    rw [online rfl]
    exact .same rfl rfl rfl rfl

theorem maxRetries_eq {c : JobCall} (positive : 0 < c.job.attempts) :
    c.maxRetries = c.job.attempts := by
  unfold JobCall.maxRetries
  exact if_neg positive.ne'

/-- An attempt that throws is followed by another one or by the final refund. -/
theorem threw_outstanding {c : JobCall} (positive : 0 < c.job.attempts) (error : String) :
    (c.threw error).pc.outstanding = 1 := by
  have retries := maxRetries_eq positive
  unfold JobCall.threw JobCall.rethrow
  split
  · rfl
  next left =>
    have more : c.attemptsMade + 1 < c.job.attempts := by omega
    simp only [if_pos more, JobPc.outstanding]

theorem rethrow_outstanding {c : JobCall} (positive : 0 < c.job.attempts)
    (last : c.maxRetries ≤ c.attemptsMade + 1) : c.rethrow.pc.outstanding = 0 := by
  have retries := maxRetries_eq positive
  have none_left : ¬c.attemptsMade + 1 < c.job.attempts := by omega
  simp only [JobCall.rethrow, if_neg none_left, JobPc.outstanding]

theorem job_refund_settles {c : JobCall} {reason : String} (grid : OnGrid 10000 env.otpCreditCost)
    (billed : Billed env customerId c.job) (refunding : c.pc.refunding = true)
    (granted : JobCall.refunded w c reason = .ok w') :
    Settles env customerId w w' 1 0 (missed w a (.sendOtpJob c)) := by
  have misses := @missed_refund w a (.sendOtpJob c) c.job.data.customerId c.job.data.requestId rfl
    (by simp only [Thread.refunding, if_pos refunding])
  rw [misses]
  unfold JobCall.refunded at granted
  rw [billed.customer, billed.cost] at granted
  rw [billed.customer]
  split at granted <;> cases granted
  next paid => exact .refund grid paid

theorem job_settles {c c' : JobCall} (grid : OnGrid 10000 env.otpCreditCost)
    (billed : Billed env customerId c.job)
    (last : c.pc.exhausted = true → c.maxRetries ≤ c.attemptsMade + 1)
    (up : c.pc.critical = true → a.ok = true)
    (buries : (Thread.sendOtpJob c).burying = true → a.ok = true)
    (h : c.step w a = some (w', c')) :
    Settles env customerId w w' c.pc.outstanding c'.pc.outstanding
      (missed w a (.sendOtpJob c)) := by
  have no_refund (elsewhere : c.pc.refunding = false) : missed w a (.sendOtpJob c) = 0 :=
    missed_eq_zero rfl (by simp only [Thread.refunding, elsewhere]; rfl)
  have positive := billed.attempts
  cases pc : c.pc with
  | send =>
    rw [no_refund (by rw [pc]; rfl)]
    simp only [JobCall.step, pc, up (by rw [pc]; rfl), if_true] at h
    cases h
    exact .deliver ..
  | createMessage res =>
    rw [no_refund (by rw [pc]; rfl)]
    simp only [JobCall.step, pc, up (by rw [pc]; rfl), if_true] at h
    cases h
    exact .same rfl rfl rfl rfl
  -- an accepted message closes the dispatch; a refused one is tried again or refunded
  | createEvent res message =>
    rw [no_refund (by rw [pc]; rfl)]
    simp only [JobCall.step, pc, up (by rw [pc]; rfl), if_true] at h
    split at h
    next success =>
      cases h
      simp only [JobPc.outstanding, success, if_true, JobCall.goto]
      exact .same rfl rfl rfl rfl
    next refused =>
      have stays : JobPc.outstanding (.createEvent res message) = 1 := by
        simp only [JobPc.outstanding, if_neg refused]
      rw [stays]
      split at h <;> cases h
      · rw [threw_outstanding positive]
        exact .same rfl rfl rfl rfl
      · exact .same rfl rfl rfl rfl
  | markSent | markFailed res =>
    rw [no_refund (by rw [pc]; rfl)]
    simp only [JobCall.step, pc, up (by rw [pc]; rfl), if_true] at h
    cases h
    exact .same rfl rfl rfl rfl
  | refund res =>
    obtain ⟨credited, granted⟩ := JobCall.refunded_ok w c
      (res.reason "Permanent Meta delivery failure")
    simp only [JobCall.step, pc, up (by rw [pc]; rfl), if_true, granted] at h
    cases h
    exact job_refund_settles grid billed (by rw [pc]; rfl) granted
  -- already refunded; a failure here would have the job retried all the same
  | deadLetter res =>
    rw [no_refund (by rw [pc]; rfl)]
    have taken : a.ok = true := buries (by simp only [Thread.burying, pc])
    simp only [JobCall.step, pc, taken, if_true] at h
    cases h
    exact .same rfl rfl rfl rfl
  | exhaustedMark error =>
    rw [no_refund (by rw [pc]; rfl)]
    simp only [JobCall.step, pc, up (by rw [pc]; rfl), if_true] at h
    cases h
    exact .same rfl rfl rfl rfl
  | exhaustedRefund error =>
    obtain ⟨credited, granted⟩ := JobCall.refunded_ok w c ("Max retries exceeded: " ++ error)
    simp only [JobCall.step, pc, up (by rw [pc]; rfl), if_true, granted] at h
    cases h
    exact job_refund_settles grid billed (by rw [pc]; rfl) granted
  | exhaustedDeadLetter error =>
    rw [no_refund (by rw [pc]; rfl)]
    simp only [JobCall.step, pc] at h
    cases h
    rw [rethrow_outstanding positive (last (by rw [pc]; rfl))]
    split <;> exact .same rfl rfl rfl rfl
  | completed | failed => simp [JobCall.step, pc] at h

/-! ### The system -/

/-- Only dispatches of the customer run. -/
def Own (env : Env) (customerId : Id) : Thread → Prop
  | .authenticating request c => dispatches request.endpoint = true ∧
      ∀ s ∈ c.session, s.customer.id = customerId
  | .send c => c.customer.id = customerId
  | .resend c => c.customer.id = customerId
  | .sendOtpJob c => Billed env customerId c.job ∧
      (c.pc.exhausted = true → c.maxRetries ≤ c.attemptsMade + 1)
  | _ => False

theorem handler_own {s : Session} {request : ApiRequest}
    (dispatching : dispatches request.endpoint = true) (own : s.customer.id = customerId) :
    Own env customerId (Thread.handler s request) ∧ (Thread.handler s request).outstanding = 0 := by
  cases endpoint : request.endpoint with
  | send | resend =>
    simp only [Thread.handler, endpoint]
    exact ⟨own, rfl⟩
  | verify | status | account =>
    rw [endpoint] at dispatching
    cases dispatching

theorem resume_settles {t t' : Thread} (grid : OnGrid 10000 env.otpCreditCost)
    (own : Own env customerId t) (up : t.critical = true → a.ok = true)
    (authenticates : Authenticates env customerId w.db t)
    (buries : t.burying = true → a.ok = true) (h : Thread.resume env w t a = some (w', t')) :
    Own env customerId t' ∧
      Settles env customerId w w' t.outstanding t'.outstanding (missed w a t) := by
  cases t with
  | authenticating request c =>
    simp only [Thread.resume] at h
    obtain ⟨c', stepped, rfl⟩ := Thread.stepped_eq_some h
    obtain ⟨core, -, sessions⟩ := AuthCall.step_session stepped
    have session_own : ∀ s ∈ c'.session, s.customer.id = customerId := by
      intro s present
      rcases sessions s present with before | found
      · exact own.2 s before
      · exact authenticates _ found
    rw [missed_eq_zero rfl rfl]
    split
    next s authenticated =>
      -- authenticated: the handler starts, with no dispatch open
      obtain ⟨handled, closed⟩ := @handler_own env customerId s request own.1
        (session_own s (by simp only [AuthCall.session, authenticated]; rfl))
      refine ⟨handled, ?_⟩
      rw [closed]
      exact .of_core core 0
    · exact ⟨⟨own.1, session_own⟩, .of_core core 0⟩
  | send c =>
    obtain ⟨c', stepped, rfl⟩ := Thread.stepped_eq_some h
    refine ⟨?_, send_settles grid own up stepped⟩
    rw [(SendCall.step_move stepped).2]
    exact own
  | resend c =>
    obtain ⟨c', stepped, rfl⟩ := Thread.stepped_eq_some h
    refine ⟨?_, resend_settles grid own up stepped⟩
    rw [(ResendCall.step_move stepped).2]
    exact own
  | sendOtpJob c =>
    obtain ⟨c', stepped, rfl⟩ := Thread.stepped_eq_some h
    obtain ⟨billed, last⟩ := own
    refine ⟨⟨?_, ?_⟩, job_settles grid billed last up buries stepped⟩
    · rw [JobCall.step_job stepped]
      exact billed
    · have linked : (Thread.sendOtpJob c).Linked env w := last
      exact JobCall.step_linked linked stepped
  | verify | status | dashboard | register | webhook => exact own.elim

/-- The books of a run from `w₀` that has left `missed` failed dispatches charged. -/
structure Books (env : Env) (customerId : Id) (w₀ : World) (p : System) (missed : ℕ) : Prop where
  valid : Valid (p.shared.db.wallets customerId)
  worth : worth env customerId p.shared = worth env customerId w₀
  count : entries .debit p.shared customerId + entries .refund w₀ customerId + acceptedCalls w₀ =
    entries .debit w₀ customerId + entries .refund p.shared customerId + acceptedCalls p.shared +
      p.shared.otpQueue.length + total Thread.outstanding p.threads + missed
  queue : ∀ job ∈ p.shared.otpQueue, Billed env customerId job
  threads : ∀ t ∈ p.threads, Own env customerId t

end Calls

section Runs

variable {env : Env} {customerId : Id} {w₀ : World} {p q : System} {n : ℕ}

theorem unrefunded_resume {i : ℕ} {a : Answer} {t : Thread} (found : p.threads[i]? = some t) :
    (if Unrefunded p (.resume i a) then 1 else 0) = missed p.shared a t := by
  simp only [Unrefunded, found, Option.mem_def, Option.some.injEq, exists_eq_left', missed]

theorem Books.step (grid : OnGrid 10000 env.otpCreditCost) (books : Books env customerId w₀ p n)
    {l : SystemLabel} (own : OwnDispatches env customerId p l) (buries : Buries p l)
    (taken : Pool.step (systemProgram env) p l = some q) :
    Books env customerId w₀ q (n + if Unrefunded p l then 1 else 0) := by
  obtain ⟨valid, worth, count, queue, threads⟩ := books
  cases l with
  | resume i a =>
    obtain ⟨t, w', t', found, resumed, rfl⟩ := step_resume taken
    simp only [systemProgram] at resumed
    obtain ⟨up, authenticates⟩ := own t found
    obtain ⟨own', settles⟩ := resume_settles grid (threads t (List.mem_of_getElem? found)) up
      authenticates (buries t found) resumed
    rw [unrefunded_resume found]
    constructor
    case valid => exact settles.valid valid
    case worth => exact (settles.worth valid).trans worth
    case count =>
      -- what the step settles is what changes of the total
      have step_count := settles.count
      have step_total := total_set (m := Thread.outstanding) found t'
      dsimp only
      omega
    case queue =>
      intro job member
      rcases settles.queue job member with old | new
      · exact queue job old
      · exact new
    case threads =>
      intro u member
      rcases List.mem_or_eq_of_mem_set member with old | rfl
      · exact threads u old
      · exact own'
  | external event =>
    obtain ⟨w', born, acted, rfl⟩ := step_external taken
    simp only [systemProgram, Thread.external] at acted
    -- nothing is charged or refunded by what comes from outside
    have none_missed : ¬Unrefunded p (.external event) := id
    rw [if_neg none_missed, Nat.add_zero]
    cases event with
    | tick d =>
      cases acted
      rw [List.append_nil]
      exact ⟨valid, worth, count, queue, threads⟩
    | api rawApiKey request =>
      cases acted
      refine ⟨valid, worth, ?_, queue, ?_⟩
      · simp only [total_append, total_cons, total_nil, Thread.outstanding]
        omega
      · intro t member
        rcases List.mem_append.mp member with old | new
        · exact threads t old
        · rw [List.mem_singleton.mp new]
          refine ⟨own, fun s present => ?_⟩
          unfold AuthCall.start at present
          split at present <;> cases present
    | takeSendOtpJob i =>
      dsimp only at acted
      split at acted <;> cases acted
      next job waiting =>
        have inside := (List.getElem?_eq_some_iff.mp waiting).1
        refine ⟨valid, worth, ?_, fun job member => queue job (List.mem_of_mem_eraseIdx member), ?_⟩
        · -- the open dispatch moves from the queue to the job that runs
          have starts : (Thread.sendOtpJob (.start job)).outstanding = 1 := rfl
          simp only [entries, ledger, acceptedCalls] at count ⊢
          simp only [total_append, total_cons, total_nil, List.length_eraseIdx_of_lt inside, starts]
          omega
        · intro t member
          rcases List.mem_append.mp member with old | new
          · exact threads t old
          · rw [List.mem_singleton.mp new]
            exact ⟨queue job (List.mem_of_getElem? waiting), fun h => (by cases h)⟩
    | dashboard | register | processWebhook => exact own.elim

theorem Quiet.books (quiet : Quiet p) (valid : Valid (p.shared.db.wallets customerId)) :
    Books env customerId p.shared p 0 := by
  obtain ⟨threads, otpQueue⟩ := quiet
  refine ⟨valid, rfl, ?_, fun job member => ?_, fun t member => ?_⟩
  · simp [threads, otpQueue]
  · rw [otpQueue] at member
    cases member
  · rw [threads] at member
    cases member

theorem ended_outstanding {t : Thread} (ended : t.ended = true) : t.outstanding = 0 := by
  cases t with
  | send c =>
    simp only [Thread.ended] at ended
    simp only [Thread.outstanding]
    cases pc : c.pc <;> rw [pc] at ended <;> first | rfl | cases ended
  | resend c =>
    simp only [Thread.ended] at ended
    simp only [Thread.outstanding]
    cases pc : c.pc <;> rw [pc] at ended <;> first | rfl | cases ended
  | sendOtpJob c =>
    simp only [Thread.ended, JobCall.await] at ended
    simp only [Thread.outstanding]
    cases pc : c.pc <;> rw [pc] at ended <;> first | rfl | cases ended
  | _ => rfl

theorem Books.ended (books : Books env customerId w₀ q n) (ended : Ended q) :
    entries .debit q.shared customerId + entries .refund w₀ customerId + acceptedCalls w₀ =
      entries .debit w₀ customerId + entries .refund q.shared customerId +
        acceptedCalls q.shared + n := by
  have closed : total Thread.outstanding q.threads = 0 :=
    total_eq_zero.mpr fun t member => ended_outstanding (ended.threads t member)
  have count := books.count
  rwa [closed, ended.otpQueue, List.length_nil] at count

/-- In the end the customer has paid for the accepted dispatches and for those left charged. -/
theorem Books.balance_eq (books : Books env customerId w₀ q n) (ended : Ended q) :
    balance q.shared customerId = balance w₀ customerId -
      env.otpCreditCost * ((acceptedCalls q.shared : ℚ) - acceptedCalls w₀ + n) := by
  -- debits less refunds are the accepted calls and the missed refunds
  have counted := congrArg (Nat.cast : ℕ → ℚ) (books.ended ended)
  push_cast at counted
  have worth := books.worth
  simp only [Billing.worth] at worth
  linear_combination worth - env.otpCreditCost * counted

theorem Books.netBilled_iff (books : Books env customerId w₀ q n) (cost : 0 < env.otpCreditCost)
    (ended : Ended q) : NetBilled env customerId w₀ q.shared ↔ n = 0 := by
  have paid := books.balance_eq ended
  constructor
  · intro billed
    have excess : env.otpCreditCost * n = 0 := by linear_combination paid - billed.balance
    simpa [cost.ne'] using excess
  · rintro rfl
    exact ⟨by simpa using paid, books.ended ended⟩

/-- Once everything has ended, a customer has paid for exactly the accepted dispatches, if and
only if no step left a failed one charged. -/
theorem netBilled_iff_respects {labels : List SystemLabel} (cost : 0 < env.otpCreditCost)
    (grid : OnGrid 10000 env.otpCreditCost) (quiet : Quiet p)
    (valid : Valid (p.shared.db.wallets customerId))
    (respects : Respects (Pool.step (systemProgram env))
      (fun s l => OwnDispatches env customerId s l ∧ Buries s l) p labels)
    (returned : run (Pool.step (systemProgram env)) p labels = some q) (ended : Ended q) :
    NetBilled env customerId p.shared q.shared ↔
      Respects (Pool.step (systemProgram env)) (fun s l => ¬Unrefunded s l) p labels := by
  have books : Books env customerId p.shared q
      (0 + tally (Pool.step (systemProgram env)) Unrefunded p labels) :=
    run_tally (Books env customerId p.shared)
      (fun s n l t books allowed taken => books.step grid allowed.1 allowed.2 taken)
      (quiet.books valid) respects returned
  rw [Nat.zero_add] at books
  rw [books.netBilled_iff cost ended, tally_eq_zero]

section Sample

instance {db : Database} : DecidablePred (Authenticates env customerId db)
  | .authenticating _ c =>
    inferInstanceAs (Decidable (∀ found ∈ db.findApiKey (hashApiKey env (c.rawApiKey.getD "")), _))
  | .send _ | .verify .. | .resend _ | .status .. | .dashboard _ | .register _ | .sendOtpJob _
  | .webhook _ => isTrue trivial

instance : DecidablePred (OwnDispatches env customerId p)
  | .resume i _ => inferInstanceAs (Decidable (∀ t ∈ p.threads[i]?, _ ∧ _))
  | .external (.tick _) => isTrue trivial
  | .external (.api _ request) => inferInstanceAs (Decidable (dispatches request.endpoint = true))
  | .external (.takeSendOtpJob _) => isTrue trivial
  | .external (.dashboard ..) => isFalse id
  | .external (.register ..) => isFalse id
  | .external (.processWebhook ..) => isFalse id

instance : DecidablePred (Buries p)
  | .resume i _ => inferInstanceAs (Decidable (∀ t ∈ p.threads[i]?, _ → _))
  | .external _ => isTrue trivial

instance : Decidable (Ended p) :=
  decidable_of_iff ((∀ t ∈ p.threads, t.ended = true) ∧ p.shared.otpQueue = [])
    ⟨fun h => ⟨h.1, h.2⟩, fun h => ⟨h.threads, h.otpQueue⟩⟩

def sampleCall (endpoint : Endpoint) (bytes : ℕ) : SystemLabel :=
  .external (.api (some "wotp_live_00") ⟨endpoint, "198.51.100.7", none, 0, bytes, 0⟩)

/-- A send whose job is taken once it has been answered. -/
def sampleSend (phoneNumber : String) (bytes thread : ℕ) : List SystemLabel :=
  sampleCall (.send ⟨phoneNumber, none, 300, "otp_auth_v1", "en_US"⟩ none) bytes ::
    resolve thread 29 ++ [.external (.takeSendOtpJob 0)]

/-- The provider accepts the message. -/
def sampleDelivery (thread : ℕ) : List SystemLabel :=
  .resume thread (.accepted "wamid.1") :: resolve thread 3

end Sample

/-- One send is delivered, and the next one is refused and refunded. -/
theorem netBilled_iff_respects_refunded :
    ∃ q, run (Pool.step (systemProgram OtpPool.sampleEnv)) sampleSystem
        (sampleSend "+4915112345678" 7 0 ++ sampleDelivery 1 ++ sampleSend "+4915112345679" 8 2 ++
          .resume 3 (.rejected "Meta API error (HTTP 400)") :: resolve 3 5) = some q ∧
      (NetBilled OtpPool.sampleEnv 1 sampleSystem.shared q.shared ↔
        Respects (Pool.step (systemProgram OtpPool.sampleEnv)) (fun s l => ¬Unrefunded s l)
          sampleSystem
          (sampleSend "+4915112345678" 7 0 ++ sampleDelivery 1 ++ sampleSend "+4915112345679" 8 2 ++
            .resume 3 (.rejected "Meta API error (HTTP 400)") :: resolve 3 5)) :=
  ⟨_, (Option.some_get (by decide +kernel)).symm,
    netBilled_iff_respects (by decide +kernel) ⟨10000, by decide +kernel⟩ ⟨rfl, rfl⟩ valid_none
      (by decide +kernel) (Option.some_get (by decide +kernel)).symm (by decide +kernel)⟩

/-- The queue does not take a resend, and the provider refuses it: it is charged and not
refunded. -/
theorem refused_resend_charged :
    ¬∀ (env : Env) (customerId : Id) (p q : System) (labels : List SystemLabel),
      0 < env.otpCreditCost → OnGrid 10000 env.otpCreditCost → Quiet p →
      Valid (p.shared.db.wallets customerId) →
      Respects (Pool.step (systemProgram env))
        (fun s l => OwnDispatches env customerId s l ∧ Buries s l) p labels →
      run (Pool.step (systemProgram env)) p labels = some q → Ended q →
      NetBilled env customerId p.shared q.shared := by
  intro billed
  have violated := billed OtpPool.sampleEnv 1 sampleSystem _
    (sampleSend "+4915112345678" 7 0 ++ sampleDelivery 1 ++
      [.external (.tick 61000), sampleCall (.resend (generateRequestId 7)) 0] ++ resolve 2 11 ++
      [.resume 2 (.threw "queue offline"), .resume 2 (.rejected "Meta API error (HTTP 400)")])
    (by decide +kernel) ⟨10000, by decide +kernel⟩ ⟨rfl, rfl⟩ valid_none (by decide +kernel)
    (Option.some_get (by decide +kernel)).symm (by decide +kernel)
  have refunds := violated.refunds
  revert refunds
  decide +kernel

end Runs

end Billing

end SelfOtp
