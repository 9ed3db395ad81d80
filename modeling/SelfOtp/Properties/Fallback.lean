import SelfOtp.Properties.DispatchMoves
import SelfOtp.Properties.OtpPool

/-! The handlers' fallback beside the queue: what the two leave in the tables when the provider
takes or refuses a message at the first attempt. -/
namespace SelfOtp

open Transition

/-! ### Two ways to dispatch -/

/-- Every awaited call resolves, and the provider answers `res`. -/
def delivers (res : SendMessageResult) : Answer := ⟨true, "", res⟩

def JobCall.advance (s : World × JobCall) (a : Answer) : Option (World × JobCall) := s.2.step s.1 a

def SendCall.advance (env : Env) (s : World × SendCall) (a : Answer) : Option (World × SendCall) :=
  s.2.step env s.1 a

def ResendCall.advance (env : Env) (s : World × ResendCall) (a : Answer) : Option (World × ResendCall) :=
  s.2.step env s.1 a

/-- A worker takes the last job of the queue and runs `processSendOtpJob`. -/
def workLast (w : World) (res : SendMessageResult) : Option (World × JobCall) :=
  w.otpQueue.getLast?.bind fun job =>
    run JobCall.advance ({ w with otpQueue := w.otpQueue.dropLast }, .start job)
      (List.replicate (if res.success then 4 else 6) (delivers res))

/-- `otpQueue.add` throws. -/
def SendCall.byFallback (env : Env) (w : World) (c : SendCall) (error : String)
    (res : SendMessageResult) : Option (World × SendCall) :=
  run (SendCall.advance env) (w, c)
    (.threw error :: List.replicate (if res.success then 2 else 3) (delivers res))

/-- `otpQueue.add` resolves, and a worker runs the job. -/
def SendCall.byQueue (env : Env) (w : World) (c : SendCall) (res : SendMessageResult) :
    Option (World × JobCall) :=
  (c.step env w .resolved).bind fun (w, _) => workLast w res

def ResendCall.byFallback (env : Env) (w : World) (c : ResendCall) (error : String)
    (res : SendMessageResult) : Option (World × ResendCall) :=
  run (ResendCall.advance env) (w, c)
    (.threw error :: List.replicate (if res.success then 2 else 1) (delivers res))

def ResendCall.byQueue (env : Env) (w : World) (c : ResendCall) (res : SendMessageResult) :
    Option (World × JobCall) :=
  (c.step env w .resolved).bind fun (w, _) => workLast w res

/-! ### What is compared -/

/-- A `messages` row but for its key and its times. -/
structure MessageContent where
  customerId : Id
  otpRequestId : Option Id
  phoneNumber : String
  providerMessageId : Option String
  status : MessageStatus
  errorMessage : Option String
  deriving DecidableEq

def Message.content (m : Message) : MessageContent :=
  ⟨m.customerId, m.otpRequestId, m.phoneNumber, m.providerMessageId, m.status, m.errorMessage⟩

/-- A ledger entry but for its description. -/
def WalletTransaction.posting (t : WalletTransaction) : WalletTransaction := { t with description := "" }

/-- A wallet but for the descriptions in its ledger. -/
def Wallet.ledger (wallet : Wallet) : Wallet :=
  { wallet with transactions := wallet.transactions.map (·.posting) }

/-- The same statuses of the OTP requests and the same wallets, but for the texts that give the
reason of a refund. -/
structure SameStatusAndLedger (v w : World) : Prop where
  otpRequests : v.db.otpRequests.map (fun r => (r.id, r.status)) =
    w.db.otpRequests.map fun r => (r.id, r.status)
  wallets : ∀ customerId, (v.db.wallets customerId).map (·.ledger) =
    (w.db.wallets customerId).map (·.ledger)

/-- The same messages and events as well, but for keys and times. -/
structure SameDispatch (v w : World) : Prop extends SameStatusAndLedger v w where
  messages : v.db.messages.map (·.content) = w.db.messages.map (·.content)
  messageEvents : v.db.messageEvents.map (fun e => (e.eventType, e.providerMessageId)) =
    w.db.messageEvents.map fun e => (e.eventType, e.providerMessageId)

/-- Both ways end, and leave the same. -/
def Agrees {τ : Type} (direct : Option (World × τ)) (queued : Option (World × JobCall)) : Prop :=
  ∃ v ∈ direct, ∃ w ∈ queued, SameDispatch v.1 w.1

/-- Accepted or refused for good. -/
def SendMessageResult.Settled (res : SendMessageResult) : Prop :=
  res.success = true ∨ res.isTemporaryError = false

section Ways

variable {env : Env} {w v : World} {res : SendMessageResult} {error : String}

/-! ### The worker -/

/-- The refund of a refused message. -/
def RefundPosted (w v : World) (customerId : Id) (cost : ℚ) (requestId reason : String) : Prop :=
  ∃ balance wallet, WalletService.refundCredits resolves (w.db.wallets customerId) cost "otp_request_failure"
      requestId reason = .ok (balance, wallet) ∧
    v.db.wallets = Function.update w.db.wallets customerId (some wallet)

/-- What `processSendOtpJob` leaves: a message with its event, the status, and a refund if the
message was refused. -/
structure Worked (w v : World) (data : SendOtpJobData) (res : SendMessageResult) : Prop where
  messages : ∃ m, v.db.messages = w.db.messages ++ [m]
  messageEvents : ∃ e, v.db.messageEvents = w.db.messageEvents ++ [e]
  otpRequests : v.db.otpRequests = (w.db.setStatus data.otpRequestDbId
    (if res.success then .sent else .failed)).otpRequests
  paid : res.success = true → v.db.wallets = w.db.wallets
  refunded : res.success = false → RefundPosted w v data.customerId data.costCredits data.requestId
    (res.reason "Permanent Meta delivery failure")

theorem workLast_add (data : SendOtpJobData) :
    workLast (addSendOtpJob w data) res =
      run JobCall.advance ({ w with nextId := w.nextId + 1 }, .start ⟨w.nextId, data, 3⟩)
        (List.replicate (if res.success then 4 else 6) (delivers res)) := by
  simp only [workLast, addSendOtpJob, List.getLast?_append, List.getLast?_singleton, Option.some_or,
    Option.bind_some, List.dropLast_concat]

theorem workLast_worked (data : SendOtpJobData) (settled : res.Settled) :
    ∃ s, workLast (addSendOtpJob w data) res = some s ∧ Worked w s.1 data res := by
  rw [workLast_add]
  obtain ⟨success, wamid, isTemporaryError, errorMessage⟩ := res
  cases success with
  -- the four answers end the job: the call of the provider, the message, its event and the status
  | true => exact ⟨_, rfl, ⟨_, rfl⟩, ⟨_, rfl⟩, rfl, fun _ => rfl, fun refused => by cases refused⟩
  | false =>
    obtain rfl : isTemporaryError = false := settled.resolve_left Bool.false_ne_true
    obtain ⟨balance, wallet, paid⟩ := SendCall.refundCredits_isOk (w.db.wallets data.customerId)
      data.costCredits "otp_request_failure" data.requestId
      (SendMessageResult.reason ⟨false, wamid, false, errorMessage⟩ "Permanent Meta delivery failure")
    -- the refund and the dead letter come last, and find the wallets as they were
    have last (v : World) (same : v.db.wallets = w.db.wallets) :
        run JobCall.advance
          (v, ⟨⟨w.nextId, data, 3⟩, 0, .refund ⟨false, wamid, false, errorMessage⟩⟩)
          [delivers ⟨false, wamid, false, errorMessage⟩, delivers ⟨false, wamid, false, errorMessage⟩] =
        some (addDeadLetter (v.mapDb (·.setWallet data.customerId wallet))
            ⟨"terminal_failure", w.nextId, data.requestId, data.customerId,
              SendMessageResult.reason ⟨false, wamid, false, errorMessage⟩ "Permanent Meta delivery rejection"⟩,
          ⟨⟨w.nextId, data, 3⟩, 0, .completed false⟩) := by
      simp only [run, Option.bind_some, JobCall.advance, JobCall.step, JobCall.refunded, same, paid,
        delivers, if_true, JobCall.goto]
      rfl
    exact ⟨_, last _ rfl, ⟨_, rfl⟩, ⟨_, rfl⟩, rfl, fun accepted => (by cases accepted),
      fun _ => ⟨balance, wallet, paid, rfl⟩⟩

/-! ### The fallbacks -/

/-- A fallback writes no message and no event. -/
structure Unrecorded (w v : World) : Prop where
  messages : v.db.messages = w.db.messages
  messageEvents : v.db.messageEvents = w.db.messageEvents

/-- What the fallback of a send leaves: the status, and a refund if the message was refused. -/
structure SentDirectly (w v : World) (env : Env) (c : SendCall) (d : Dispatch) (res : SendMessageResult) :
    Prop extends Unrecorded w v where
  otpRequests : v.db.otpRequests = (w.db.setStatus d.record
    (if res.success then .sent else .failed)).otpRequests
  paid : res.success = true → v.db.wallets = w.db.wallets
  refunded : res.success = false → RefundPosted w v c.customer.id env.otpCreditCost d.requestId
    (res.reason "Delivery failed")

variable (env w res error) in
theorem SendCall.byFallback_direct {c : SendCall} {d : Dispatch} (here : c.pc = .enqueue d) :
    ∃ s, c.byFallback env w error res = some s ∧ SentDirectly w s.1 env c d res := by
  obtain ⟨body, apiKeyId, applicationId, customer, clientIp, idempotencyKey, draw, bytes, process, pc⟩ := c
  obtain rfl : pc = .enqueue d := here
  obtain ⟨success, wamid, isTemporaryError, errorMessage⟩ := res
  cases success with
  | true => exact ⟨_, rfl, ⟨rfl, rfl⟩, rfl, fun _ => rfl, fun refused => by cases refused⟩
  | false =>
    obtain ⟨balance, wallet, paid⟩ := refundCredits_isOk (w.db.wallets customer.id) env.otpCreditCost
      "otp_request_failure" d.requestId
      (SendMessageResult.reason ⟨false, wamid, isTemporaryError, errorMessage⟩ "Delivery failed")
    -- the refund is the last step, after the status
    have last (v : World) (same : v.db.wallets = w.db.wallets) :
        run (SendCall.advance env)
          (v, ⟨body, apiKeyId, applicationId, customer, clientIp, idempotencyKey, draw, bytes, process,
            .fallbackRefund d
              (SendMessageResult.reason ⟨false, wamid, isTemporaryError, errorMessage⟩ "Delivery failed")⟩)
          [delivers ⟨false, wamid, isTemporaryError, errorMessage⟩] =
        some (v.mapDb (·.setWallet customer.id wallet),
          SendCall.goto ⟨body, apiKeyId, applicationId, customer, clientIp, idempotencyKey, draw, bytes,
            process, .enqueue d⟩ (SendCall.finish env ⟨body, apiKeyId, applicationId, customer, clientIp,
              idempotencyKey, draw, bytes, process, .enqueue d⟩ d)) := by
      simp only [run, advance, step, same, paid, delivers, if_true, Option.bind_some]
      rfl
    exact ⟨_, last _ rfl, ⟨rfl, rfl⟩, rfl, fun accepted => (by cases accepted),
      fun _ => ⟨balance, wallet, paid, rfl⟩⟩

/-- The fallback of a resend leaves a refused message without a status and without a refund. -/
structure ResentDirectly (w v : World) (d : Redispatch) (res : SendMessageResult) : Prop
    extends Unrecorded w v where
  otpRequests : v.db.otpRequests =
    if res.success then (w.db.setStatus d.record.id .sent).otpRequests else w.db.otpRequests
  wallets : v.db.wallets = w.db.wallets

variable (env w res error) in
theorem ResendCall.byFallback_direct {c : ResendCall} {d : Redispatch} (here : c.pc = .enqueue d) :
    ∃ s, c.byFallback env w error res = some s ∧ ResentDirectly w s.1 d res := by
  obtain ⟨requestId, applicationId, customer, draw, process, pc⟩ := c
  obtain rfl : pc = .enqueue d := here
  obtain ⟨success, wamid, isTemporaryError, errorMessage⟩ := res
  cases success with
  | true => exact ⟨_, rfl, ⟨rfl, rfl⟩, rfl, rfl⟩
  | false => exact ⟨_, rfl, ⟨rfl, rfl⟩, rfl, rfl⟩

theorem SendCall.byQueue_eq {c : SendCall} {d : Dispatch} (here : c.pc = .enqueue d) :
    c.byQueue env w res = workLast (addSendOtpJob w (c.job env d)) res := by
  simp only [byQueue, step, here, Answer.resolved, if_true, Option.bind_some]

theorem ResendCall.byQueue_eq {c : ResendCall} {d : Redispatch} (here : c.pc = .enqueue d) :
    c.byQueue env w res = workLast (addSendOtpJob w (c.job env d)) res := by
  simp only [byQueue, step, here, Answer.resolved, if_true, Option.bind_some]

/-! ### Comparison -/

/-- The worker has one more message than a fallback. -/
theorem not_agrees {τ : Type} {direct : Option (World × τ)} {s : World × τ} {data : SendOtpJobData}
    (settled : res.Settled) (ended : direct = some s) (unrecorded : Unrecorded w s.1) :
    ¬ Agrees direct (workLast (addSendOtpJob w data) res) := by
  obtain ⟨t, worked_eq, worked⟩ := workLast_worked (w := w) data settled
  rintro ⟨v, left, u, right, same⟩
  obtain rfl : s = v := Option.some.inj (ended.symm.trans left)
  obtain rfl : t = u := Option.some.inj (worked_eq.symm.trans right)
  obtain ⟨m, recorded⟩ := worked.messages
  -- the worker has one more row
  have lengths := congrArg List.length same.messages
  rw [unrecorded.messages, recorded] at lengths
  simp at lengths

/-- No send and no resend leaves the same by its fallback as by the queue: the fallbacks write no
message and no message event. -/
theorem fallback_never_agrees (settled : res.Settled) :
    (∀ (c : SendCall) (d : Dispatch), c.pc = .enqueue d →
      ¬ Agrees (c.byFallback env w error res) (c.byQueue env w res)) ∧
    ∀ (c : ResendCall) (d : Redispatch), c.pc = .enqueue d →
      ¬ Agrees (c.byFallback env w error res) (c.byQueue env w res) := by
  constructor
  · intro c d here
    obtain ⟨s, ended, direct⟩ := SendCall.byFallback_direct env w res error here
    rw [c.byQueue_eq here]
    exact not_agrees settled ended direct.toUnrecorded
  · intro c d here
    obtain ⟨s, ended, direct⟩ := ResendCall.byFallback_direct env w res error here
    rw [c.byQueue_eq here]
    exact not_agrees settled ended direct.toUnrecorded

theorem refundCredits_ledger {row : Option Wallet} {cost : ℚ} {referenceType referenceId : String}
    {reason reason' : String} {x y : ℚ × Wallet}
    (first : WalletService.refundCredits resolves row cost referenceType referenceId reason = .ok x)
    (second : WalletService.refundCredits resolves row cost referenceType referenceId reason' = .ok y) :
    x.2.ledger = y.2.ledger := by
  -- whether the refund has been made before does not depend on its reason
  by_cases seen : WalletService.Refunded row referenceType (storedReferenceId referenceId)
  · rw [WalletService.refundCredits_duplicate seen] at first second
    cases first
    cases second
    rfl
  · rw [WalletService.refundCredits_fresh seen] at first second
    cases first
    cases second
    simp only [Wallet.ledger, Wallet.enter, WalletTransaction.posting, WalletService.refundEntry,
      List.map_append, List.map_cons, List.map_nil]

/-- One refund is the other but for the text of its reason. -/
theorem RefundPosted.same_ledger {u : World} {customerId : Id} {cost : ℚ} {requestId reason reason' : String}
    (first : RefundPosted w u customerId cost requestId reason)
    (second : RefundPosted w v customerId cost requestId reason') (id : Id) :
    (u.db.wallets id).map (·.ledger) = (v.db.wallets id).map (·.ledger) := by
  obtain ⟨_, _, paid, written⟩ := first
  obtain ⟨_, _, paid', written'⟩ := second
  rw [written, written']
  by_cases own : id = customerId
  · subst own
    simp only [Function.update_self, Option.map_some, refundCredits_ledger paid paid']
  · simp only [Function.update_of_ne own]

/-- The fallback of a send leaves the status and the ledger that the worker leaves. -/
theorem send_same_status_and_ledger (settled : res.Settled) {c : SendCall} {d : Dispatch}
    (here : c.pc = .enqueue d) :
    ∃ s t, c.byFallback env w error res = some s ∧ c.byQueue env w res = some t ∧
      SameStatusAndLedger s.1 t.1 := by
  obtain ⟨s, ended, direct⟩ := SendCall.byFallback_direct env w res error here
  obtain ⟨t, worked_eq, worked⟩ := workLast_worked (w := w) (c.job env d) settled
  refine ⟨s, t, ended, (c.byQueue_eq here).trans worked_eq, ?_, ?_⟩
  -- the job names the row that the fallback updates
  · rw [direct.otpRequests, worked.otpRequests]
    rfl
  · intro id
    cases outcome : res.success with
    | true => rw [direct.paid outcome, worked.paid outcome]
    | false => exact (direct.refunded outcome).same_ledger (worked.refunded outcome) id

/-- So does the fallback of a resend, if the provider accepts the message. -/
theorem resend_same_status_and_ledger (accepted : res.success = true) {c : ResendCall} {d : Redispatch}
    (here : c.pc = .enqueue d) :
    ∃ s t, c.byFallback env w error res = some s ∧ c.byQueue env w res = some t ∧
      SameStatusAndLedger s.1 t.1 := by
  obtain ⟨s, ended, direct⟩ := ResendCall.byFallback_direct env w res error here
  obtain ⟨t, worked_eq, worked⟩ := workLast_worked (w := w) (c.job env d) (.inl accepted)
  refine ⟨s, t, ended, (c.byQueue_eq here).trans worked_eq, ?_, ?_⟩
  · rw [direct.otpRequests, worked.otpRequests, if_pos accepted, if_pos accepted]
    rfl
  · intro id
    rw [direct.wallets, worked.paid accepted]

end Ways

section Sample

def Thread.enqueueing : Thread → Option (SendCall × Dispatch)
  | send c =>
    match c.pc with
    | .enqueue d => some (c, d)
    | _ => none
  | _ => none

theorem Thread.of_enqueueing {t : Thread} {c : SendCall} {d : Dispatch}
    (enqueueing : t.enqueueing = some (c, d)) : t = send c ∧ c.pc = .enqueue d := by
  cases t with
  | send b =>
    simp only [Thread.enqueueing] at enqueueing
    split at enqueueing
    · next here =>
      cases enqueueing
      exact ⟨rfl, here⟩
    · cases enqueueing
  | authenticating | verify | resend | status | register | sendOtpJob | webhook | dashboard =>
    cases enqueueing

def sampleEnqueues : List SystemLabel :=
  sampleRequest (.send ⟨"+4915112345678", none, 300, "otp_auth_v1", "en_US"⟩ none) :: resolve 0 28

/-- A send has been debited and stored, and is about to be queued. -/
def sampleEnqueueing : System :=
  (run (Pool.step (systemProgram OtpPool.sampleEnv)) sampleSystem sampleEnqueues).get (by decide +kernel)

end Sample

/-- The send is accepted by the provider. -/
theorem fallback_never_agrees_of_accepted :
    (∀ (c : SendCall) (d : Dispatch), c.pc = .enqueue d →
      ¬ Agrees (c.byFallback OtpPool.sampleEnv sampleEnqueueing.shared "Connection is closed."
          ⟨true, some "wamid.1", false, none⟩)
        (c.byQueue OtpPool.sampleEnv sampleEnqueueing.shared ⟨true, some "wamid.1", false, none⟩)) ∧
    ∀ (c : ResendCall) (d : Redispatch), c.pc = .enqueue d →
      ¬ Agrees (c.byFallback OtpPool.sampleEnv sampleEnqueueing.shared "Connection is closed."
          ⟨true, some "wamid.1", false, none⟩)
        (c.byQueue OtpPool.sampleEnv sampleEnqueueing.shared ⟨true, some "wamid.1", false, none⟩) :=
  fallback_never_agrees (.inl rfl)

/-- The worker records the message, the fallback does not. -/
theorem send_recorded_only_by_worker :
    ¬ ∀ (env : Env) (p q : System) (es : List SystemLabel) (i : ℕ) (c : SendCall) (d : Dispatch)
      (error : String) (res : SendMessageResult), run (Pool.step (systemProgram env)) p es = some q →
      q.threads[i]? = some (.send c) → c.pc = .enqueue d → res.Settled →
      Agrees (c.byFallback env q.shared error res) (c.byQueue env q.shared res) := by
  intro agrees
  obtain ⟨⟨c, d⟩, read⟩ : ∃ s, (sampleEnqueueing.threads[0]?).bind Thread.enqueueing = some s :=
    ⟨_, (Option.some_get (by decide +kernel)).symm⟩
  obtain ⟨t, there, enqueueing⟩ := Option.bind_eq_some_iff.mp read
  obtain ⟨rfl, here⟩ := Thread.of_enqueueing enqueueing
  -- the broker is offline, and the provider takes the message
  have agreed := agrees OtpPool.sampleEnv sampleSystem sampleEnqueueing sampleEnqueues 0 c d
    "Connection is closed." ⟨true, some "wamid.1", false, none⟩ (Option.some_get (by decide +kernel)).symm
    there here (.inl rfl)
  obtain ⟨s, ended, direct⟩ := SendCall.byFallback_direct OtpPool.sampleEnv sampleEnqueueing.shared
    ⟨true, some "wamid.1", false, none⟩ "Connection is closed." here
  rw [c.byQueue_eq here] at agreed
  exact not_agrees (.inl rfl) ended direct.toUnrecorded agreed

end SelfOtp
