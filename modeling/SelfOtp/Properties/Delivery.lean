import SelfOtp.Model.Providers
import SelfOtp.Properties.JobRefund

/-! The whole of a send job over the answers of the Graph API, and the two senders compared. -/
namespace SelfOtp

open Transition JobCall

/-- What an exchange settles for the job. -/
inductive Verdict where
  | delivered
  | refused
  /-- Nothing: the job tries again. -/
  | unclear
  deriving DecidableEq

/-- A success needs a 2xx status and a body that names the message; a refusal another status below
500, 429 excepted, and a text that can be kept. -/
def Exchange.verdict : Exchange → Verdict
  | .rejected _ => .unclear
  | .response status body =>
    if responseOk status then
      match body with
      | .json _ value =>
        match messageIdOf value with
        | .ok id =>
          if (⟨true, id, false, none⟩ : DispatchResult).idColumn.isSome then .delivered else .unclear
        | .error _ => .unclear
      | _ => .unclear
    else if 500 ≤ status ∨ status = 429 then .unclear
    else
      match body.readText with
      | .ok text => if (0 : UInt16) ∈ text then .unclear else .refused
      | .error _ => .unclear

/-- The answers of a job's attempts, with the database and the queue available: a row with a value
that its column does not take is refused. -/
def exchangeFate (exchanges : ℕ → Exchange) (refusal : String) : Fate
  | k, .send => (MetaWhatsAppProvider.sendOtp (exchanges k)).answer
  | k, .createMessage =>
    if (MetaWhatsAppProvider.sendOtp (exchanges k)).columns.isSome then .resolved else .threw refusal
  | _, _ => .resolved

/-! ### The result of one exchange -/

section Exchanges

variable (e : Exchange)

/-- What the worker sees of an exchange, by its verdict. -/
inductive Seen : Verdict → DispatchResult → Prop
  | delivered (res : DispatchResult) (row : SendMessageResult) (columns : res.columns = some row)
      (success : row.success = true) : Seen .delivered res
  | refused (res : DispatchResult) (row : SendMessageResult) (columns : res.columns = some row)
      (success : row.success = false) (final : row.isTemporaryError = false) : Seen .refused res
  | temporary (res : DispatchResult) (row : SendMessageResult) (columns : res.columns = some row)
      (success : row.success = false) (temporary : row.isTemporaryError = true) : Seen .unclear res
  | unstored (res : DispatchResult) (columns : res.columns = none) : Seen .unclear res

theorem columns_failure (temporary : Bool) (message : JsString) :
    (⟨false, none, temporary, some message⟩ : DispatchResult).columns =
      if (0 : UInt16) ∈ message then none else some ⟨false, none, temporary, some message.asString⟩ := by
  simp only [DispatchResult.columns, DispatchResult.idColumn, columnText]
  split <;> rfl

/-- A number is written without U+0000. -/
theorem zero_notMem_decimal (n : ℕ) : (0 : UInt16) ∉ js (toString n) := by
  intro member
  obtain ⟨c, digit, zero⟩ := List.mem_map.mp member
  rw [Nat.toString_eq_repr, Nat.toList_repr] at digit
  have isDigit := Nat.isDigit_of_mem_toDigits (by decide) (by decide) digit
  simp only [Char.isDigit, Bool.and_eq_true, decide_eq_true_eq] at isDigit
  have low : 48 ≤ c.toNat := isDigit.1
  have high : c.toNat ≤ 57 := isDigit.2
  have value := congrArg UInt16.toNat zero
  simp at value
  omega

theorem seen_networkError (message : JsString) : Seen .unclear (MetaWhatsAppProvider.networkError message) := by
  have columns := columns_failure true (js "Network error: " ++ message)
  split at columns
  · exact .unstored _ columns
  · exact .temporary _ _ columns rfl rfl

theorem sendOtp_seen : Seen e.verdict (MetaWhatsAppProvider.sendOtp e) := by
  cases e with
  | rejected message => exact seen_networkError message
  | response status body =>
    simp only [Exchange.verdict, MetaWhatsAppProvider.sendOtp]
    by_cases success : responseOk status
    · simp only [success, if_true]
      cases body with
      | lost message => exact seen_networkError message
      | text t message => exact seen_networkError message
      | json t value =>
        simp only [HttpBody.readJson]
        cases found : messageIdOf value with
        | error message => exact seen_networkError message
        | ok id =>
          simp only
          cases column : (⟨true, id, false, none⟩ : DispatchResult).idColumn with
          | none => exact .unstored _ (by simp only [DispatchResult.columns, column])
          | some wamid =>
            exact .delivered _ ⟨true, wamid, false, none⟩
              (by simp only [DispatchResult.columns, column]) rfl
    · simp only [success, if_false, Bool.false_eq_true]
      cases read : body.readText with
      | error message =>
        simp only [ite_self]
        exact seen_networkError message
      | ok errorText =>
        simp only
        have columns := columns_failure (500 ≤ status || status == 429)
          (js "Meta API error (HTTP " ++ js (toString status) ++ js "): " ++ errorText)
        have zero : (0 : UInt16) ∈
            js "Meta API error (HTTP " ++ js (toString status) ++ js "): " ++ errorText ↔
            (0 : UInt16) ∈ errorText := by
          have first : (0 : UInt16) ∉ js "Meta API error (HTTP " := by decide
          have last : (0 : UInt16) ∉ js "): " := by decide
          simp only [List.mem_append, first, zero_notMem_decimal, last, false_or]
        simp only [zero] at columns
        by_cases temporary : 500 ≤ status ∨ status = 429
        · rw [if_pos temporary]
          split at columns
          · exact .unstored _ columns
          · exact .temporary _ _ columns rfl (by simpa using temporary)
        · rw [if_neg temporary]
          split at columns
          next zero_text =>
            rw [if_pos zero_text]
            exact .unstored _ columns
          next clean =>
            rw [if_neg clean]
            exact .refused _ _ columns rfl (by simpa using temporary)

end Exchanges

/-! ### The job -/

section Jobs

variable {exchanges : ℕ → Exchange} {refusal : String} {job : SendOtpJob} {w w' : World} {k : ℕ}

/-- What the provider is asked for in attempt `k`. -/
def providerCall (exchanges : ℕ → Exchange) (job : SendOtpJob) (k : ℕ) : ProviderCall :=
  ⟨job.data.phoneNumber, job.data.otpCode, job.data.templateName, job.data.languageCode,
    (MetaWhatsAppProvider.sendOtp (exchanges k)).success⟩

/-- The attempts whose message is entered. -/
def entered (exchanges : ℕ → Exchange) (made : ℕ) : ℕ :=
  (List.range made).countP fun k => (MetaWhatsAppProvider.sendOtp (exchanges k)).columns.isSome

/-- `made` attempts have asked the provider and entered their messages. -/
structure Asked (exchanges : ℕ → Exchange) (job : SendOtpJob) (w w' : World) (made : ℕ) : Prop where
  calls : w'.provider = ((List.range made).map (providerCall exchanges job)).reverse ++ w.provider
  messages : w'.db.messages.length = w.db.messages.length + entered exchanges made

/-- Nothing else has happened. -/
structure Unsettled (exchanges : ℕ → Exchange) (job : SendOtpJob) (w w' : World) (made : ℕ) : Prop
    extends Asked exchanges job w w' made where
  rows : w'.db.otpRequests = w.db.otpRequests
  wallets : w'.db.wallets = w.db.wallets
  letters : w'.deadLetters = w.deadLetters

/-- The request has its last status; it stays charged exactly if it was delivered, and else it is
refunded and reported. -/
structure Concluded (exchanges : ℕ → Exchange) (job : SendOtpJob) (w w' : World) (made : ℕ)
    (delivered : Bool) : Prop extends Asked exchanges job w w' made where
  rows : w'.db.otpRequests =
    (w.db.setStatus job.data.otpRequestDbId (if delivered then .sent else .failed)).otpRequests
  charged : delivered = true → w'.db.wallets = w.db.wallets
  refunded : delivered = false → RefundEntered job.data.customerId w w'
  letters : w'.deadLetters.length = w.deadLetters.length + if delivered then 0 else 1

theorem Unsettled.refl (exchanges : ℕ → Exchange) (job : SendOtpJob) (w : World) :
    Unsettled exchanges job w w 0 := ⟨⟨rfl, rfl⟩, rfl, rfl, rfl⟩

theorem columns_flags {res : DispatchResult} {row : SendMessageResult} (columns : res.columns = some row) :
    row.success = res.success ∧ row.isTemporaryError = res.isTemporaryError := by
  unfold DispatchResult.columns at columns
  split at columns
  · cases columns
  · split at columns
    · cases columns
      exact ⟨rfl, rfl⟩
    · obtain ⟨text, -, rfl⟩ := Option.map_eq_some_iff.mp columns
      exact ⟨rfl, rfl⟩

theorem entered_succ (exchanges : ℕ → Exchange) (k : ℕ) : entered exchanges (k + 1) =
    entered exchanges k + if (MetaWhatsAppProvider.sendOtp (exchanges k)).columns.isSome then 1 else 0 := by
  simp only [entered, List.range_succ, List.countP_append, List.countP_singleton]

/-- The provider is asked in attempt `k`; nothing is entered yet. -/
theorem asks (exchanges : ℕ → Exchange) (refusal : String) (job : SendOtpJob) (w' : World) (k : ℕ) :
    ∃ w'', next (exchangeFate exchanges refusal) (w', ⟨job, k, .send⟩) =
        some (w'', ⟨job, k, .createMessage (MetaWhatsAppProvider.sendOtp (exchanges k)).answer.delivery⟩) ∧
      w''.provider = providerCall exchanges job k :: w'.provider ∧ w''.db = w'.db ∧
      w''.deadLetters = w'.deadLetters := by
  refine ⟨_, rfl, ?_, rfl, rfl⟩
  have success : (MetaWhatsAppProvider.sendOtp (exchanges k)).answer.delivery.success =
      (MetaWhatsAppProvider.sendOtp (exchanges k)).success := by
    simp only [DispatchResult.answer]
    cases columns : (MetaWhatsAppProvider.sendOtp (exchanges k)).columns with
    | none => rfl
    | some row => exact (columns_flags columns).1
  simp only [sendOtp, providerCall, exchangeFate, success]

theorem Unsettled.asked (pending : Unsettled exchanges job w w' k) {w'' : World}
    (provider : w''.provider = providerCall exchanges job k :: w'.provider)
    (messages : w''.db.messages.length = w'.db.messages.length +
      if (MetaWhatsAppProvider.sendOtp (exchanges k)).columns.isSome then 1 else 0) :
    Asked exchanges job w w'' (k + 1) := by
  constructor
  · rw [provider, pending.calls, List.range_succ, List.map_append, List.reverse_append]
    rfl
  · rw [messages, pending.messages, entered_succ, Nat.add_assoc]

variable (refusal)

/-- A row that is refused ends the attempt. -/
theorem Unsettled.unstored (pending : Unsettled exchanges job w w' k)
    (columns : (MetaWhatsAppProvider.sendOtp (exchanges k)).columns = none) :
    ∃ w'' pc error, Passes (next (exchangeFate exchanges refusal)) 2 (w', ⟨job, k, .send⟩)
        (w'', (⟨job, k, pc⟩ : JobCall).threw error) ∧
      Unsettled exchanges job w w'' (k + 1) := by
  obtain ⟨w'', sent, provider, db, letters⟩ := asks exchanges refusal job w' k
  have answer : exchangeFate exchanges refusal k .createMessage = .threw refusal := by
    simp only [exchangeFate, columns, Option.isSome_none, Bool.false_eq_true, if_false]
  have fails (res : SendMessageResult) :
      next (exchangeFate exchanges refusal) (w'', ⟨job, k, .createMessage res⟩) =
        some (w'', (⟨job, k, .createMessage res⟩ : JobCall).threw refusal) := by
    simp only [next, await, step, answer]
    rfl
  refine ⟨w'', _, refusal, .step sent (.step (fails _) .here), pending.asked provider ?_, ?_, ?_, ?_⟩
  · rw [db, columns]
    rfl
  · rw [db, pending.rows]
  · rw [db, pending.wallets]
  · rw [letters, pending.letters]

/-- A row that is taken is followed by its event, and then by what the result calls for. -/
theorem Unsettled.recorded (pending : Unsettled exchanges job w w' k) {row : SendMessageResult}
    (columns : (MetaWhatsAppProvider.sendOtp (exchanges k)).columns = some row) :
    ∃ w'' pc, Passes (next (exchangeFate exchanges refusal)) 3 (w', ⟨job, k, .send⟩)
        (w'', if row.success then ⟨job, k, .markSent⟩
          else if row.isTemporaryError then
            (⟨job, k, pc⟩ : JobCall).threw (row.reason "Temporary delivery failure")
          else ⟨job, k, .markFailed row⟩) ∧
      Unsettled exchanges job w w'' (k + 1) := by
  obtain ⟨w1, sent, provider, db, letters⟩ := asks exchanges refusal job w' k
  have delivery : (MetaWhatsAppProvider.sendOtp (exchanges k)).answer.delivery = row := by
    simp only [DispatchResult.answer, columns, Option.getD_some]
  rw [delivery] at sent
  have answer : exchangeFate exchanges refusal k .createMessage = .resolved := by
    simp only [exchangeFate, columns, Option.isSome_some, if_true]
  obtain ⟨w2, created, provider2, entered2, rows2, wallets2, letters2⟩ : ∃ w2,
      next (exchangeFate exchanges refusal) (w1, ⟨job, k, .createMessage row⟩) =
        some (w2, ⟨job, k, .createEvent row w1.nextId⟩) ∧
      w2.provider = w1.provider ∧ w2.db.messages.length = w1.db.messages.length + 1 ∧
      w2.db.otpRequests = w1.db.otpRequests ∧ w2.db.wallets = w1.db.wallets ∧
      w2.deadLetters = w1.deadLetters := by
    refine ⟨{ w1 with
      db := { w1.db with
        messages := w1.db.messages ++ [(⟨job, k, .createMessage row⟩ : JobCall).message w1 row] }
      nextId := w1.nextId + 1 }, ?_, rfl, ?_, rfl, rfl, rfl⟩
    · simp only [next, await, step, answer]
      rfl
    · simp only [List.length_append, List.length_singleton]
  obtain ⟨w3, event, provider3, entered3, rows3, wallets3, letters3⟩ : ∃ w3,
      next (exchangeFate exchanges refusal) (w2, ⟨job, k, .createEvent row w1.nextId⟩) =
        some (w3, if row.success then ⟨job, k, .markSent⟩
          else if row.isTemporaryError then
            (⟨job, k, .createEvent row w1.nextId⟩ : JobCall).threw (row.reason "Temporary delivery failure")
          else ⟨job, k, .markFailed row⟩) ∧
      w3.provider = w2.provider ∧ w3.db.messages = w2.db.messages ∧
      w3.db.otpRequests = w2.db.otpRequests ∧ w3.db.wallets = w2.db.wallets ∧
      w3.deadLetters = w2.deadLetters := by
    simp only [next, await, step, exchangeFate, Answer.resolved, if_true]
    split
    · exact ⟨_, rfl, rfl, rfl, rfl, rfl, rfl⟩
    · split <;> exact ⟨_, rfl, rfl, rfl, rfl, rfl, rfl⟩
  refine ⟨w3, .createEvent row w1.nextId, .step sent (.step created (.step event .here)),
    pending.asked (provider3.trans (provider2.trans provider)) ?_, ?_, ?_, ?_⟩
  · rw [columns, entered3]
    exact entered2.trans (by rw [db]; rfl)
  · exact rows3.trans (rows2.trans (by rw [db, pending.rows]))
  · exact wallets3.trans (wallets2.trans (by rw [db, pending.wallets]))
  · exact letters3.trans (letters2.trans (letters.trans pending.letters))

/-- The last statements of a success. -/
theorem Unsettled.delivered (pending : Unsettled exchanges job w w' (k + 1)) :
    ∃ w'', Passes (next (exchangeFate exchanges refusal)) 1 (w', ⟨job, k, .markSent⟩)
        (w'', ⟨job, k, .completed true⟩) ∧
      Concluded exchanges job w w'' (k + 1) true := by
  refine ⟨w'.mapDb (·.setStatus job.data.otpRequestDbId .sent), .step rfl .here,
    ⟨pending.calls, pending.messages⟩, ?_, fun _ => pending.wallets, fun h => (by cases h), ?_⟩
  · simp only [World.mapDb_db, Database.setStatus, Database.updateOtpRequest, pending.rows, if_true]
  · exact congrArg List.length pending.letters

/-- A refund of an unsettled job is the first one. -/
theorem Unsettled.refund (pending : Unsettled exchanges job w w' (k + 1)) (fresh : ¬RefundSeen job.data w)
    (c : JobCall) (of_job : c.job = job) (reason : String) :
    ∃ w'', JobCall.refunded (w'.mapDb (·.setStatus job.data.otpRequestDbId .failed)) c reason = .ok w'' ∧
      w''.provider = w'.provider ∧ w''.db.messages = w'.db.messages ∧
      w''.db.otpRequests = (w.db.setStatus job.data.otpRequestDbId .failed).otpRequests ∧
      w''.deadLetters = w'.deadLetters ∧ RefundEntered job.data.customerId w w'' := by
  subst of_job
  let failed := w'.mapDb (·.setStatus c.job.data.otpRequestDbId .failed)
  have wallets : failed.db.wallets = w.db.wallets := pending.wallets
  have unseen : ¬RefundSeen c.job.data failed := by rwa [RefundSeen, wallets]
  obtain ⟨w'', granted⟩ := refunded_ok failed c reason
  obtain ⟨entry, is_refund, appended⟩ :=
    ((Progress.refl c.job.data failed).refund rfl granted).entered rfl unseen
  have refunded : RefundEntered c.job.data.customerId w w'' := by
    refine ⟨entry, is_refund, ?_⟩
    rw [appended, JobCall.ledger, wallets, JobCall.ledger]
  have rows : failed.db.otpRequests = (w.db.setStatus c.job.data.otpRequestDbId .failed).otpRequests := by
    simp only [failed, World.mapDb_db, Database.setStatus, Database.updateOtpRequest, pending.rows]
  refine ⟨w'', granted, ?_⟩
  unfold JobCall.refunded at granted
  split at granted <;> cases granted
  exact ⟨rfl, rfl, rows, rfl, refunded⟩

/-- The last statements of a refusal. -/
theorem Unsettled.refused (pending : Unsettled exchanges job w w' (k + 1)) (fresh : ¬RefundSeen job.data w)
    (row : SendMessageResult) :
    ∃ w'', Passes (next (exchangeFate exchanges refusal)) 3 (w', ⟨job, k, .markFailed row⟩)
        (w'', ⟨job, k, .completed false⟩) ∧
      Concluded exchanges job w w'' (k + 1) false := by
  obtain ⟨w1, granted, provider, messages, rows, letters, refunded⟩ := pending.refund fresh
    ⟨job, k, .refund row⟩ rfl (row.reason "Permanent Meta delivery failure")
  let letter := (⟨job, k, .deadLetter row⟩ : JobCall).letter "terminal_failure"
    (row.reason "Permanent Meta delivery rejection")
  have refunds : next (exchangeFate exchanges refusal)
      (w'.mapDb (·.setStatus job.data.otpRequestDbId .failed), ⟨job, k, .refund row⟩) =
        some (w1, ⟨job, k, .deadLetter row⟩) := by
    simp only [next, await, step, exchangeFate, Answer.resolved, if_true, granted, goto]
  refine ⟨addDeadLetter w1 letter, .step rfl (.step refunds (.step rfl .here)),
    ⟨provider.trans pending.calls, ?_⟩, rows, fun h => (by cases h), fun _ => refunded, ?_⟩
  · exact (congrArg List.length messages).trans pending.messages
  · simp only [addDeadLetter, List.length_append, List.length_singleton, letters, pending.letters]
    rfl

/-- The `catch` block of the last attempt. -/
theorem Unsettled.exhausted (pending : Unsettled exchanges job w w' (k + 1)) (fresh : ¬RefundSeen job.data w)
    (last : k + 1 = job.attempts) (pc : JobPc) (error : String) :
    ∃ w'', Passes (next (exchangeFate exchanges refusal)) 3 (w', (⟨job, k, pc⟩ : JobCall).threw error)
        (w'', ⟨job, k + 1, .failed⟩) ∧
      Concluded exchanges job w w'' (k + 1) false := by
  have begins : (⟨job, k, pc⟩ : JobCall).threw error = ⟨job, k, .exhaustedMark error⟩ := by
    have retries : (⟨job, k, pc⟩ : JobCall).maxRetries = job.attempts := by
      simp only [maxRetries]
      rw [if_neg (by omega)]
    simp only [threw, retries, if_pos last.ge, goto]
  have final : (⟨job, k, .exhaustedDeadLetter error⟩ : JobCall).rethrow = ⟨job, k + 1, .failed⟩ := by
    simp only [rethrow, last, lt_irrefl, if_false]
  obtain ⟨w1, granted, provider, messages, rows, letters, refunded⟩ := pending.refund fresh
    ⟨job, k, .exhaustedRefund error⟩ rfl ("Max retries exceeded: " ++ error)
  let letter := (⟨job, k, .exhaustedDeadLetter error⟩ : JobCall).letter "max_retries_exceeded"
    ("Max retries exceeded: " ++ error)
  have refunds : next (exchangeFate exchanges refusal)
      (w'.mapDb (·.setStatus job.data.otpRequestDbId .failed), ⟨job, k, .exhaustedRefund error⟩) =
        some (w1, ⟨job, k, .exhaustedDeadLetter error⟩) := by
    simp only [next, await, step, exchangeFate, Answer.resolved, if_true, granted, goto]
  have buries : next (exchangeFate exchanges refusal) (w1, ⟨job, k, .exhaustedDeadLetter error⟩) =
      some (addDeadLetter w1 letter, ⟨job, k + 1, .failed⟩) := by
    simp only [next, await, step, exchangeFate, Answer.resolved, if_true, final, letter]
  rw [begins]
  refine ⟨addDeadLetter w1 letter, .step rfl (.step refunds (.step buries .here)),
    ⟨provider.trans pending.calls, ?_⟩, rows, fun h => (by cases h), fun _ => refunded, ?_⟩
  · exact (congrArg List.length messages).trans pending.messages
  · simp only [addDeadLetter, List.length_append, List.length_singleton, letters, pending.letters]
    rfl

/-- Where the last attempt, the `j`-th, leaves the job. -/
def Verdict.pc : Verdict → JobPc
  | delivered => .completed true
  | refused => .completed false
  | unclear => .failed

/-- The job ends with attempt `j`, the first one that settles anything or else the last. -/
structure EndsWith (exchanges : ℕ → Exchange) (job : SendOtpJob) (w : World) (s : World × JobCall)
    (j : ℕ) : Prop where
  within : j < job.attempts
  unclear : ∀ i < j, (exchanges i).verdict = .unclear
  last : (exchanges j).verdict = .unclear → j + 1 = job.attempts
  pc : s.2.pc = (exchanges j).verdict.pc
  settled : Concluded exchanges job w s.1 (j + 1) (decide ((exchanges j).verdict = .delivered))

theorem EndsWith.stopped {s : World × JobCall} {j : ℕ} (ends : EndsWith exchanges job w s j) :
    s.2.await = none := by
  rw [await, ends.pc]
  cases (exchanges j).verdict <;> rfl

theorem Unsettled.again (pending : Unsettled exchanges job w w' (k + 1)) (fresh : ¬RefundSeen job.data w)
    (within : k < job.attempts) (unclear : ∀ i < k + 1, (exchanges i).verdict = .unclear)
    (pc : JobPc) (error : String)
    (later : k + 1 < job.attempts → ∃ s j,
      Passes (next (exchangeFate exchanges refusal)) (6 * (job.attempts - (k + 1)))
          (w', ⟨job, k + 1, .send⟩) s ∧
        EndsWith exchanges job w s j) :
    ∃ s j, Passes (next (exchangeFate exchanges refusal)) (6 * (job.attempts - (k + 1)) + 3)
        (w', (⟨job, k, pc⟩ : JobCall).threw error) s ∧
      EndsWith exchanges job w s j := by
  by_cases more : k + 1 < job.attempts
  · have retries : (⟨job, k, pc⟩ : JobCall).maxRetries = job.attempts := by
      simp only [maxRetries]
      rw [if_neg (by omega)]
    have begins : (⟨job, k, pc⟩ : JobCall).threw error = ⟨job, k + 1, .send⟩ := by
      simp only [threw, retries, if_neg (not_le.mpr more), rethrow, if_pos more]
    rw [begins]
    obtain ⟨s, j, passes, ends⟩ := later more
    exact ⟨s, j, passes.mono (by omega), ends⟩
  · have last : k + 1 = job.attempts := by omega
    have now := unclear k (Nat.lt_succ_self k)
    obtain ⟨w'', passes, settled⟩ := pending.exhausted refusal fresh last pc error
    refine ⟨_, k, passes.mono (by omega), within, fun i lt => unclear i (by omega), fun _ => last, ?_, ?_⟩
    · rw [now]
      rfl
    · simpa only [now, reduceCtorEq, decide_false] using settled

/-- The attempts from the `k`-th on. -/
theorem Unsettled.ends {w' : World} {k : ℕ} (pending : Unsettled exchanges job w w' k)
    (fresh : ¬RefundSeen job.data w) (within : k < job.attempts)
    (unclear : ∀ i < k, (exchanges i).verdict = .unclear) :
    ∃ s j, Passes (next (exchangeFate exchanges refusal)) (6 * (job.attempts - k))
        (w', ⟨job, k, .send⟩) s ∧
      EndsWith exchanges job w s j := by
  have extend (now : (exchanges k).verdict = .unclear) : ∀ i < k + 1, (exchanges i).verdict = .unclear := by
    intro i lt
    rcases Nat.lt_succ_iff_lt_or_eq.mp lt with earlier | rfl
    · exact unclear i earlier
    · exact now
  have seen := sendOtp_seen (exchanges k)
  generalize verdict : (exchanges k).verdict = v at seen
  generalize sent : MetaWhatsAppProvider.sendOtp (exchanges k) = res at seen
  cases seen with
  | delivered _ row columns success =>
    rw [← sent] at columns
    obtain ⟨w1, pc, reaches, recorded⟩ := pending.recorded refusal columns
    rw [success, if_pos rfl] at reaches
    obtain ⟨w2, ends, settled⟩ := recorded.delivered refusal
    refine ⟨_, k, (reaches.trans ends).mono (by omega), within, unclear, ?_, ?_, ?_⟩
    · rw [verdict]
      exact fun h => (by cases h)
    · rw [verdict]
      rfl
    · simpa only [verdict, decide_true] using settled
  | refused _ row columns success final =>
    rw [← sent] at columns
    obtain ⟨w1, pc, reaches, recorded⟩ := pending.recorded refusal columns
    rw [success, final, if_neg Bool.false_ne_true, if_neg Bool.false_ne_true] at reaches
    obtain ⟨w2, ends, settled⟩ := recorded.refused refusal fresh row
    refine ⟨_, k, (reaches.trans ends).mono (by omega), within, unclear, ?_, ?_, ?_⟩
    · rw [verdict]
      exact fun h => (by cases h)
    · rw [verdict]
      rfl
    · simpa only [verdict, reduceCtorEq, decide_false] using settled
  | temporary _ row columns success temporary =>
    rw [← sent] at columns
    obtain ⟨w1, pc, reaches, recorded⟩ := pending.recorded refusal columns
    rw [success, temporary, if_neg Bool.false_ne_true, if_pos rfl] at reaches
    obtain ⟨s, j, passes, ends⟩ := recorded.again refusal fresh within (extend verdict) pc _
      fun more => recorded.ends fresh more (extend verdict)
    exact ⟨s, j, (reaches.trans passes).mono (by omega), ends⟩
  | unstored _ columns =>
    rw [← sent] at columns
    obtain ⟨w1, pc, error, reaches, recorded⟩ := pending.unstored refusal columns
    obtain ⟨s, j, passes, ends⟩ := recorded.again refusal fresh within (extend verdict) pc error
      fun more => recorded.ends fresh more (extend verdict)
    exact ⟨s, j, (reaches.trans passes).mono (by omega), ends⟩
termination_by job.attempts - k

end Jobs

/-- A send job ends with the first attempt whose exchange with the Graph API settles it, or with its
last: up to then every attempt has asked the provider, and the customer stays charged exactly if that
attempt was accepted, and is refunded otherwise. -/
theorem job_ends (exchanges : ℕ → Exchange) (refusal : String) (job : SendOtpJob) (w : World)
    (positive : 0 < job.attempts) (fresh : ¬RefundSeen job.data w) :
    ∃ j, EndsWith exchanges job w (final (exchangeFate exchanges refusal) job w) j := by
  obtain ⟨s, j, passes, ends⟩ := (Unsettled.refl exchanges job w).ends refusal fresh positive
    fun i lt => absurd lt (Nat.not_lt_zero i)
  have stopped : next (exchangeFate exchanges refusal) s = none := by simp only [next, ends.stopped]
  have more : Passes (next (exchangeFate exchanges refusal)) (9 * job.attempts) (w, JobCall.start job) s :=
    passes.mono (by omega)
  exact ⟨j, by rwa [final, more.stopped stopped]⟩

/-- Meta is overloaded, then takes the message without saying so legibly, then refuses it. -/
def sampleExchanges : ℕ → Exchange
  | 0 => .response 503 (.text (js "busy") (js "Unexpected token 'b'"))
  | 1 => .response 200 (.text (js "ok") (js "Unexpected token 'o'"))
  | _ => .response 400 (.json (js "\x7b\x7d") (.object []))

theorem job_ends_sampleExchanges :
    ∃ j, EndsWith sampleExchanges sampleJob chargedWorld
      (final (exchangeFate sampleExchanges "refused") sampleJob chargedWorld) j := by
  refine job_ends sampleExchanges "refused" sampleJob chargedWorld (by decide) ?_
  rintro ⟨entry, member, -, -, is_refund⟩
  cases List.mem_singleton.mp member
  cases is_refund

/-! ### The two senders -/

/-- On the Edge a template and a language that are given stand, and the number and the token of a real
account are not those of the mock mode. -/
theorem senders_agree (config : MetaConfig) (phoneNumber otpCode templateName languageCode : JsString)
    (version : config.apiVersion ≠ []) (template : templateName ≠ []) (language : languageCode ≠ []) :
    (⟨some config.apiVersion, some config.phoneNumberId, some config.accessToken, .string phoneNumber, otpCode,
        some (.string templateName), some (.string languageCode)⟩ : Edge.MetaOptions).request =
      MetaWhatsAppProvider.request config phoneNumber otpCode templateName languageCode ∧
    ∀ e : Exchange, (Edge.sendWhatsAppOtp e).success = (MetaWhatsAppProvider.sendOtp e).success ∧
      ((Edge.sendWhatsAppOtp e).success = true →
        (Edge.sendWhatsAppOtp e).messageId =
          Json.orElse (MetaWhatsAppProvider.sendOtp e).providerMessageId (.string [])) := by
  refine ⟨?_, fun e => ?_⟩
  · simp [Edge.MetaOptions.request, MetaWhatsAppProvider.request, MetaWhatsAppProvider.formatPayload,
      Edge.blank, Json.orElse, Json.truthy, version, template, language]
  · cases e with
    | rejected message => exact ⟨rfl, fun h => (by cases h)⟩
    | response status body =>
      cases ok : responseOk status with
      | true =>
        simp only [Edge.sendWhatsAppOtp, MetaWhatsAppProvider.sendOtp, ok]
        cases body.readJson with
        | error message => exact ⟨rfl, fun h => (by cases h)⟩
        | ok data =>
          simp only
          cases found : messageIdOf data with
          | error message => simp [MetaWhatsAppProvider.networkError, Edge.failure]
          | ok id => simp
      | false =>
        have edge : (Edge.sendWhatsAppOtp (.response status body)).success = false := by
          simp only [Edge.sendWhatsAppOtp, ok]
          cases body.readJson with
          | error message => rfl
          | ok data =>
            simp only [Bool.not_false, if_true]
            cases data.get "error" <;> rfl
        have node : (MetaWhatsAppProvider.sendOtp (.response status body)).success = false := by
          simp only [MetaWhatsAppProvider.sendOtp, ok]
          cases body.readText <;> rfl
        rw [edge, node]
        exact ⟨rfl, fun h => (by cases h)⟩

theorem senders_agree_german :
    (⟨some (js "v20.0"), some (js "106540352242922"), some (js "EAAG"), .string (js "+4915112345678"),
        js "123456", some (.string (js "otp_auth_v1")), some (.string (js "de"))⟩ : Edge.MetaOptions).request =
      MetaWhatsAppProvider.request ⟨js "v20.0", js "106540352242922", js "EAAG"⟩ (js "+4915112345678")
        (js "123456") (js "otp_auth_v1") (js "de") ∧
    ∀ e : Exchange, (Edge.sendWhatsAppOtp e).success = (MetaWhatsAppProvider.sendOtp e).success ∧
      ((Edge.sendWhatsAppOtp e).success = true →
        (Edge.sendWhatsAppOtp e).messageId =
          Json.orElse (MetaWhatsAppProvider.sendOtp e).providerMessageId (.string [])) :=
  senders_agree ⟨js "v20.0", js "106540352242922", js "EAAG"⟩ (js "+4915112345678") (js "123456")
    (js "otp_auth_v1") (js "de") (by decide) (by decide) (by decide)

end SelfOtp
