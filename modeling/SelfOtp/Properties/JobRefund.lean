import SelfOtp.Lib.Transition
import SelfOtp.Model.Worker
import SelfOtp.Properties.Wallet

/-! Refund and delivery of one send job, for every way its awaited calls can end. -/
namespace SelfOtp.JobCall

open Transition WalletService

/-! ### The attempts, read off the answers -/

namespace Fate

variable (fate : Fate) (k : ℕ)

/-- The provider accepts the message in attempt `k`. -/
def accepts : Bool := (fate k .send).ok && (fate k .send).delivery.success

def recordsMessage : Bool :=
  (fate k .send).ok && (fate k .createMessage).ok && (fate k .createEvent).ok

/-- The provider refuses for good and the message is recorded. -/
def refused : Bool :=
  recordsMessage fate k && !(fate k .send).delivery.success &&
    !(fate k .send).delivery.isTemporaryError

/-- Attempt `k` grants the refund for a permanent failure. -/
def refunds : Bool := refused fate k && (fate k .markFailed).ok && (fate k .refund).ok

/-- Attempt `k` runs to its `return`. -/
def returns : Bool :=
  (recordsMessage fate k && (fate k .send).delivery.success && (fate k .markSent).ok) ||
    (refunds fate k && (fate k .deadLetter).ok)

/-- Attempt `k` is made: all before it threw. -/
def Reached : Prop := ∀ j < k, returns fate j = false

instance : Decidable (Reached fate k) := inferInstanceAs (Decidable (∀ j < k, _))

/-- One of `n` attempts is made and accepted. -/
def Delivered (n : ℕ) : Prop := ∃ j < n, Reached fate j ∧ accepts fate j = true

/-- One of `n` attempts is made and grants the refund, or all of them throw and the refund
after the last one is granted. -/
def Refunds (n : ℕ) : Prop :=
  (∃ j < n, Reached fate j ∧ refunds fate j = true) ∨
    (Reached fate n ∧ (fate (n - 1) .exhaustedRefund).ok = true)

instance (n : ℕ) : Decidable (Delivered fate n) :=
  inferInstanceAs (Decidable (∃ j < n, _ ∧ _))

instance (n : ℕ) : Decidable (Refunds fate n) := inferInstanceAs (Decidable (_ ∨ _))

end Fate

/-! ### What the job has done to the world -/

def ledger (w : World) (customerId : Id) : List WalletTransaction :=
  (getOrCreateWallet (w.db.wallets customerId)).transactions

def acceptedCalls (w : World) : ℕ := w.provider.countP (·.accepted)

/-- A refund has been entered in the customer's ledger. -/
def RefundEntered (customerId : Id) (w w' : World) : Prop :=
  ∃ entry, entry.transactionType = .refund ∧ ledger w' customerId = ledger w customerId ++ [entry]

/-- The ledger has a refund that the request id is taken to repeat. -/
def RefundSeen (data : SendOtpJobData) (w : World) : Prop :=
  Refunded (w.db.wallets data.customerId) "otp_request_failure" (storedReferenceId data.requestId)

/-- From `w` to `w'` the provider has accepted the message (`accepted`), and a refund call has
succeeded (`refunded`). -/
structure Progress (data : SendOtpJobData) (w w' : World) (accepted refunded : Bool) : Prop where
  monotone : acceptedCalls w ≤ acceptedCalls w'
  accepted : accepted = true ↔ acceptedCalls w < acceptedCalls w'
  entered : refunded = true → ¬RefundSeen data w → RefundEntered data.customerId w w'
  unchanged : refunded = false ∨ RefundSeen data w →
    ledger w' data.customerId = ledger w data.customerId
  seen : RefundSeen data w' ↔ RefundSeen data w ∨ refunded = true

section Progress

variable {data : SendOtpJobData} {w w' w'' : World} {accepted refunded : Bool}

theorem Progress.refl (data : SendOtpJobData) (w : World) : Progress data w w false false :=
  ⟨le_refl _, by simp, fun h => (by cases h), fun _ => rfl, by simp⟩

/-- Nothing but the provider and the wallets matters. -/
theorem Progress.same (progress : Progress data w w' accepted refunded)
    (provider : w''.provider = w'.provider) (wallets : w''.db.wallets = w'.db.wallets) :
    Progress data w w'' accepted refunded := by
  have calls : acceptedCalls w'' = acceptedCalls w' := by rw [acceptedCalls, provider, acceptedCalls]
  have entries : ledger w'' data.customerId = ledger w' data.customerId := by
    rw [ledger, wallets, ledger]
  have refunds : RefundSeen data w'' ↔ RefundSeen data w' := by
    rw [RefundSeen, wallets, RefundSeen]
  refine ⟨calls ▸ progress.monotone, calls ▸ progress.accepted, fun granted fresh => ?_,
    fun kept => entries.trans (progress.unchanged kept), refunds.trans progress.seen⟩
  obtain ⟨entry, is_refund, appended⟩ := progress.entered granted fresh
  exact ⟨entry, is_refund, entries.trans appended⟩

theorem Progress.sent (progress : Progress data w w' accepted refunded)
    (phoneNumber otpCode templateName languageCode : String) (res : SendMessageResult) :
    Progress data w (sendOtp w' phoneNumber otpCode templateName languageCode res)
      (accepted || res.success) refunded := by
  have calls : acceptedCalls (sendOtp w' phoneNumber otpCode templateName languageCode res) =
      acceptedCalls w' + if res.success then 1 else 0 := by
    simp [acceptedCalls, sendOtp, List.countP_cons]
  have monotone := progress.monotone
  have before := progress.accepted
  refine ⟨by omega, ?_, progress.entered, progress.unchanged, progress.seen⟩
  rw [calls, Bool.or_eq_true, before]
  cases res.success with
  | true => simp; omega
  | false => simp

theorem refunded_ok (w : World) (c : JobCall) (reason : String) :
    ∃ w', JobCall.refunded w c reason = .ok w' := by
  unfold JobCall.refunded
  by_cases seen : RefundSeen c.job.data w
  · rw [refundCredits_duplicate seen]
    exact ⟨_, rfl⟩
  · rw [refundCredits_fresh seen]
    exact ⟨_, rfl⟩

/-- A refund call that succeeds, the first one with effect. -/
theorem Progress.refund {c : JobCall} {reason : String}
    (progress : Progress data w w' accepted refunded) (of_data : c.job.data = data)
    (granted : JobCall.refunded w' c reason = .ok w'') : Progress data w w'' accepted true := by
  subst of_data
  unfold JobCall.refunded at granted
  by_cases seen : RefundSeen c.job.data w'
  · -- the call only repeats an earlier refund
    rw [refundCredits_duplicate seen] at granted
    cases granted
    have entries : ledger (w'.mapDb (·.setWallet c.job.data.customerId
        (getOrCreateWallet (w'.db.wallets c.job.data.customerId)))) c.job.data.customerId =
        ledger w' c.job.data.customerId := by
      simp [ledger, Database.setWallet, getOrCreateWallet]
    have again := progress.seen.mp seen
    refine ⟨progress.monotone, progress.accepted, fun _ fresh => ?_, fun kept => ?_, ?_⟩
    · obtain ⟨entry, is_refund, appended⟩ := progress.entered (again.resolve_left fresh) fresh
      exact ⟨entry, is_refund, entries.trans appended⟩
    · refine entries.trans (progress.unchanged ?_)
      rcases kept with none_granted | old
      · cases none_granted
      · exact Or.inr old
    · simpa [RefundSeen, Database.setWallet] using seen
  · have fresh : ¬RefundSeen c.job.data w := fun old => seen (progress.seen.mpr (Or.inl old))
    have none_granted : refunded = false := by
      by_contra some_granted
      exact seen (progress.seen.mpr (Or.inr (by simpa using some_granted)))
    rw [refundCredits_fresh seen] at granted
    cases granted
    refine ⟨progress.monotone, progress.accepted, fun _ _ => ?_, fun kept => ?_, ?_⟩
    · have before := progress.unchanged (Or.inl none_granted)
      let wallet := getOrCreateWallet (w'.db.wallets c.job.data.customerId)
      refine ⟨⟨.refund, c.job.data.costCredits, wallet.balance,
        round4 (wallet.balance + c.job.data.costCredits), "otp_request_failure",
        storedReferenceId c.job.data.requestId, "Refund: " ++ reason⟩, rfl, ?_⟩
      rw [← before]
      simp only [ledger, World.mapDb_db, Database.setWallet, Function.update_self]
      rfl
    · rcases kept with none_granted | old
      · cases none_granted
      · exact absurd old fresh
    · simp [RefundSeen, Database.setWallet]

end Progress

/-! ### One attempt -/

section Attempt

variable {fate : Fate} {job : SendOtpJob} {w w' : World} {k : ℕ} {accepted refunded : Bool}

/-- How attempt `k` ends: the job returned, is to be tried again, or has used up its attempts
and made the final refund call. -/
inductive Ended (fate : Fate) (job : SendOtpJob) (w : World) (k : ℕ) (accepted refunded : Bool) :
    Bool → World × JobCall → Prop
  | returned (w' : World) (success : Bool) (progress : Progress job.data w w' accepted refunded) :
      Ended fate job w k accepted refunded true (w', ⟨job, k, .completed success⟩)
  | again (w' : World) (more : k + 1 < job.attempts)
      (progress : Progress job.data w w' accepted refunded) :
      Ended fate job w k accepted refunded false (w', ⟨job, k + 1, .send⟩)
  | exhausted (w' : World) (last : k + 1 = job.attempts)
      (progress : Progress job.data w w' accepted
        (refunded || (fate k .exhaustedRefund).ok)) :
      Ended fate job w k accepted refunded false (w', ⟨job, k + 1, .failed⟩)

/-- The `catch` block, whatever was thrown. -/
theorem caught (within : k < job.attempts) (pc : JobPc) (error : String)
    (progress : Progress job.data w w' accepted refunded) :
    ∃ s, Passes (next fate) 3 (w', (⟨job, k, pc⟩ : JobCall).threw error) s ∧
      Ended fate job w k accepted refunded false s := by
  -- the queue and the handler count the same attempts
  have retries : (⟨job, k, pc⟩ : JobCall).maxRetries = job.attempts := by
    simp only [maxRetries]
    rw [if_neg (by omega)]
  by_cases last : job.attempts ≤ k + 1
  · have equal : k + 1 = job.attempts := by omega
    have ended : ¬k + 1 < job.attempts := by omega
    have begins : (⟨job, k, pc⟩ : JobCall).threw error = ⟨job, k, .exhaustedMark error⟩ := by
      simp only [threw, retries, if_pos last, goto]
    rw [begins]
    have final : (⟨job, k, .exhaustedDeadLetter error⟩ : JobCall).rethrow =
        ⟨job, k + 1, .failed⟩ := by
      simp only [rethrow, if_neg ended]
    -- the three statements, each with its failure ignored
    let marked := if (fate k .exhaustedMark).ok then
      w'.mapDb (·.setStatus job.data.otpRequestDbId .failed) else w'
    have marks : Progress job.data w marked accepted refunded := by
      dsimp only [marked]
      split
      · exact progress.same rfl rfl
      · exact progress
    obtain ⟨credited, credits⟩ := refunded_ok marked ⟨job, k, .exhaustedRefund error⟩
      ("Max retries exceeded: " ++ error)
    let settled := if (fate k .exhaustedRefund).ok then credited else marked
    have settles : Progress job.data w settled accepted
        (refunded || (fate k .exhaustedRefund).ok) := by
      dsimp only [settled]
      split
      next granted =>
        rw [granted, Bool.or_true]
        exact marks.refund rfl credits
      next refused =>
        rw [Bool.eq_false_iff.mpr refused, Bool.or_false]
        exact marks
    let buried := if (fate k .exhaustedDeadLetter).ok then
      addDeadLetter settled ((⟨job, k, .exhaustedDeadLetter error⟩ : JobCall).letter
        "max_retries_exceeded" ("Max retries exceeded: " ++ error)) else settled
    have buries : Progress job.data w buried accepted
        (refunded || (fate k .exhaustedRefund).ok) := by
      dsimp only [buried]
      split
      · exact settles.same rfl rfl
      · exact settles
    have refund_step : next fate (marked, ⟨job, k, .exhaustedRefund error⟩) =
        some (settled, ⟨job, k, .exhaustedDeadLetter error⟩) := by
      simp only [next, await, step, credits, goto, settled]
    have letter_step : next fate (settled, ⟨job, k, .exhaustedDeadLetter error⟩) =
        some (buried, ⟨job, k + 1, .failed⟩) := by
      simp only [next, await, step, final, buried]
    have steps : Passes (next fate) 3 (w', ⟨job, k, .exhaustedMark error⟩)
        (buried, ⟨job, k + 1, .failed⟩) :=
      .step rfl (.step refund_step (.step letter_step .here))
    exact ⟨_, steps, .exhausted buried equal buries⟩
  · have begins : (⟨job, k, pc⟩ : JobCall).threw error = ⟨job, k + 1, .send⟩ := by
      simp only [threw, retries, if_neg last, rethrow, if_pos (not_le.mp last)]
    rw [begins]
    exact ⟨_, Passes.here.mono (Nat.zero_le 3), .again w' (not_le.mp last) progress⟩

/-- The handling of a permanent failure, once the message is recorded. -/
theorem permanent (within : k < job.attempts) (res : SendMessageResult)
    (progress : Progress job.data w w' accepted refunded) :
    ∃ s, Passes (next fate) 6 (w', ⟨job, k, .markFailed res⟩) s ∧
      Ended fate job w k accepted (refunded || ((fate k .markFailed).ok && (fate k .refund).ok))
        ((fate k .markFailed).ok && (fate k .refund).ok && (fate k .deadLetter).ok) s := by
  by_cases marked : (fate k .markFailed).ok = true
  · have mark_step : next fate (w', ⟨job, k, .markFailed res⟩) =
        some (w'.mapDb (·.setStatus job.data.otpRequestDbId .failed), ⟨job, k, .refund res⟩) := by
      simp [next, await, step, marked, goto]
    have mark_progress : Progress job.data w (w'.mapDb (·.setStatus job.data.otpRequestDbId .failed))
        accepted refunded := progress.same rfl rfl
    generalize w'.mapDb (·.setStatus job.data.otpRequestDbId .failed) = w1
      at mark_step mark_progress
    by_cases granted : (fate k .refund).ok = true
    · obtain ⟨w2, credits⟩ := refunded_ok w1 ⟨job, k, .refund res⟩
        (res.reason "Permanent Meta delivery failure")
      have refund_step : next fate (w1, ⟨job, k, .refund res⟩) =
          some (w2, ⟨job, k, .deadLetter res⟩) := by
        simp [next, await, step, granted, credits, goto]
      have refund_progress := mark_progress.refund rfl credits
      rw [marked, granted, Bool.and_true, Bool.or_true]
      by_cases buried : (fate k .deadLetter).ok = true
      · have letter_step : next fate (w2, ⟨job, k, .deadLetter res⟩) =
            some (addDeadLetter w2 ((⟨job, k, .deadLetter res⟩ : JobCall).letter "terminal_failure"
              (res.reason "Permanent Meta delivery rejection")), ⟨job, k, .completed false⟩) := by
          simp [next, await, step, buried, goto]
        rw [buried]
        exact ⟨_, (Passes.step mark_step (.step refund_step (.step letter_step .here))).mono
          (by decide), .returned _ false (refund_progress.same rfl rfl)⟩
      · have fails : next fate (w2, ⟨job, k, .deadLetter res⟩) =
            some (w2, (⟨job, k, .deadLetter res⟩ : JobCall).threw (fate k .deadLetter).error) := by
          simp [next, await, step, buried]
        obtain ⟨s, passes, ended⟩ := caught within (.deadLetter res) (fate k .deadLetter).error
          refund_progress
        rw [Bool.eq_false_iff.mpr buried]
        exact ⟨s, .step mark_step (.step refund_step (.step fails passes)), ended⟩
    · have fails : next fate (w1, ⟨job, k, .refund res⟩) =
          some (w1, (⟨job, k, .refund res⟩ : JobCall).threw (fate k .refund).error) := by
        simp [next, await, step, granted]
      obtain ⟨s, passes, ended⟩ := caught within (.refund res) (fate k .refund).error mark_progress
      rw [marked, Bool.eq_false_iff.mpr granted, Bool.and_false, Bool.or_false]
      exact ⟨s, (Passes.step mark_step (.step fails passes)).mono (by decide), ended⟩
  · have fails : next fate (w', ⟨job, k, .markFailed res⟩) =
        some (w', (⟨job, k, .markFailed res⟩ : JobCall).threw (fate k .markFailed).error) := by
      simp [next, await, step, marked]
    obtain ⟨s, passes, ended⟩ := caught within (.markFailed res) (fate k .markFailed).error progress
    rw [Bool.eq_false_iff.mpr marked, Bool.false_and, Bool.or_false]
    exact ⟨s, (Passes.step fails passes).mono (by decide), ended⟩

/-- What follows the recording of a message that the provider was handed. -/
theorem recorded (within : k < job.attempts) (progress : Progress job.data w w' accepted refunded)
    (records : Fate.recordsMessage fate k = true) (message : Id) :
    ∃ s, Passes (next fate) 7 (w', ⟨job, k, .createEvent (fate k .send).delivery message⟩) s ∧
      Ended fate job w k accepted (refunded || Fate.refunds fate k) (Fate.returns fate k) s := by
  obtain ⟨-, event⟩ : _ ∧ (fate k .createEvent).ok = true := by
    simpa [Fate.recordsMessage] using records
  generalize res_eq : (fate k .send).delivery = res at *
  have entered : Progress job.data w (w'.mapDb fun db => { db with
      messageEvents := db.messageEvents ++
        [⟨message, if res.success then .sent else .failed, res.providerMessageId⟩] })
      accepted refunded := progress.same rfl rfl
  cases success : res.success with
  | true =>
    have event_step : next fate (w', ⟨job, k, .createEvent res message⟩) =
        some (w'.mapDb fun db => { db with
          messageEvents := db.messageEvents ++
            [⟨message, if res.success then .sent else .failed, res.providerMessageId⟩] },
          ⟨job, k, .markSent⟩) := by
      simp [next, await, step, event, success, goto]
    generalize w'.mapDb _ = w1 at entered event_step
    -- delivered: marking the request is all that is left
    have no_refund : Fate.refunds fate k = false := by
      simp [Fate.refunds, Fate.refused, res_eq, success]
    have returns : Fate.returns fate k = (fate k .markSent).ok := by
      simp [Fate.returns, no_refund, records, res_eq, success]
    rw [no_refund, returns, Bool.or_false]
    by_cases marked : (fate k .markSent).ok = true
    · have mark_step : next fate (w1, ⟨job, k, .markSent⟩) =
          some (w1.mapDb (·.setStatus job.data.otpRequestDbId .sent),
            ⟨job, k, .completed true⟩) := by
        simp [next, await, step, marked, goto]
      rw [marked]
      exact ⟨_, (Passes.step event_step (.step mark_step .here)).mono (by decide),
        .returned _ true (entered.same rfl rfl)⟩
    · have fails : next fate (w1, ⟨job, k, .markSent⟩) =
          some (w1, (⟨job, k, .markSent⟩ : JobCall).threw (fate k .markSent).error) := by
        simp [next, await, step, marked]
      obtain ⟨s, passes, ended⟩ := caught within .markSent (fate k .markSent).error entered
      rw [Bool.eq_false_iff.mpr marked]
      exact ⟨s, (Passes.step event_step (.step fails passes)).mono (by decide), ended⟩
  | false =>
    cases temporary : res.isTemporaryError with
    | true =>
      have fails : next fate (w', ⟨job, k, .createEvent res message⟩) =
          some (w'.mapDb fun db => { db with
            messageEvents := db.messageEvents ++
              [⟨message, if res.success then .sent else .failed, res.providerMessageId⟩] },
            (⟨job, k, .createEvent res message⟩ : JobCall).threw
              (res.reason "Temporary delivery failure")) := by
        simp [next, await, step, event, success, temporary]
      have no_refund : Fate.refunds fate k = false := by
        simp [Fate.refunds, Fate.refused, res_eq, temporary]
      have no_return : Fate.returns fate k = false := by
        simp [Fate.returns, no_refund, res_eq, success]
      obtain ⟨s, passes, ended⟩ := caught within (.createEvent res message)
        (res.reason "Temporary delivery failure") entered
      rw [no_refund, no_return, Bool.or_false]
      exact ⟨s, (Passes.step fails passes).mono (by decide), ended⟩
    | false =>
      have event_step : next fate (w', ⟨job, k, .createEvent res message⟩) =
          some (w'.mapDb fun db => { db with
            messageEvents := db.messageEvents ++
              [⟨message, if res.success then .sent else .failed, res.providerMessageId⟩] },
            ⟨job, k, .markFailed res⟩) := by
        simp [next, await, step, event, success, temporary, goto]
      have refunds : Fate.refunds fate k = ((fate k .markFailed).ok && (fate k .refund).ok) := by
        simp [Fate.refunds, Fate.refused, records, res_eq, success, temporary]
      have returns : Fate.returns fate k =
          ((fate k .markFailed).ok && (fate k .refund).ok && (fate k .deadLetter).ok) := by
        simp [Fate.returns, refunds, res_eq, success]
      -- a permanent failure
      obtain ⟨s, passes, ended⟩ := permanent within res entered
      rw [refunds, returns]
      exact ⟨s, .step event_step passes, ended⟩

/-- One attempt, from the provider call to `return` or to the end of the `catch` block. -/
theorem attempt (fate : Fate) (within : k < job.attempts)
    (progress : Progress job.data w w' accepted refunded) :
    ∃ s, Passes (next fate) 9 (w', ⟨job, k, .send⟩) s ∧
      Ended fate job w k (accepted || Fate.accepts fate k) (refunded || Fate.refunds fate k)
        (Fate.returns fate k) s := by
  -- whichever call throws, the rest is the `catch` block
  have throws {n : ℕ} {w'' : World} {pc : JobPc} {error : String} (le : n ≤ 6)
      (reaches : Passes (next fate) n (w', ⟨job, k, .send⟩)
        (w'', (⟨job, k, pc⟩ : JobCall).threw error))
      (made : Progress job.data w w'' (accepted || Fate.accepts fate k)
        (refunded || Fate.refunds fate k))
      (no_return : Fate.returns fate k = false) :
      ∃ s, Passes (next fate) 9 (w', ⟨job, k, .send⟩) s ∧
        Ended fate job w k (accepted || Fate.accepts fate k) (refunded || Fate.refunds fate k)
          (Fate.returns fate k) s := by
    obtain ⟨s, passes, ended⟩ := caught within pc error made
    rw [no_return]
    exact ⟨s, (reaches.trans passes).mono (by omega), ended⟩
  by_cases sent : (fate k .send).ok = true
  · have sent_progress := progress.sent job.data.phoneNumber job.data.otpCode
      job.data.templateName job.data.languageCode (fate k .send).delivery
    have accepts : Fate.accepts fate k = (fate k .send).delivery.success := by
      simp [Fate.accepts, sent]
    rw [← accepts] at sent_progress
    have send_step : next fate (w', ⟨job, k, .send⟩) =
        some (sendOtp w' job.data.phoneNumber job.data.otpCode job.data.templateName
          job.data.languageCode (fate k .send).delivery,
          ⟨job, k, .createMessage (fate k .send).delivery⟩) := by
      simp [next, await, step, sent, goto]
    generalize sendOtp w' job.data.phoneNumber job.data.otpCode job.data.templateName
      job.data.languageCode (fate k .send).delivery = w1 at sent_progress send_step
    by_cases created : (fate k .createMessage).ok = true
    · obtain ⟨w2, create_step, create_progress⟩ : ∃ w2,
          next fate (w1, ⟨job, k, .createMessage (fate k .send).delivery⟩) =
            some (w2, ⟨job, k, .createEvent (fate k .send).delivery w1.nextId⟩) ∧
          Progress job.data w w2 (accepted || Fate.accepts fate k) refunded := by
        simp only [next, await, step, created, if_true, goto]
        exact ⟨_, rfl, sent_progress.same rfl rfl⟩
      by_cases event : (fate k .createEvent).ok = true
      · have records : Fate.recordsMessage fate k = true := by
          simp [Fate.recordsMessage, sent, created, event]
        obtain ⟨s, passes, ended⟩ := recorded within create_progress records w1.nextId
        exact ⟨s, .step send_step (.step create_step passes), ended⟩
      · have fails : next fate (w2, ⟨job, k, .createEvent (fate k .send).delivery w1.nextId⟩) =
            some (w2, (⟨job, k, .createEvent (fate k .send).delivery w1.nextId⟩ : JobCall).threw
              (fate k .createEvent).error) := by
          simp [next, await, step, event]
        have records : Fate.recordsMessage fate k = false := by simp [Fate.recordsMessage, event]
        refine throws (by decide) (.step send_step (.step create_step (.step fails .here))) ?_ ?_
        · simpa [Fate.refunds, Fate.refused, records] using create_progress
        · simp [Fate.returns, Fate.refunds, Fate.refused, records]
    · have fails : next fate (w1, ⟨job, k, .createMessage (fate k .send).delivery⟩) =
          some (w1, (⟨job, k, .createMessage (fate k .send).delivery⟩ : JobCall).threw
            (fate k .createMessage).error) := by
        simp [next, await, step, created]
      have records : Fate.recordsMessage fate k = false := by simp [Fate.recordsMessage, created]
      refine throws (by decide) (.step send_step (.step fails .here)) ?_ ?_
      · simpa [Fate.refunds, Fate.refused, records] using sent_progress
      · simp [Fate.returns, Fate.refunds, Fate.refused, records]
  · have fails : next fate (w', ⟨job, k, .send⟩) =
        some (w', (⟨job, k, .send⟩ : JobCall).threw (fate k .send).error) := by
      simp [next, await, step, sent]
    have records : Fate.recordsMessage fate k = false := by simp [Fate.recordsMessage, sent]
    refine throws (by decide) (.step fails .here) ?_ ?_
    · simpa [Fate.accepts, Fate.refunds, Fate.refused, records, sent] using progress
    · simp [Fate.returns, Fate.refunds, Fate.refused, records]

end Attempt

/-! ### The whole job -/

namespace Fate

variable {fate : Fate} {k n : ℕ}

/-- One of the first `n` attempts is made and grants the refund. -/
def Granted (fate : Fate) (n : ℕ) : Prop := ∃ j < n, Reached fate j ∧ refunds fate j = true

instance : Decidable (Granted fate n) := inferInstanceAs (Decidable (∃ j < n, _ ∧ _))

theorem reached_succ : Reached fate (k + 1) ↔ Reached fate k ∧ returns fate k = false := by
  unfold Reached
  constructor
  · intro all
    exact ⟨fun j lt => all j (by omega), all k (by omega)⟩
  · rintro ⟨before, now⟩ j lt
    rcases Nat.lt_succ_iff_lt_or_eq.mp lt with earlier | rfl
    · exact before j earlier
    · exact now

/-- What some attempt below `k + 1` does, one below `k` does or the `k`-th. -/
theorem exists_succ {property : ℕ → Prop} (reached : Reached fate k) :
    (∃ j < k + 1, Reached fate j ∧ property j) ↔
      (∃ j < k, Reached fate j ∧ property j) ∨ property k := by
  constructor
  · rintro ⟨j, lt, made, holds⟩
    rcases Nat.lt_succ_iff_lt_or_eq.mp lt with earlier | rfl
    · exact Or.inl ⟨j, earlier, made, holds⟩
    · exact Or.inr holds
  · rintro (⟨j, lt, made, holds⟩ | holds)
    · exact ⟨j, by omega, made, holds⟩
    · exact ⟨k, by omega, reached, holds⟩

/-- No attempt is made after one that returned. -/
theorem exists_returned {property : ℕ → Prop} (returned : returns fate k = true) (lt : k < n) :
    (∃ j < n, Reached fate j ∧ property j) ↔ ∃ j < k + 1, Reached fate j ∧ property j := by
  constructor
  · rintro ⟨j, -, made, holds⟩
    refine ⟨j, ?_, made, holds⟩
    by_contra later
    have threw := made k (by omega)
    rw [returned] at threw
    cases threw
  · rintro ⟨j, le, made, holds⟩
    exact ⟨j, by omega, made, holds⟩

end Fate

/-- The attempts from the `k`-th on. -/
theorem attempts {fate : Fate} {job : SendOtpJob} {w w' : World} {k : ℕ}
    (within : k < job.attempts) (reached : Fate.Reached fate k)
    (progress : Progress job.data w w' (decide (Fate.Delivered fate k))
      (decide (Fate.Granted fate k))) :
    ∃ s, Passes (next fate) (9 * (job.attempts - k)) (w', ⟨job, k, .send⟩) s ∧ s.2.await = none ∧
      Progress job.data w s.1 (decide (Fate.Delivered fate job.attempts))
        (decide (Fate.Refunds fate job.attempts)) := by
  obtain ⟨s, passes, ended⟩ := attempt fate within progress
  -- what holds of the first `k + 1` attempts holds of the first `k` or of this one
  have delivered : (decide (Fate.Delivered fate k) || Fate.accepts fate k) =
      decide (Fate.Delivered fate (k + 1)) := by
    rw [Bool.eq_iff_iff, Bool.or_eq_true, decide_eq_true_iff, decide_eq_true_iff]
    exact (Fate.exists_succ reached).symm
  have granted : (decide (Fate.Granted fate k) || Fate.refunds fate k) =
      decide (Fate.Granted fate (k + 1)) := by
    rw [Bool.eq_iff_iff, Bool.or_eq_true, decide_eq_true_iff, decide_eq_true_iff]
    exact (Fate.exists_succ reached).symm
  rw [delivered, granted] at ended
  generalize outcome : Fate.returns fate k = returned at ended
  cases ended with
  | returned w'' success made =>
    -- no further attempt is made
    have none_left : ¬Fate.Reached fate job.attempts := fun all => by
      have threw := all k within
      rw [outcome] at threw
      cases threw
    have same_delivered : Fate.Delivered fate job.attempts ↔ Fate.Delivered fate (k + 1) :=
      Fate.exists_returned outcome within
    have same_granted : Fate.Granted fate job.attempts ↔ Fate.Granted fate (k + 1) :=
      Fate.exists_returned outcome within
    have same_refunds : Fate.Refunds fate job.attempts ↔ Fate.Granted fate (k + 1) := by
      rw [← same_granted]
      simp [Fate.Refunds, Fate.Granted, none_left]
    refine ⟨_, passes.mono (by omega), rfl, ?_⟩
    simpa only [same_delivered, same_refunds] using made
  | again w'' more made =>
    obtain ⟨t, later, stopped, final⟩ :=
      attempts more (Fate.reached_succ.mpr ⟨reached, outcome⟩) made
    exact ⟨t, (passes.trans later).mono (by omega), stopped, final⟩
  | exhausted w'' last made =>
    have all : Fate.Reached fate job.attempts := by
      rw [← last]
      exact Fate.reached_succ.mpr ⟨reached, outcome⟩
    have refunds : (decide (Fate.Granted fate (k + 1)) || (fate k .exhaustedRefund).ok) =
        decide (Fate.Refunds fate job.attempts) := by
      have last_attempt : job.attempts - 1 = k := by omega
      rw [Bool.eq_iff_iff, Bool.or_eq_true, decide_eq_true_iff, decide_eq_true_iff, last]
      simp [Fate.Refunds, Fate.Granted, all, last_attempt]
    rw [refunds, last] at made
    exact ⟨_, passes.mono (by omega), rfl, made⟩
termination_by job.attempts - k

/-- Where the job is after its attempts. -/
def final (fate : Fate) (job : SendOtpJob) (w : World) : World × JobCall :=
  follow (next fate) (9 * job.attempts) (w, start job)

/-- The job ends, and then a refund has been entered exactly when nothing was delivered, if and
only if: something was delivered, and no refund call succeeded or the ledger already had a refund
it repeats; or nothing was, a refund call succeeded and the ledger had none. -/
theorem refund_iff_undelivered_iff (fate : Fate) (job : SendOtpJob) (w : World)
    (positive : 0 < job.attempts) :
    (final fate job w).2.await = none ∧
      ((RefundEntered job.data.customerId w
            (final fate job w).1 ↔
          acceptedCalls (final fate job w).1 =
            acceptedCalls w) ↔
        (Fate.Delivered fate job.attempts ∧
            (¬Fate.Refunds fate job.attempts ∨ RefundSeen job.data w)) ∨
          (¬Fate.Delivered fate job.attempts ∧ Fate.Refunds fate job.attempts ∧
            ¬RefundSeen job.data w)) := by
  have first : Progress job.data w w (decide (Fate.Delivered fate 0))
      (decide (Fate.Granted fate 0)) := by
    have none_delivered : ¬Fate.Delivered fate 0 := by simp [Fate.Delivered]
    have none_granted : ¬Fate.Granted fate 0 := by simp [Fate.Granted]
    simpa only [none_delivered, none_granted, decide_false] using Progress.refl job.data w
  obtain ⟨s, passes, ended, made⟩ :=
    attempts positive (fun j lt => absurd lt (Nat.not_lt_zero j)) first
  have stopped : next fate s = none := by simp only [next, ended]
  have ends : final fate job w = s :=
    Passes.stopped passes stopped
  rw [ends]
  refine ⟨ended, ?_⟩
  have undelivered : acceptedCalls s.1 = acceptedCalls w ↔ ¬Fate.Delivered fate job.attempts := by
    have monotone := made.monotone
    rw [← decide_eq_true_iff (p := Fate.Delivered fate job.attempts), made.accepted]
    omega
  have entered : RefundEntered job.data.customerId w s.1 ↔
      Fate.Refunds fate job.attempts ∧ ¬RefundSeen job.data w := by
    constructor
    · rintro ⟨entry, -, appended⟩
      by_contra missed
      have kept := made.unchanged (by
        rw [decide_eq_false_iff_not]
        by_cases granted : Fate.Refunds fate job.attempts
        · exact Or.inr (by_contra fun fresh => missed ⟨granted, fresh⟩)
        · exact Or.inl granted)
      rw [kept] at appended
      have lengths := congrArg List.length appended
      simp at lengths
    · rintro ⟨granted, fresh⟩
      exact made.entered (decide_eq_true granted) fresh
  rw [undelivered, entered]
  tauto

section Sample

def sampleJob : SendOtpJob :=
  ⟨7, ⟨1, "req_00112233445566778899aabb", "+4915112345678", "123456", "otp_auth_v1", "en_US", 1, 1⟩, 3⟩

/-- The dispatch has been charged. -/
def chargedWorld : World := (World.empty 0).mapDb (·.setWallet 1
  ⟨99, "INR", .active, [⟨.debit, 1, 100, 99, "otp_request",
    some "00000000-0000-0000-0000-000000000001", "OTP Dispatch Debit"⟩]⟩)

/-- The provider accepts every attempt, and no message can be recorded. -/
def unrecordedFate : Fate
  | _, .send => .accepted "wamid.1"
  | _, .createMessage => .threw "connection lost"
  | _, _ => .resolved

/-- The provider is unavailable at first, then refuses the message. -/
def refusedFate : Fate
  | 0, .send => .unavailable "Meta API error (HTTP 503)"
  | _, .send => .rejected "Meta API error (HTTP 400)"
  | _, _ => .resolved

end Sample

theorem refund_iff_undelivered_iff_refused :
    (final refusedFate sampleJob chargedWorld).2.await =
        none ∧
      ((RefundEntered sampleJob.data.customerId chargedWorld
            (final refusedFate sampleJob chargedWorld).1 ↔
          acceptedCalls
              (final refusedFate sampleJob chargedWorld).1 =
            acceptedCalls chargedWorld) ↔
        (Fate.Delivered refusedFate sampleJob.attempts ∧
            (¬Fate.Refunds refusedFate sampleJob.attempts ∨
              RefundSeen sampleJob.data chargedWorld)) ∨
          (¬Fate.Delivered refusedFate sampleJob.attempts ∧
            Fate.Refunds refusedFate sampleJob.attempts ∧
            ¬RefundSeen sampleJob.data chargedWorld)) :=
  refund_iff_undelivered_iff refusedFate sampleJob chargedWorld (by decide)

/-- Every attempt reaches the recipient and then fails to record the message: the dispatch is
delivered, and refunded. -/
theorem delivered_and_refunded :
    ¬∀ (fate : Fate) (job : SendOtpJob) (w : World), 0 < job.attempts → ¬RefundSeen job.data w →
      (RefundEntered job.data.customerId w
          (final fate job w).1 ↔
        acceptedCalls (final fate job w).1 =
          acceptedCalls w) := by
  intro refunded_iff
  have fresh : ¬RefundSeen sampleJob.data chargedWorld := by
    rintro ⟨entry, member, -, -, is_refund⟩
    have only : entry ∈ [(⟨.debit, 1, 100, 99, "otp_request",
      some "00000000-0000-0000-0000-000000000001", "OTP Dispatch Debit"⟩ : WalletTransaction)] :=
      member
    rw [List.mem_singleton.mp only] at is_refund
    cases is_refund
  have entered : RefundEntered sampleJob.data.customerId chargedWorld
      (final unrecordedFate sampleJob chargedWorld).1 :=
    ⟨⟨.refund, 1, 99, 100, "otp_request_failure", none,
      "Refund: Max retries exceeded: connection lost"⟩, rfl, by decide +kernel⟩
  have undelivered := (refunded_iff unrecordedFate sampleJob chargedWorld (by decide) fresh).mp entered
  revert undelivered
  decide +kernel

end SelfOtp.JobCall
