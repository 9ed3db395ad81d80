import SelfOtp.Properties.Wallet

/-! Refunds of different references, as `refundCredits` tells them apart. -/
namespace SelfOtp.WalletService

open WalletCall Transition

/-- The call credits the cost and appends one refund entry. -/
def RefundTakesEffect (row : Option Wallet) (cost : ℚ)
    (referenceType referenceId reason : String) : Prop :=
  ∃ balance wallet entry,
    refundCredits schema row cost referenceType referenceId reason = .ok (balance, wallet) ∧
    wallet.balance = (getOrCreateWallet row).balance + round4 cost ∧
    wallet.transactions = (getOrCreateWallet row).transactions ++ [entry] ∧
    entry.transactionType = .refund ∧ entry.amount = cost

/-- An earlier call for exactly these two strings. -/
def IsRefundFor (referenceType referenceId : String) : WalletCall → Prop
  | .deduct .. => False
  | .refund _ kind id _ => kind = referenceType ∧ id = referenceId
  | .topup .. => False

section Call

variable {row : Option Wallet} {cost : ℚ} {referenceType referenceId reason : String}

theorem duplicate_takes_no_effect
    (seen : Refunded row referenceType (storedReferenceId referenceId)) :
    ¬RefundTakesEffect row cost referenceType referenceId reason := by
  rintro ⟨balance, wallet, entry, returned, -, appended, -⟩
  rw [refundCredits_duplicate seen] at returned
  cases returned
  have lengths := congrArg List.length appended
  simp at lengths

/-- The first refund of a reference takes effect as soon as the tables take it. -/
theorem fresh_takes_effect_iff (valid : Valid row)
    (fresh : ¬Refunded row referenceType (storedReferenceId referenceId)) :
    RefundTakesEffect row cost referenceType referenceId reason ↔
      0 ≤ (getOrCreateWallet row).balance + round4 cost ∧
        (refund cost referenceType referenceId reason).TextsFit := by
  let entry := refundEntry (getOrCreateWallet row) cost referenceType referenceId reason
  have stored : schema.takes entry = true ↔ 0 ≤ entry.balanceAfter ∧
      (refund cost referenceType referenceId reason).TextsFit :=
    schema_entry _ (.refund cost referenceType referenceId reason)
  rw [← round4_add valid cost]
  refine Iff.trans ?_ stored
  constructor
  · rintro ⟨balance, wallet, added, returned, -⟩
    -- an entry that is refused is not returned
    by_contra refused
    rw [refundCredits_first fresh, post_refused (Bool.eq_false_iff.mpr refused)] at returned
    cases returned
  · intro taken
    refine ⟨entry.balanceAfter, (getOrCreateWallet row).enter (schema.stored entry), schema.stored entry, ?_,
      round4_add valid cost, rfl, rfl, rfl⟩
    rw [refundCredits_first fresh, post_taken taken]

end Call

/-- After any history of wallet calls, a refund takes effect exactly when the tables take it and no
earlier refund of the same type that they took had a reference with the same stored value. Every
text that is not a UUID is stored as null. -/
theorem refund_takes_effect_iff (calls : List WalletCall) (cost : ℚ)
    (referenceType referenceId reason : String) :
    RefundTakesEffect (history schema none calls) cost referenceType referenceId reason ↔
      (0 ≤ (getOrCreateWallet (history schema none calls)).balance + round4 cost ∧
          (refund cost referenceType referenceId reason).TextsFit) ∧
        Respects (step schema) (Unentered schema referenceType (storedReferenceId referenceId)) none
          calls := by
  have valid : Valid (history schema none calls) := history_valid calls valid_none
  have recorded : ¬Refunded (history schema none calls) referenceType (storedReferenceId referenceId) ↔ _ :=
    not_refunded_history calls referenceType (storedReferenceId referenceId) typesKept_none
  rw [and_iff_right not_refunded_none] at recorded
  rw [← recorded]
  by_cases seen : Refunded (history schema none calls) referenceType (storedReferenceId referenceId)
  · constructor
    · intro effect
      exact absurd effect (duplicate_takes_no_effect seen)
    · exact fun conditions => absurd seen conditions.2
  · rw [fresh_takes_effect_iff valid seen, and_iff_left seen]

/-- Two request ids the dispatch code generates: the first refund suppresses the second. -/
theorem refund_of_other_request_suppressed :
    ¬∀ (calls : List WalletCall) (cost : ℚ) (referenceType referenceId reason : String),
      (∀ call ∈ calls, ¬IsRefundFor referenceType referenceId call) →
        RefundTakesEffect (history schema none calls) cost referenceType referenceId reason := by
  intro independent
  have effect := independent
    [.deduct 1 "otp_request" "3f2b8c1e-0d4a-4b6f-9a77-5c1de2f3a4b5",
      .deduct 1 "otp_request" "7a9c0d12-3e4f-4a5b-8c6d-7e8f90a1b2c3",
      .refund 1 "otp_request_failure" "req_00112233445566778899aabb" "Delivery failed"]
    1 "otp_request_failure" "req_ffeeddccbbaa998877665544" "Delivery failed"
    (by simp [IsRefundFor])
  refine duplicate_takes_no_effect ?_ effect
  -- the entry of the first refund has the null reference
  refine ⟨⟨.refund, 1, 98, 99, "otp_request_failure", none, "Refund: Delivery failed"⟩, ?_, rfl, ?_, rfl⟩
  · decide +kernel
  · decide

end SelfOtp.WalletService
