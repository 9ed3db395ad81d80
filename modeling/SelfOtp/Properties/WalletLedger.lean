import SelfOtp.Lib.Ledger
import SelfOtp.Lib.Transition
import SelfOtp.Properties.Wallet

/-! The ledger of a wallet: what every sequence of calls keeps, whether the recorded amounts
account for the balance, and how often a payment is credited. -/
namespace SelfOtp.WalletCall

open WalletService Rounding Ledger Transition

/-! ### One call -/

/-- The wallet as it is created. -/
def opened : Wallet := getOrCreateWallet none

def amount : WalletCall → ℚ
  | deduct cost _ _ => cost
  | refund cost _ _ _ => cost
  | topup amount _ => amount

def transactionType : WalletCall → WalletTxnType
  | deduct .. => .debit
  | refund .. => .refund
  | topup .. => .credit

/-- The amount as it goes into the balance. -/
def change : WalletCall → ℚ
  | deduct cost _ _ => -cost
  | refund cost _ _ _ => cost
  | topup amount _ => amount

/-- Costs are not negative, and a payment is positive. -/
def ValidAmount : WalletCall → Prop
  | deduct cost _ _ => 0 ≤ cost
  | refund cost _ _ _ => 0 ≤ cost
  | topup amount _ => 0 < amount

instance : DecidablePred ValidAmount
  | deduct cost _ _ => inferInstanceAs (Decidable (0 ≤ cost))
  | refund cost _ _ _ => inferInstanceAs (Decidable (0 ≤ cost))
  | topup amount _ => inferInstanceAs (Decidable (0 < amount))

/-- Every payment is one that the endpoint accepts. -/
def Accepted : WalletCall → Prop
  | topup amount referenceId => topupSchema amount referenceId
  | deduct .. | refund .. => True

instance : DecidablePred Accepted
  | topup amount referenceId => inferInstanceAs (Decidable (topupSchema amount referenceId = true))
  | deduct .. | refund .. => isTrue trivial

variable {tables : Tables} {wallet wallet' : Wallet} {call : WalletCall}

/-- What a call that takes effect writes. -/
structure Posted (wallet : Wallet) (call : WalletCall) (wallet' : Wallet) (entry : WalletTransaction) :
    Prop where
  transactions : wallet'.transactions = wallet.transactions ++ [entry]
  type : entry.transactionType = call.transactionType
  amount : entry.amount = call.amount
  before : entry.balanceBefore = wallet.balance
  after : entry.balanceAfter = wallet'.balance
  balance : wallet'.balance = round4 (wallet.balance + call.change)

theorem entry_balanceAfter (wallet : Wallet) (call : WalletCall) :
    (call.entry wallet).balanceAfter = round4 (wallet.balance + call.change) := by
  cases call with
  | deduct => exact congrArg round4 (sub_eq_add_neg _ _)
  | refund | topup => rfl

theorem posted_enter (tables : Tables) (wallet : Wallet) (call : WalletCall) :
    Posted wallet call (wallet.enter (tables.stored (call.entry wallet)))
      (tables.stored (call.entry wallet)) := by
  have balance := entry_balanceAfter wallet call
  cases call with
  | deduct | refund | topup => exact ⟨rfl, rfl, rfl, rfl, rfl, balance⟩

theorem apply_posted (effective : call.TakesEffect tables wallet) :
    ∃ wallet' entry, call.apply tables (some wallet) = some wallet' ∧
      Posted wallet call wallet' entry :=
  ⟨_, _, apply_effective effective, posted_enter tables wallet call⟩

theorem apply_without (without : ¬call.TakesEffect tables wallet) :
    call.apply tables (some wallet) = some wallet := by
  have kept : getOrCreateWallet (call.apply tables (some wallet)) = wallet := apply_ineffective without
  unfold apply at kept ⊢
  split
  next taken =>
    rw [taken] at kept
    exact congrArg some kept
  next => rfl

/-- How a call ends: with one new entry, with `INSUFFICIENT_FUNDS`, or with the refund that it
has found. -/
inductive Outcome (wallet : Wallet) (call : WalletCall) : Prop
  | appended (wallet' : Wallet) (entry : WalletTransaction)
      (returned : call.result schema (some wallet) = .ok (wallet'.balance, wallet'))
      (applied : call.apply schema (some wallet) = some wallet')
      (transactions : wallet'.transactions = wallet.transactions ++ [entry])
  | insufficientFunds (cost : ℚ)
      (threw : call.result schema (some wallet) = .error (.app (insufficientFunds wallet.balance cost)))
      (unchanged : call.apply schema (some wallet) = some wallet)
  | earlierRefund (cost : ℚ) (referenceType referenceId reason : String)
      (refund : call = .refund cost referenceType referenceId reason)
      (found : (existingRefund wallet referenceType (storedReferenceId referenceId)).isSome)
      (returned : call.result schema (some wallet) = .ok (wallet.balance, wallet))
      (unchanged : call.apply schema (some wallet) = some wallet)

/-- The insert throws, and the transaction is rolled back. -/
structure Refused (wallet : Wallet) (call : WalletCall) : Prop where
  unfit : ¬call.TextsFit
  threw : call.result schema (some wallet) = .error .database
  unchanged : call.apply schema (some wallet) = some wallet

/-! ### Every sequence of calls -/

/-- A wallet whose ledger is a chain from 100 to its balance. -/
structure Chained (wallet : Wallet) : Prop where
  onGrid : OnGrid 10000 wallet.balance
  chain : Leads WalletTransaction.balanceBefore WalletTransaction.balanceAfter 100
    wallet.transactions wallet.balance

structure Safe (wallet : Wallet) : Prop extends Chained wallet where
  nonneg : 0 ≤ wallet.balance

theorem opened_chained : Chained opened := ⟨valid_none, rfl⟩

theorem Chained.posted {entry : WalletTransaction} (chained : Chained wallet)
    (posted : Posted wallet call wallet' entry) : Chained wallet' := by
  constructor
  · rw [posted.balance]
    exact onGrid_round4 _
  · have chain := chained.chain
    rw [← posted.before] at chain
    rw [posted.transactions, ← posted.after]
    exact chain.append

/-- The balance is tested before it is rounded. -/
theorem Safe.entry (safe : Safe wallet) (reaches : call.Reaches wallet) (valid : call.ValidAmount) :
    0 ≤ (call.entry wallet).balanceAfter := by
  rw [entry_balanceAfter]
  apply roundTo_nonneg
  have rich := safe.nonneg
  cases call with
  | deduct cost referenceType referenceId =>
    have funds : cost ≤ wallet.balance := reaches
    simp only [change]
    linarith
  | refund cost referenceType referenceId reason => exact add_nonneg rich valid
  | topup amount referenceId => exact add_nonneg rich (le_of_lt valid)

theorem Safe.apply (tables : Tables) (safe : Safe wallet) (valid : call.ValidAmount) :
    ∃ wallet', call.apply tables (some wallet) = some wallet' ∧ Safe wallet' := by
  by_cases effective : call.TakesEffect tables wallet
  · have posted := posted_enter tables wallet call
    exact ⟨_, apply_effective effective, safe.toChained.posted posted, safe.entry effective.1 valid⟩
  · exact ⟨wallet, apply_without effective, safe⟩

theorem Safe.history (tables : Tables) {calls : List WalletCall} (safe : Safe wallet)
    (valid : ∀ call ∈ calls, call.ValidAmount) :
    ∃ wallet', history tables (some wallet) calls = some wallet' ∧ Safe wallet' := by
  induction calls generalizing wallet with
  | nil => exact ⟨wallet, rfl, safe⟩
  | cons call calls ih =>
    obtain ⟨next, applied, safe⟩ := safe.apply tables (valid call (by simp))
    obtain ⟨wallet', reached, safe⟩ := ih safe fun other member => valid other (by simp [member])
    refine ⟨wallet', ?_, safe⟩
    rw [history_cons, applied]
    exact reached

theorem opened_safe : Safe opened := ⟨opened_chained, by decide⟩

/-- A call on a wallet in order ends in one of three ways, or its texts do not fit. -/
theorem Safe.outcome (safe : Safe wallet) (valid : call.ValidAmount) :
    Outcome wallet call ∨ Refused wallet call := by
  by_cases reaches : call.Reaches wallet
  · have taken : schema.takes (call.entry wallet) = true ↔ call.TextsFit :=
      (schema_entry wallet call).trans (and_iff_right (safe.entry reaches valid))
    by_cases fit : call.TextsFit
    · left
      have effective : call.TakesEffect schema wallet := ⟨reaches, taken.mpr fit⟩
      exact .appended _ _ (result_effective effective) (apply_effective effective) rfl
    · right
      have refused : schema.takes (call.entry wallet) = false :=
        Bool.eq_false_iff.mpr fun took => fit (taken.mp took)
      have posts : call.result schema (some wallet) = post schema wallet (call.entry wallet) :=
        result_eq_post reaches
      have threw : call.result schema (some wallet) = .error .database := posts.trans (post_refused refused)
      exact ⟨fit, threw, by rw [WalletCall.apply, threw]⟩
  · -- no funds, or an earlier refund; a payment always comes to its entry
    left
    have without : ¬call.TakesEffect schema wallet := fun effective => reaches effective.1
    have unchanged := apply_without without
    cases call with
    | deduct cost referenceType referenceId =>
      exact .insufficientFunds cost (deductCreditsAtomic_insufficient (not_le.mp reaches)) unchanged
    | refund cost referenceType referenceId reason =>
      have seen : Refunded (some wallet) referenceType (storedReferenceId referenceId) := not_not.mp reaches
      refine .earlierRefund cost referenceType referenceId reason rfl ?_
        (refundCredits_duplicate seen) unchanged
      by_contra absent
      have fresh : existingRefund (getOrCreateWallet (some wallet)) referenceType
          (storedReferenceId referenceId) = none := Option.not_isSome_iff_eq_none.mp absent
      exact existingRefund_eq_none.mp fresh seen
    | topup => exact absurd trivial reaches

/-- After any sequence of calls the balance is a multiple of 1/10000 and not negative, the ledger
is a chain from 100 to it, and the next call appends one entry or changes nothing. -/
theorem safe_of_history (calls : List WalletCall) (valid : ∀ call ∈ calls, call.ValidAmount) :
    ∃ wallet, history schema (some opened) calls = some wallet ∧ Safe wallet ∧
      ∀ call : WalletCall, call.ValidAmount → Outcome wallet call ∨ Refused wallet call := by
  obtain ⟨wallet, reached, safe⟩ := opened_safe.history schema valid
  exact ⟨wallet, reached, safe, fun call valid => safe.outcome valid⟩

/-- A debit that rounds to nothing, one that fails, and a refund that is asked for twice. -/
theorem safe_of_mixed_history :
    ∃ wallet, history schema (some opened) [.deduct (1 / 20000) "otp_request" "req_1",
        .deduct 101 "otp_request" "req_2", .refund 1 "otp_request_failure" "req_1" "Delivery failed",
        .refund 1 "otp_request_failure" "req_1" "Delivery failed"] = some wallet ∧ Safe wallet ∧
      ∀ call : WalletCall, call.ValidAmount → Outcome wallet call ∨ Refused wallet call :=
  safe_of_history _ (by decide +kernel)

/-- A reference type of 51 characters is refused by its column. -/
theorem long_reference_type_refused :
    ¬∀ calls : List WalletCall, (∀ call ∈ calls, call.ValidAmount) →
      ∃ wallet, history schema (some opened) calls = some wallet ∧ Safe wallet ∧
        ∀ call : WalletCall, call.ValidAmount → Outcome wallet call := by
  intro claimed
  obtain ⟨wallet, reached, -, outcomes⟩ := claimed [] (by simp)
  cases reached
  let call : WalletCall := .deduct 1 (String.ofList (List.replicate 51 'x')) "req_1"
  have threw : call.result schema (some opened) = .error .database := by decide +kernel
  -- none of the three outcomes is an error of the database
  cases outcomes call (by decide) with
  | appended _ _ returned | insufficientFunds _ returned | earlierRefund _ _ _ _ _ _ returned =>
    rw [threw] at returned
    cases returned

/-! ### Amounts and balances -/

/-- The change of the balance that an entry's amount stands for. -/
def signedAmount (t : WalletTransaction) : ℚ :=
  match t.transactionType with
  | .debit => -t.amount
  | .credit | .refund | .adjustment => t.amount

/-- The amount of the entry is what its balances differ by. -/
def Accounts (t : WalletTransaction) : Prop := t.balanceAfter - t.balanceBefore = signedAmount t

/-- A call that takes effect has no more than four decimals. -/
def FourDecimals (row : Option Wallet) (call : WalletCall) : Prop :=
  call.TakesEffect schema (getOrCreateWallet row) → OnGrid 10000 call.amount

theorem Posted.accounts_iff {entry : WalletTransaction} (posted : Posted wallet call wallet' entry)
    (onGrid : OnGrid 10000 wallet.balance) : Accounts entry ↔ OnGrid 10000 call.amount := by
  have signed : signedAmount entry = call.change := by
    rw [signedAmount, posted.type, posted.amount]
    cases call <;> rfl
  -- the old balance is on the grid: only the change is rounded
  have rounded : entry.balanceAfter - entry.balanceBefore = round4 call.change := by
    rw [posted.after, posted.before, posted.balance, round4_add onGrid]
    ring
  rw [Accounts, signed, rounded, round4_eq_self]
  cases call with
  | deduct cost referenceType referenceId =>
    constructor
    · intro grid
      have back := grid.neg
      rw [change, neg_neg] at back
      exact back
    · exact OnGrid.neg
  | refund | topup => exact Iff.rfl

/-- The entries of a sequence of calls account for themselves exactly when the ones before it did
and the calls that take effect have four decimals. -/
theorem accounts_history_iff (calls : List WalletCall) (chained : Chained wallet) :
    ∃ final, history schema (some wallet) calls = some final ∧ Chained final ∧
      ((∀ t ∈ final.transactions, Accounts t) ↔ (∀ t ∈ wallet.transactions, Accounts t) ∧
        Respects (step schema) FourDecimals (some wallet) calls) := by
  induction calls generalizing wallet with
  | nil => exact ⟨wallet, rfl, chained, by simp [Respects]⟩
  | cons call calls ih =>
    by_cases effective : call.TakesEffect schema wallet
    · obtain ⟨next, entry, applied, posted⟩ := apply_posted effective
      obtain ⟨final, reached, chained', accounts⟩ := ih (chained.posted posted)
      refine ⟨final, by rw [history_cons, applied, reached], chained', ?_⟩
      -- the new entry accounts for itself when the amount needed no rounding
      have now : FourDecimals (some wallet) call ↔ OnGrid 10000 call.amount :=
        ⟨fun decimals => decimals effective, fun decimals _ => decimals⟩
      simp only [accounts, posted.transactions, List.forall_mem_append, List.forall_mem_singleton,
        posted.accounts_iff chained.onGrid, Respects, step, applied, now, and_assoc]
    · have same := apply_without effective
      obtain ⟨final, reached, chained', accounts⟩ := ih chained
      refine ⟨final, by rw [history_cons, same, reached], chained', ?_⟩
      -- nothing is entered
      have now : FourDecimals (some wallet) call := fun takes => absurd takes effective
      simp only [accounts, Respects, step, same, now, true_and]

/-! ### What a refund gives back -/

/-- What a call made in this state adds to the balance. -/
def added (row : Option Wallet) (call : WalletCall) : ℚ :=
  (getOrCreateWallet (call.apply schema row)).balance - (getOrCreateWallet row).balance

/-- A refund call of this amount and reference. -/
def IsRefundOf (cost : ℚ) (referenceId : String) : WalletCall → Prop
  | deduct .. => False
  | refund amount _ id _ => amount = cost ∧ id = referenceId
  | topup .. => False

/-- In the history, a deduct that takes effect and the first refund of its amount and reference
after it. -/
structure DeductAndRefund (calls earlier between : List WalletCall) (deducted refunded : WalletCall)
    (cost : ℚ) (referenceId : String) : Prop where
  order : ∃ later, calls = earlier ++ deducted :: (between ++ refunded :: later)
  deduct : ∃ referenceType, deducted = .deduct cost referenceType referenceId
  taken : deducted.TakesEffect schema (getOrCreateWallet (history schema (some opened) earlier))
  refund : refunded.IsRefundOf cost referenceId
  first : ∀ call ∈ between, ¬call.IsRefundOf cost referenceId

/-- The amounts of the ledger account for the balance, and refunds give back what was taken. -/
structure Conserved (calls : List WalletCall) (wallet : Wallet) : Prop where
  entries : ∀ t ∈ wallet.transactions, Accounts t
  balance : wallet.balance = 100 + (wallet.transactions.map signedAmount).sum
  givesBack : ∀ {earlier between deducted refunded cost referenceId},
    DeductAndRefund calls earlier between deducted refunded cost referenceId →
      added (history schema (some opened) (earlier ++ deducted :: between)) refunded =
        -added (history schema (some opened) earlier) deducted

/-- No refund call of an amount that was taken is suppressed: not by an earlier refund of the same
stored reference, and not by its columns. -/
def Unsuppressed (calls : List WalletCall) : Prop :=
  ∀ {earlier between deducted refunded cost referenceId},
    DeductAndRefund calls earlier between deducted refunded cost referenceId → cost ≠ 0 →
      refunded.TakesEffect schema
        (getOrCreateWallet (history schema (some opened) (earlier ++ deducted :: between)))

theorem IsRefundOf.change {cost : ℚ} {referenceId : String} (refund : call.IsRefundOf cost referenceId) :
    call.change = cost := by
  cases call with
  | deduct | topup => cases refund
  | refund => exact refund.1

section Added

variable {row : Option Wallet}

theorem added_effective (valid : Valid row)
    (effective : call.TakesEffect schema (getOrCreateWallet row)) :
    added row call = round4 call.change := by
  rw [added, apply_effective effective]
  have balance := entry_balanceAfter (getOrCreateWallet row) call
  rw [round4_add valid] at balance
  exact sub_eq_of_eq_add' balance

theorem added_without (without : ¬call.TakesEffect schema (getOrCreateWallet row)) :
    added row call = 0 := by
  rw [added, apply_ineffective without, sub_self]

end Added

theorem run_step (row : Option Wallet) (calls : List WalletCall) :
    run (step tables) row calls = some (history tables row calls) := by
  induction calls generalizing row with
  | nil => rfl
  | cons call calls ih => exact ih _

/-- With four decimals a refund gives back what was taken exactly when it takes effect. -/
theorem DeductAndRefund.givesBack_iff {calls earlier between : List WalletCall}
    {deducted refunded : WalletCall} {cost : ℚ} {referenceId : String}
    (pair : DeductAndRefund calls earlier between deducted refunded cost referenceId)
    (decimals : Respects (step schema) FourDecimals (some opened) calls) :
    added (history schema (some opened) (earlier ++ deducted :: between)) refunded =
        -added (history schema (some opened) earlier) deducted ↔
      (cost ≠ 0 → refunded.TakesEffect schema
        (getOrCreateWallet (history schema (some opened) (earlier ++ deducted :: between)))) := by
  obtain ⟨⟨later, rfl⟩, ⟨referenceType, rfl⟩, taken, refund, -⟩ := pair
  -- the deduct took effect, so its cost has four decimals and is taken and given back unrounded
  have grid : OnGrid 10000 cost := (decimals.append (run_step _ earlier)).2.1 taken
  have valid (before : List WalletCall) : Valid (history schema (some opened) before) :=
    history_valid before valid_none
  have takes : added (history schema (some opened) earlier) (.deduct cost referenceType referenceId) =
      -cost := by
    rw [added_effective (valid earlier) taken]
    exact round4_of_onGrid grid.neg
  rw [takes, neg_neg]
  by_cases effective : refunded.TakesEffect schema (getOrCreateWallet (history schema (some opened)
    (earlier ++ .deduct cost referenceType referenceId :: between)))
  · rw [added_effective (valid _) effective, refund.change, round4_of_onGrid grid]
    exact iff_of_true rfl fun _ => effective
  · -- a suppressed refund gives back nothing, which is right only if nothing was taken
    rw [added_without effective]
    constructor
    · exact fun nothing charged => absurd nothing.symm charged
    · intro takes_effect
      by_contra charged
      exact effective (takes_effect fun zero => charged zero.symm)

/-- The ledger conserves amounts after a sequence of calls exactly when every call that took
effect had no more than four decimals, and no refund of what was taken was suppressed. -/
theorem conserved_iff_fourDecimals (calls : List WalletCall) :
    Conserved calls (getOrCreateWallet (history schema (some opened) calls)) ↔
      Respects (step schema) FourDecimals (some opened) calls ∧ Unsuppressed calls := by
  obtain ⟨final, reached, chained, accounts⟩ := accounts_history_iff calls opened_chained
  have none_before : ∀ t ∈ opened.transactions, Accounts t := by simp [opened, getOrCreateWallet]
  rw [reached]
  constructor
  · intro conserved
    have decimals := (accounts.mp conserved.entries).2
    exact ⟨decimals, fun pair => (pair.givesBack_iff decimals).mp (conserved.givesBack pair)⟩
  · rintro ⟨decimals, unsuppressed⟩
    have entries := accounts.mpr ⟨none_before, decimals⟩
    refine ⟨entries, ?_, fun pair => (pair.givesBack_iff decimals).mpr (unsuppressed pair)⟩
    show final.balance = _
    rw [chained.chain.sum, List.map_congr_left entries]
    rfl

/-- A payment of 0.00005 adds 0.0001 to the balance. -/
theorem half_step_topup_not_conserved :
    ¬∀ calls : List WalletCall, (∀ call ∈ calls, call.ValidAmount ∧ call.Accepted) →
      Conserved calls (getOrCreateWallet (history schema (some opened) calls)) := by
  intro conserves
  have entries := (conserves [.topup (1 / 20000) "pay_1"] (by decide +kernel)).entries
  revert entries
  unfold Accounts
  decide +kernel

/-! ### Payments -/

/-- The payments of a sequence of calls, with their references. -/
def payments : List WalletCall → List (String × ℚ)
  | [] => []
  | topup amount referenceId :: calls => (referenceId, amount) :: payments calls
  | deduct .. :: calls => payments calls
  | refund .. :: calls => payments calls

/-- The sum that counts the first payment of each reference, and no payment of a reference that
has been seen. -/
def creditedOnce (seen : List String) : List (String × ℚ) → ℚ
  | [] => 0
  | (referenceId, amount) :: rest =>
    (if referenceId ∈ seen then 0 else amount) + creditedOnce (referenceId :: seen) rest

def credited (transactions : List WalletTransaction) : ℚ :=
  ((transactions.filter (·.transactionType == .credit)).map (·.amount)).sum

theorem credited_append (transactions : List WalletTransaction) (entry : WalletTransaction) :
    credited (transactions ++ [entry]) =
      credited transactions + if entry.transactionType = .credit then entry.amount else 0 := by
  unfold credited
  rw [List.filter_append, List.map_append, List.sum_append]
  by_cases credit : entry.transactionType = .credit <;> simp [credit]

/-- The `CHECK` keeps the balance from falling below zero, whatever the amounts. -/
theorem apply_nonneg (call : WalletCall) (nonneg : 0 ≤ wallet.balance) :
    0 ≤ (getOrCreateWallet (call.apply schema (some wallet))).balance := by
  by_cases effective : call.TakesEffect schema wallet
  · have applied : call.apply schema (some wallet) = _ := apply_effective effective
    rw [applied]
    exact (schema_iff.mp effective.2).1
  · rw [apply_without effective]
    exact nonneg

/-- A payment is taken. -/
theorem topup_effective {amount : ℚ} {referenceId : String} (nonneg : 0 ≤ wallet.balance)
    (accepted : (topup amount referenceId).Accepted) :
    (topup amount referenceId).TakesEffect schema wallet := by
  have schema_accepts : topupSchema amount referenceId = true := accepted
  simp only [topupSchema, Bool.and_eq_true, decide_eq_true_eq] at schema_accepts
  refine ⟨trivial, (schema_entry ..).mpr ⟨?_, trivial⟩⟩
  exact roundTo_nonneg (add_nonneg nonneg (le_of_lt schema_accepts.1))

/-- Every payment is credited. -/
theorem credited_history (calls : List WalletCall) (nonneg : 0 ≤ wallet.balance)
    (accepted : ∀ call ∈ calls, call.Accepted) :
    ∃ final, history schema (some wallet) calls = some final ∧
      credited final.transactions =
        credited wallet.transactions + ((payments calls).map (·.2)).sum := by
  induction calls generalizing wallet with
  | nil => exact ⟨wallet, rfl, by simp [payments]⟩
  | cons call calls ih =>
    have rest_accepted : ∀ call ∈ calls, call.Accepted :=
      fun other member => accepted other (by simp [member])
    have kept := apply_nonneg call nonneg
    by_cases effective : call.TakesEffect schema wallet
    · obtain ⟨next, entry, applied, posted⟩ := apply_posted effective
      rw [applied] at kept
      have nonneg_next : 0 ≤ next.balance := kept
      obtain ⟨final, reached, sum⟩ := ih nonneg_next rest_accepted
      refine ⟨final, by rw [history_cons, applied, reached], ?_⟩
      rw [sum, posted.transactions, credited_append, posted.type, posted.amount]
      cases call with
      | deduct | refund => simp [transactionType, payments]
      | topup amount referenceId =>
        simp [transactionType, payments, WalletCall.amount, add_assoc]
    · have same := apply_without effective
      obtain ⟨final, reached, sum⟩ := ih nonneg rest_accepted
      refine ⟨final, by rw [history_cons, same, reached], ?_⟩
      rw [sum]
      cases call with
      | deduct | refund => rfl
      | topup => exact absurd (topup_effective nonneg (accepted _ (by simp))) effective

theorem creditedOnce_le (seen : List String) {paid : List (String × ℚ)}
    (positive : ∀ p ∈ paid, 0 < p.2) : creditedOnce seen paid ≤ (paid.map (·.2)).sum := by
  induction paid generalizing seen with
  | nil => rfl
  | cons p paid ih =>
    obtain ⟨referenceId, amount⟩ := p
    have rest := ih (referenceId :: seen) fun q member => positive q (by simp [member])
    have more := positive (referenceId, amount) (by simp)
    simp only [creditedOnce, List.map_cons, List.sum_cons]
    split <;> linarith

/-- Nothing is left out when no reference comes twice. -/
theorem creditedOnce_eq_iff (seen : List String) {paid : List (String × ℚ)}
    (positive : ∀ p ∈ paid, 0 < p.2) :
    (paid.map (·.2)).sum = creditedOnce seen paid ↔
      (paid.map (·.1)).Nodup ∧ ∀ referenceId ∈ paid.map (·.1), referenceId ∉ seen := by
  induction paid generalizing seen with
  | nil => simp [creditedOnce]
  | cons p paid ih =>
    obtain ⟨referenceId, amount⟩ := p
    have positive_rest : ∀ q ∈ paid, 0 < q.2 := fun q member => positive q (by simp [member])
    have more : 0 < amount := positive (referenceId, amount) (by simp)
    have bound := creditedOnce_le (referenceId :: seen) positive_rest
    have rest := ih (referenceId :: seen) positive_rest
    simp only [creditedOnce, List.map_cons, List.sum_cons]
    by_cases known : referenceId ∈ seen
    · -- a payment that has been seen is left out
      constructor
      · intro same
        rw [if_pos known] at same
        linarith
      · intro distinct
        exact absurd known (distinct.2 referenceId (by simp))
    · rw [if_neg known, add_right_inj, rest, List.nodup_cons]
      constructor
      · rintro ⟨nodup, unseen⟩
        refine ⟨⟨fun again => unseen referenceId again (by simp), nodup⟩, fun other member => ?_⟩
        rcases List.mem_cons.mp member with rfl | later
        · exact known
        · exact fun old => unseen other later (by simp [old])
      · rintro ⟨⟨absent, nodup⟩, unseen⟩
        refine ⟨nodup, fun other member old => ?_⟩
        rcases List.mem_cons.mp old with rfl | old
        · exact absent member
        · exact unseen other (by simp [member]) old

theorem payments_positive {calls : List WalletCall} (accepted : ∀ call ∈ calls, call.Accepted) :
    ∀ p ∈ payments calls, 0 < p.2 := by
  induction calls with
  | nil => simp [payments]
  | cons call calls ih =>
    have rest := ih fun other member => accepted other (by simp [member])
    cases call with
    | deduct | refund => exact rest
    | topup amount referenceId =>
      have schema : topupSchema amount referenceId = true := accepted (.topup amount referenceId) (by simp)
      intro p member
      rcases List.mem_cons.mp member with rfl | later
      · simp only [topupSchema, Bool.and_eq_true, decide_eq_true_eq] at schema
        exact schema.1
      · exact rest p later

/-- The credit entries count every payment reference once exactly when the references of the
payments are distinct: the code does not look for an earlier payment. -/
theorem credited_once_iff_distinct (calls : List WalletCall)
    (accepted : ∀ call ∈ calls, call.Accepted) :
    credited (getOrCreateWallet (history schema (some opened) calls)).transactions =
        creditedOnce [] (payments calls) ↔
      ((payments calls).map (·.1)).Nodup := by
  obtain ⟨final, reached, sum⟩ := credited_history calls opened_safe.nonneg accepted
  have none_before : credited opened.transactions = 0 := rfl
  rw [reached]
  rw [none_before, zero_add] at sum
  show credited final.transactions = _ ↔ _
  rw [sum, creditedOnce_eq_iff [] (payments_positive accepted)]
  simp

theorem credited_once_two_payments :
    credited (getOrCreateWallet (history schema (some opened)
        [.topup 500 "pay_1", .deduct 1 "otp_request" "req_1", .topup 20 "pay_2"])).transactions =
        creditedOnce [] [("pay_1", 500), ("pay_2", 20)] ↔ ["pay_1", "pay_2"].Nodup :=
  credited_once_iff_distinct [.topup 500 "pay_1", .deduct 1 "otp_request" "req_1", .topup 20 "pay_2"]
    (by decide +kernel)

/-- The gateway reports one payment twice. -/
theorem credited_twice :
    ¬∀ calls : List WalletCall, (∀ call ∈ calls, call.Accepted) →
      credited (getOrCreateWallet (history schema (some opened) calls)).transactions =
        creditedOnce [] (payments calls) := by
  intro once
  have sum := once [.topup 500 "pay_stripe_order_9812401824", .topup 500 "pay_stripe_order_9812401824"]
    (by decide +kernel)
  revert sum
  decide +kernel

end SelfOtp.WalletCall
