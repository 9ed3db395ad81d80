import SelfOtp.Lib.Transition
import SelfOtp.Model.Wallet

/-! What one wallet call does, and what a history of calls preserves. -/
namespace SelfOtp.WalletService

open Rounding

/-- Balances lie on the grid of 1/10000 credit. -/
def Valid (row : Option Wallet) : Prop := OnGrid 10000 (getOrCreateWallet row).balance

/-- The ledger holds a refund with this type and stored reference. -/
def Refunded (row : Option Wallet) (referenceType : String) (referenceId : Option String) : Prop :=
  ∃ t ∈ (getOrCreateWallet row).transactions, t.referenceType = referenceType ∧
    t.referenceId = referenceId ∧ t.transactionType = .refund

theorem existingRefund_eq_none {row : Option Wallet} {referenceType : String}
    {referenceId : Option String} :
    existingRefund (getOrCreateWallet row) referenceType referenceId = none ↔
      ¬Refunded row referenceType referenceId := by
  simp only [existingRefund, Refunded, List.find?_eq_none, Bool.and_eq_true, beq_iff_eq,
    and_assoc, not_exists, not_and]

theorem onGrid_round4 (x : ℚ) : OnGrid 10000 (round4 x) := onGrid_roundTo

theorem round4_add {a : ℚ} (ha : OnGrid 10000 a) (x : ℚ) : round4 (a + x) = a + round4 x :=
  roundTo_add (by decide) ha

theorem round4_of_onGrid {a : ℚ} (ha : OnGrid 10000 a) : round4 a = a :=
  roundTo_of_onGrid (by decide) ha

theorem round4_eq_self {x : ℚ} : round4 x = x ↔ OnGrid 10000 x := by
  constructor
  · intro same
    rw [← same]
    exact onGrid_round4 x
  · exact round4_of_onGrid

theorem valid_none : Valid none := onGrid_intCast (by decide) 100

section Operations

variable {tables : Tables} {row : Option Wallet} {wallet : Wallet} {entry : WalletTransaction}
  {cost amount : ℚ} {referenceType referenceId reason : String}

theorem post_taken (taken : tables.takes entry = true) :
    post tables wallet entry = .ok (entry.balanceAfter, wallet.enter (tables.stored entry)) := if_pos taken

theorem post_refused (refused : tables.takes entry = false) :
    post tables wallet entry = .error .database := by
  rw [post, refused]
  rfl

theorem schema_iff : schema.takes entry = true ↔ 0 ≤ entry.balanceAfter ∧
    fitsVarChar 50 entry.referenceType = true ∧ isText entry.referenceType = true ∧
      isText entry.description = true := by
  simp only [schema, Bool.and_eq_true, decide_eq_true_eq, and_assoc]

theorem deductCreditsAtomic_insufficient (poor : (getOrCreateWallet row).balance < cost) :
    deductCreditsAtomic tables row cost referenceType referenceId =
      .error (.app (insufficientFunds (getOrCreateWallet row).balance cost)) := by
  simp [deductCreditsAtomic, poor]

/-- The entry of a debit. -/
@[simps] def debitEntry (wallet : Wallet) (cost : ℚ) (referenceType referenceId : String) :
    WalletTransaction :=
  ⟨.debit, cost, wallet.balance, round4 (wallet.balance - cost), referenceType,
    storedReferenceId referenceId, "OTP Dispatch Debit"⟩

theorem deductCreditsAtomic_rich (rich : cost ≤ (getOrCreateWallet row).balance) :
    deductCreditsAtomic tables row cost referenceType referenceId =
      post tables (getOrCreateWallet row)
        (debitEntry (getOrCreateWallet row) cost referenceType referenceId) := by
  simp [deductCreditsAtomic, not_lt.mpr rich, debitEntry]

theorem deductCreditsAtomic_sufficient (rich : cost ≤ (getOrCreateWallet row).balance) :
    deductCreditsAtomic resolves row cost referenceType referenceId =
      .ok (round4 ((getOrCreateWallet row).balance - cost), (getOrCreateWallet row).enter
        (debitEntry (getOrCreateWallet row) cost referenceType referenceId)) :=
  deductCreditsAtomic_rich rich

/-- A deduct that returns has found the funds. -/
theorem deductCreditsAtomic_ok {balance : ℚ}
    (paid : deductCreditsAtomic resolves row cost referenceType referenceId = .ok (balance, wallet)) :
    wallet = (getOrCreateWallet row).enter
      (debitEntry (getOrCreateWallet row) cost referenceType referenceId) := by
  by_cases poor : (getOrCreateWallet row).balance < cost
  · rw [deductCreditsAtomic_insufficient poor] at paid
    cases paid
  · rw [deductCreditsAtomic_sufficient (not_lt.mp poor)] at paid
    cases paid
    rfl

theorem deductCreditsAtomic_ne_database :
    deductCreditsAtomic resolves row cost referenceType referenceId ≠ .error .database := by
  by_cases poor : (getOrCreateWallet row).balance < cost
  · rw [deductCreditsAtomic_insufficient poor]
    simp
  · rw [deductCreditsAtomic_sufficient (not_lt.mp poor)]
    simp

theorem refundCredits_duplicate (seen : Refunded row referenceType (storedReferenceId referenceId)) :
    refundCredits tables row cost referenceType referenceId reason =
      .ok ((getOrCreateWallet row).balance, getOrCreateWallet row) := by
  unfold refundCredits
  dsimp only
  split
  · rfl
  next absent => exact absurd seen (existingRefund_eq_none.mp absent)

/-- The entry of a refund. -/
@[simps] def refundEntry (wallet : Wallet) (cost : ℚ) (referenceType referenceId reason : String) :
    WalletTransaction :=
  ⟨.refund, cost, wallet.balance, round4 (wallet.balance + cost), referenceType,
    storedReferenceId referenceId, "Refund: " ++ reason⟩

theorem refundCredits_first (fresh : ¬Refunded row referenceType (storedReferenceId referenceId)) :
    refundCredits tables row cost referenceType referenceId reason =
      post tables (getOrCreateWallet row)
        (refundEntry (getOrCreateWallet row) cost referenceType referenceId reason) := by
  have absent := existingRefund_eq_none.mpr fresh
  simp only [refundCredits, absent, refundEntry]

theorem refundCredits_fresh (fresh : ¬Refunded row referenceType (storedReferenceId referenceId)) :
    refundCredits resolves row cost referenceType referenceId reason =
      .ok (round4 ((getOrCreateWallet row).balance + cost), (getOrCreateWallet row).enter
        (refundEntry (getOrCreateWallet row) cost referenceType referenceId reason)) :=
  refundCredits_first fresh

/-- A refund has been granted before, or is granted now. -/
theorem refundCredits_ok {balance : ℚ}
    (granted : refundCredits resolves row cost referenceType referenceId reason = .ok (balance, wallet)) :
    (Refunded row referenceType (storedReferenceId referenceId) ∧ wallet = getOrCreateWallet row) ∨
    (¬Refunded row referenceType (storedReferenceId referenceId) ∧ wallet = (getOrCreateWallet row).enter
      (refundEntry (getOrCreateWallet row) cost referenceType referenceId reason)) := by
  by_cases seen : Refunded row referenceType (storedReferenceId referenceId)
  · rw [refundCredits_duplicate seen] at granted
    cases granted
    exact Or.inl ⟨seen, rfl⟩
  · rw [refundCredits_fresh seen] at granted
    cases granted
    exact Or.inr ⟨seen, rfl⟩

/-- The entry of a payment. -/
@[simps] def creditEntry (wallet : Wallet) (amount : ℚ) (referenceId : String) : WalletTransaction :=
  ⟨.credit, amount, wallet.balance, round4 (wallet.balance + amount), "payment",
    storedReferenceId referenceId, "Wallet Topup Credit"⟩

theorem topupWallet_eq : topupWallet tables row amount referenceId =
    post tables (getOrCreateWallet row) (creditEntry (getOrCreateWallet row) amount referenceId) := rfl

@[simp] theorem refunded_enter {kind : String} {key : Option String} :
    Refunded (some (wallet.enter entry)) kind key ↔ Refunded (some wallet) kind key ∨
      (entry.referenceType = kind ∧ entry.referenceId = key ∧ entry.transactionType = .refund) := by
  simp only [Refunded, getOrCreateWallet, Wallet.enter, List.mem_append, List.mem_singleton, or_and_right,
    exists_or, exists_eq_left]

@[simp] theorem refunded_create {key : Option String} :
    Refunded (some (getOrCreateWallet row)) referenceType key ↔ Refunded row referenceType key :=
  Iff.rfl

end Operations

end SelfOtp.WalletService

namespace SelfOtp.WalletCall

open WalletService Rounding Transition

variable {tables : Tables} {row : Option Wallet} {wallet : Wallet} {call : WalletCall}

/-- The entry that the call makes when it makes one. -/
def entry (wallet : Wallet) : WalletCall → WalletTransaction
  | deduct cost referenceType referenceId => debitEntry wallet cost referenceType referenceId
  | refund cost referenceType referenceId reason =>
    refundEntry wallet cost referenceType referenceId reason
  | topup amount referenceId => creditEntry wallet amount referenceId

/-- The call comes to its entry: there are funds, and no earlier refund. -/
def Reaches (wallet : Wallet) : WalletCall → Prop
  | deduct cost _ _ => cost ≤ wallet.balance
  | refund _ referenceType referenceId _ =>
    ¬Refunded (some wallet) referenceType (storedReferenceId referenceId)
  | topup .. => True

instance (wallet : Wallet) : DecidablePred (Reaches wallet)
  | deduct cost _ _ => inferInstanceAs (Decidable (cost ≤ wallet.balance))
  | refund _ referenceType referenceId _ =>
    inferInstanceAs (Decidable (¬∃ t ∈ wallet.transactions, t.referenceType = referenceType ∧
      t.referenceId = storedReferenceId referenceId ∧ t.transactionType = .refund))
  | topup .. => isTrue trivial

theorem result_eq_post (reaches : call.Reaches (getOrCreateWallet row)) :
    call.result tables row =
      post tables (getOrCreateWallet row) (call.entry (getOrCreateWallet row)) := by
  cases call with
  | deduct => exact deductCreditsAtomic_rich reaches
  | refund => exact refundCredits_first reaches
  | topup => exact topupWallet_eq

/-- The call changes the wallet: it comes to its entry, and the tables take it. -/
def TakesEffect (tables : Tables) (wallet : Wallet) (call : WalletCall) : Prop :=
  call.Reaches wallet ∧ tables.takes (call.entry wallet) = true

instance : DecidablePred (TakesEffect tables wallet) := fun call =>
  inferInstanceAs (Decidable (call.Reaches wallet ∧ tables.takes (call.entry wallet) = true))

theorem result_effective (effective : call.TakesEffect tables (getOrCreateWallet row)) :
    call.result tables row = .ok ((call.entry (getOrCreateWallet row)).balanceAfter,
      (getOrCreateWallet row).enter (tables.stored (call.entry (getOrCreateWallet row)))) := by
  rw [result_eq_post effective.1, post_taken effective.2]

theorem apply_effective (effective : call.TakesEffect tables (getOrCreateWallet row)) :
    call.apply tables row =
      some ((getOrCreateWallet row).enter (tables.stored (call.entry (getOrCreateWallet row)))) := by
  rw [apply, result_effective effective]

/-- A call that returns has made its entry, or has found an earlier refund. -/
theorem result_ok {balance : ℚ} (returned : call.result tables row = .ok (balance, wallet)) :
    (call.TakesEffect tables (getOrCreateWallet row) ∧
      wallet = (getOrCreateWallet row).enter (tables.stored (call.entry (getOrCreateWallet row)))) ∨
    ((∃ cost kind id reason, call = .refund cost kind id reason) ∧ wallet = getOrCreateWallet row) := by
  by_cases reaches : call.Reaches (getOrCreateWallet row)
  · rw [result_eq_post reaches, post] at returned
    -- a refused entry does not return
    split at returned <;> cases returned
    next taken => exact Or.inl ⟨⟨reaches, taken⟩, rfl⟩
  · cases call with
    | deduct =>
      rw [result, deductCreditsAtomic_insufficient (not_le.mp reaches)] at returned
      cases returned
    | refund cost referenceType referenceId reason =>
      have seen : Refunded row referenceType (storedReferenceId referenceId) := not_not.mp reaches
      rw [result, refundCredits_duplicate seen] at returned
      cases returned
      exact Or.inr ⟨⟨_, _, _, _, rfl⟩, rfl⟩
    | topup => exact absurd trivial reaches

/-- A call without effect may have created the wallet, and has done no more. -/
theorem apply_ineffective (without : ¬call.TakesEffect tables (getOrCreateWallet row)) :
    getOrCreateWallet (call.apply tables row) = getOrCreateWallet row := by
  by_cases reaches : call.Reaches (getOrCreateWallet row)
  · -- the tables refuse the entry, and the transaction is rolled back
    have refused : tables.takes (call.entry (getOrCreateWallet row)) = false :=
      Bool.eq_false_iff.mpr fun taken => without ⟨reaches, taken⟩
    rw [apply, result_eq_post reaches, post_refused refused]
  · cases call with
    | deduct => rw [apply, result, deductCreditsAtomic_insufficient (not_le.mp reaches)]
    | refund cost referenceType referenceId reason =>
      have seen : Refunded row referenceType (storedReferenceId referenceId) := not_not.mp reaches
      rw [apply, result, refundCredits_duplicate seen]
      rfl
    | topup => exact absurd trivial reaches

theorem isText_refund {reason : String} : isText ("Refund: " ++ reason) = isText reason := by
  simp [isText]

/-- The columns take the texts of the call. -/
def TextsFit : WalletCall → Prop
  | deduct _ referenceType _ => fitsVarChar 50 referenceType = true ∧ isText referenceType = true
  | refund _ referenceType _ reason =>
    fitsVarChar 50 referenceType = true ∧ isText referenceType = true ∧ isText reason = true
  | topup .. => True

theorem schema_entry (wallet : Wallet) (call : WalletCall) :
    schema.takes (call.entry wallet) = true ↔ 0 ≤ (call.entry wallet).balanceAfter ∧ call.TextsFit := by
  rw [schema_iff]
  refine and_congr_right fun _ => ?_
  cases call with
  | deduct cost referenceType =>
    have described : isText "OTP Dispatch Debit" = true := by decide
    exact ⟨fun ⟨fits, text, _⟩ => ⟨fits, text⟩, fun ⟨fits, text⟩ => ⟨fits, text, described⟩⟩
  | refund cost referenceType referenceId reason =>
    show _ ∧ _ ∧ isText ("Refund: " ++ reason) = true ↔ _
    rw [isText_refund]
    exact Iff.rfl
  | topup =>
    have payment : fitsVarChar 50 "payment" = true ∧ isText "payment" = true ∧
        isText "Wallet Topup Credit" = true := by decide
    exact ⟨fun _ => trivial, fun _ => payment⟩

/-- Type and reference of a refund call, as they are stored. -/
def refundKey (tables : Tables) : WalletCall → Option (String × Option String)
  | deduct .. => none
  | refund _ referenceType referenceId _ =>
    some (tables.referenceType referenceType, storedReferenceId referenceId)
  | topup .. => none

theorem onGrid_entry (wallet : Wallet) (call : WalletCall) :
    OnGrid 10000 (call.entry wallet).balanceAfter := by
  cases call <;> exact onGrid_round4 _

theorem apply_valid (call : WalletCall) (valid : Valid row) : Valid (call.apply tables row) := by
  by_cases effective : call.TakesEffect tables (getOrCreateWallet row)
  · rw [apply_effective effective]
    exact onGrid_entry _ call
  · rw [Valid, apply_ineffective effective]
    exact valid

theorem entry_refunds (kind : String) (key : Option String) :
    ((tables.stored (call.entry wallet)).referenceType = kind ∧
      (tables.stored (call.entry wallet)).referenceId = key ∧
      (tables.stored (call.entry wallet)).transactionType = .refund) ↔
        call.refundKey tables = some (kind, key) := by
  cases call <;> simp [Tables.stored, entry, debitEntry, refundEntry, creditEntry, refundKey]

/-- A call adds exactly the refund it is keyed by, if it takes effect. -/
theorem refunded_apply (call : WalletCall) (kind : String) (key : Option String) :
    Refunded (call.apply tables row) kind key ↔ Refunded row kind key ∨
      (call.TakesEffect tables (getOrCreateWallet row) ∧ call.refundKey tables = some (kind, key)) := by
  by_cases effective : call.TakesEffect tables (getOrCreateWallet row)
  · rw [apply_effective effective, refunded_enter, refunded_create, entry_refunds]
    simp only [effective, true_and]
  · rw [Refunded, apply_ineffective effective]
    simp only [effective, false_and, or_false]
    rfl

/-- The reference types of the ledger are as their column keeps them. -/
def TypesKept (tables : Tables) (row : Option Wallet) : Prop :=
  ∀ t ∈ (getOrCreateWallet row).transactions, tables.referenceType t.referenceType = t.referenceType

theorem typesKept_none : TypesKept tables none := by simp [TypesKept, getOrCreateWallet]

theorem TypesKept.apply (call : WalletCall) (types : TypesKept tables row) :
    TypesKept tables (call.apply tables row) := by
  by_cases effective : call.TakesEffect tables (getOrCreateWallet row)
  · rw [apply_effective effective]
    intro t member
    rcases List.mem_append.mp member with earlier | new
    · exact types t earlier
    · rw [List.mem_singleton.mp new]
      exact tables.kept _
  · rw [TypesKept, apply_ineffective effective]
    exact types

/-- A refund is looked for under its type as it is passed: one that its column shortens is not found. -/
theorem reaches_of_fresh {kind : String} {key : Option String} (types : TypesKept tables row)
    (fresh : ¬Refunded row kind key) (keyed : call.refundKey tables = some (kind, key)) :
    call.Reaches (getOrCreateWallet row) := by
  cases call with
  | deduct | topup => cases keyed
  | refund cost referenceType referenceId reason =>
    cases keyed
    rintro ⟨t, member, type, reference, refund⟩
    have kept := types t member
    rw [type] at kept
    exact fresh ⟨t, member, type.trans kept.symm, reference, refund⟩

theorem history_cons (row : Option Wallet) (call : WalletCall) (calls : List WalletCall) :
    history tables row (call :: calls) = history tables (call.apply tables row) calls := rfl

theorem history_valid (calls : List WalletCall) (valid : Valid row) :
    Valid (history tables row calls) := by
  induction calls generalizing row with
  | nil => exact valid
  | cons call calls ih => exact ih (apply_valid call valid)

/-- A call that is made alone. -/
def step (tables : Tables) (row : Option Wallet) (call : WalletCall) : Option (Option Wallet) :=
  some (call.apply tables row)

/-- The call is no refund that is stored with this type and reference, or the tables refuse its entry. -/
def Unentered (tables : Tables) (kind : String) (key : Option String) (row : Option Wallet)
    (call : WalletCall) : Prop :=
  call.refundKey tables = some (kind, key) → tables.takes (call.entry (getOrCreateWallet row)) = false

instance (kind : String) (key : Option String) (row : Option Wallet) (call : WalletCall) :
    Decidable (Unentered tables kind key row call) :=
  inferInstanceAs (Decidable (_ → _))

/-- A ledger holds a refund from the first call on that was keyed by it and that the tables took. -/
theorem not_refunded_history (calls : List WalletCall) (kind : String) (key : Option String)
    (types : TypesKept tables row) :
    ¬Refunded (history tables row calls) kind key ↔
      ¬Refunded row kind key ∧ Respects (step tables) (Unentered tables kind key) row calls := by
  induction calls generalizing row with
  | nil => simp [history, Respects]
  | cons call calls ih =>
    rw [history_cons, ih (types.apply call), refunded_apply, Respects, not_or, and_assoc]
    refine and_congr_right fun fresh => and_congr_left fun _ => ?_
    -- where there is no such refund yet, a call that is keyed by it comes to its entry
    constructor
    · intro without keyed
      by_contra taken
      exact without ⟨⟨reaches_of_fresh types fresh keyed, Bool.eq_true_of_not_eq_false taken⟩, keyed⟩
    · rintro unentered ⟨⟨-, taken⟩, keyed⟩
      rw [unentered keyed] at taken
      cases taken

theorem not_refunded_none {kind : String} {key : Option String} : ¬Refunded none kind key := by
  simp [Refunded, getOrCreateWallet]

end SelfOtp.WalletCall
