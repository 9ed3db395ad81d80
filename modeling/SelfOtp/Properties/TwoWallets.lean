import SelfOtp.Model.EdgeDatabase
import SelfOtp.Properties.WalletLedger

/-! Whether `WalletService` and the stored procedures do the same to a wallet. -/
namespace SelfOtp

open WalletService Rounding

/-- A call that both implementations serve. -/
inductive CreditCall where
  | deduct (amount : ℚ) (referenceType referenceId : String)
  | refund (amount : ℚ) (referenceType referenceId reason : String)

inductive CreditDecision where
  | accepted | insufficient
  deriving DecidableEq

/-- What an entry of a ledger is compared by. -/
abbrev EntryView := WalletTxnType × ℚ

namespace CreditCall

def amount : CreditCall → ℚ
  | deduct amount _ _ => amount
  | refund amount _ _ _ => amount

def walletCall : CreditCall → WalletCall
  | deduct amount referenceType referenceId => .deduct amount referenceType referenceId
  | refund amount referenceType referenceId reason => .refund amount referenceType referenceId reason

/-- The call, made to `WalletService` with texts and amounts that its tables take. -/
def service (row : Option Wallet) (call : CreditCall) : CreditDecision × Option Wallet :=
  match call.walletCall.result resolves row with
  | .ok (_, wallet) => (.accepted, some wallet)
  | .error _ => (.insufficient, row)

/-- The call, made to the stored procedures; `none` when an exception is raised. -/
def procedure (db : Edge.Database) (customerId : Id) :
    CreditCall → Option (CreditDecision × Edge.Database)
  | deduct amount _ referenceId =>
    match db.deductWalletCredit customerId amount (some referenceId) (js "OTP SMS Delivery Charge") with
    | none => none
    | some (db, .insufficient _ _) => some (.insufficient, db)
    | some (db, .success _) => some (.accepted, db)
  | refund amount _ referenceId reason =>
    match db.refundWalletCredit customerId amount (some referenceId) (js reason) with
    | none => none
    | some (db, _) => some (.accepted, db)

/-- The two wallets have the same balance, and the same entries as the first one's are read. -/
def Same (read : WalletTransaction → EntryView) (row : Option Wallet) (sql : Option Edge.Wallet) : Prop :=
  ∃ wallet ∈ row, ∃ other ∈ sql, wallet.balance = other.balance ∧
    wallet.transactions.map read = other.transactions.map fun t => (t.transactionType, t.amount)

/-- Each call is decided alike and leaves the two wallets the same. -/
def Agree (read : WalletTransaction → EntryView) (customerId : Id) (row : Option Wallet)
    (db : Edge.Database) : List CreditCall → Prop
  | [] => True
  | call :: calls => ∃ next ∈ call.procedure db customerId,
      (call.service row).1 = next.1 ∧ Same read (call.service row).2 (next.2.wallets customerId) ∧
        Agree read customerId (call.service row).2 next.2 calls

/-- The entry as it is recorded. -/
def recorded (t : WalletTransaction) : EntryView := (t.transactionType, t.amount)

/-- The references of the refunds in a ledger. -/
def refundKeys (transactions : List WalletTransaction) : List (String × Option String) :=
  (transactions.filter (·.transactionType == .refund)).map fun t => (t.referenceType, t.referenceId)

/-- No refund repeats the reference of an earlier one, and every debit that is made is of an amount
that is `alike` on both sides. -/
def Harmless (alike : ℚ → Prop) (balance : ℚ) (refunded : List (String × Option String)) :
    List CreditCall → Prop
  | [] => True
  | deduct amount _ _ :: calls =>
    if balance < amount then Harmless alike balance refunded calls
    else alike amount ∧ Harmless alike (balance - amount) refunded calls
  | refund amount referenceType referenceId _ :: calls =>
    (referenceType, storedReferenceId referenceId) ∉ refunded ∧
      Harmless alike (balance + amount) (refunded ++ [(referenceType, storedReferenceId referenceId)]) calls

instance (read : WalletTransaction → EntryView) (row : Option Wallet) (sql : Option Edge.Wallet) :
    Decidable (Same read row sql) :=
  inferInstanceAs (Decidable (∃ wallet ∈ row, ∃ other ∈ sql, wallet.balance = other.balance ∧
    wallet.transactions.map read = other.transactions.map fun t => (t.transactionType, t.amount)))

instance decidableAgree (read : WalletTransaction → EntryView) (customerId : Id) :
    ∀ (row : Option Wallet) (db : Edge.Database) (calls : List CreditCall),
      Decidable (Agree read customerId row db calls)
  | _, _, [] => isTrue trivial
  | row, db, call :: calls =>
    have : ∀ row db, Decidable (Agree read customerId row db calls) := fun row db =>
      decidableAgree read customerId row db calls
    inferInstanceAs (Decidable (∃ next ∈ call.procedure db customerId, (call.service row).1 = next.1 ∧
      Same read (call.service row).2 (next.2.wallets customerId) ∧
        Agree read customerId (call.service row).2 next.2 calls))

section Steps

variable {read : WalletTransaction → EntryView} {alike : ℚ → Prop} {customerId : Id} {db : Edge.Database}
  {wallet : Wallet} {other : Edge.Wallet} {calls : List CreditCall}
  {amount : ℚ} {referenceType referenceId reason : String}

theorem same_some : Same read (some wallet) (some other) ↔ wallet.balance = other.balance ∧
    wallet.transactions.map read = other.transactions.map fun t => (t.transactionType, t.amount) := by
  simp [Same]

theorem refunded_iff {key : Option String} : Refunded (some wallet) referenceType key ↔
    (referenceType, key) ∈ refundKeys wallet.transactions := by
  simp only [Refunded, getOrCreateWallet, refundKeys, List.mem_map, List.mem_filter, beq_iff_eq, Prod.mk.injEq]
  constructor
  · rintro ⟨t, there, kind, id, refund⟩
    exact ⟨t, ⟨there, refund⟩, kind, id⟩
  · rintro ⟨t, ⟨there, refund⟩, kind, id⟩
    exact ⟨t, there, kind, id, refund⟩

/-! ### One call -/

/-- Two ledgers that were the same get one entry each. -/
theorem same_enter (entry : WalletTransaction) (kind : WalletTxnType) (value : ℚ) (key : Option String)
    (text : JsString) (same : Same read (some wallet) (some other)) :
    Same read (some (wallet.enter entry)) (some ⟨entry.balanceAfter,
        other.transactions ++ [⟨value, kind, entry.balanceAfter, key, text⟩]⟩) ↔
      read entry = (kind, value) := by
  simp only [same_some, Wallet.enter, List.map_append, (same_some.mp same).2, List.append_cancel_left_eq,
    List.map_cons, List.map_nil, List.cons.injEq, and_true, true_and]

theorem procedure_deduct (amount : ℚ) (referenceType referenceId : String)
    (there : db.wallets customerId = some other) :
    (deduct amount referenceType referenceId).procedure db customerId =
      some (if other.balance < amount then (.insufficient, db)
        else (.accepted, db.setWallet customerId ⟨other.balance - amount, other.transactions ++
          [⟨-amount, .debit, other.balance - amount, some referenceId, js "OTP SMS Delivery Charge"⟩]⟩)) := by
  unfold procedure Edge.Database.deductWalletCredit
  rw [there]
  dsimp only
  by_cases poor : other.balance < amount
  · simp only [if_pos poor]
  · simp only [if_neg poor]

theorem procedure_refund (amount : ℚ) (referenceType referenceId reason : String)
    (there : db.wallets customerId = some other) :
    (refund amount referenceType referenceId reason).procedure db customerId =
      some (.accepted, db.setWallet customerId ⟨other.balance + amount, other.transactions ++
        [⟨amount, .refund, other.balance + amount, some referenceId, js reason⟩]⟩) := by
  unfold procedure Edge.Database.refundWalletCredit
  rw [there]

theorem wallets_setWallet : (db.setWallet customerId other).wallets customerId = some other := by
  simp [Edge.Database.setWallet]

theorem agree_cons {call : CreditCall} {row next : Option Wallet} {after : Edge.Database}
    {decision decided : CreditDecision} (served : call.service row = (decision, next))
    (called : call.procedure db customerId = some (decided, after)) :
    Agree read customerId row db (call :: calls) ↔ decision = decided ∧
      Same read next (after.wallets customerId) ∧ Agree read customerId next after calls := by
  simp only [Agree, called, served, Option.mem_some, exists_eq_left']

theorem service_insufficient (poor : wallet.balance < amount) :
    service (some wallet) (.deduct amount referenceType referenceId) = (.insufficient, some wallet) := by
  have served : deductCreditsAtomic resolves (some wallet) amount referenceType referenceId = _ :=
    deductCreditsAtomic_insufficient poor
  simp only [service, walletCall, WalletCall.result, served]

theorem service_deduct (onGrid : OnGrid 10000 wallet.balance) (grid : OnGrid 10000 amount)
    (rich : amount ≤ wallet.balance) :
    service (some wallet) (.deduct amount referenceType referenceId) =
      (.accepted, some (wallet.enter ⟨.debit, amount, wallet.balance, wallet.balance - amount,
        referenceType, storedReferenceId referenceId, "OTP Dispatch Debit"⟩)) := by
  have rounded : round4 (wallet.balance - amount) = wallet.balance - amount := round4_of_onGrid (onGrid.sub grid)
  have served : deductCreditsAtomic resolves (some wallet) amount referenceType referenceId = _ :=
    deductCreditsAtomic_sufficient rich
  simp only [service, walletCall, WalletCall.result, served]
  simp only [getOrCreateWallet, debitEntry, rounded]

theorem service_repeated
    (seen : (referenceType, storedReferenceId referenceId) ∈ refundKeys wallet.transactions) :
    service (some wallet) (.refund amount referenceType referenceId reason) = (.accepted, some wallet) := by
  have served : refundCredits resolves (some wallet) amount referenceType referenceId reason = _ :=
    refundCredits_duplicate (refunded_iff.mpr seen)
  simp only [service, walletCall, WalletCall.result, served]
  rfl

theorem service_refund (onGrid : OnGrid 10000 wallet.balance) (grid : OnGrid 10000 amount)
    (fresh : (referenceType, storedReferenceId referenceId) ∉ refundKeys wallet.transactions) :
    service (some wallet) (.refund amount referenceType referenceId reason) =
      (.accepted, some (wallet.enter ⟨.refund, amount, wallet.balance, wallet.balance + amount,
        referenceType, storedReferenceId referenceId, "Refund: " ++ reason⟩)) := by
  have rounded : round4 (wallet.balance + amount) = wallet.balance + amount := round4_of_onGrid (onGrid.add grid)
  have served : refundCredits resolves (some wallet) amount referenceType referenceId reason = _ :=
    refundCredits_fresh fun seen => fresh (refunded_iff.mp seen)
  simp only [service, walletCall, WalletCall.result, served]
  simp only [getOrCreateWallet, refundEntry, rounded]

/-! ### Sequences of calls -/

theorem refundKeys_debit {entry : WalletTransaction} (debit : entry.transactionType = .debit) :
    refundKeys (wallet.enter entry).transactions = refundKeys wallet.transactions := by
  simp [refundKeys, Wallet.enter, debit]

theorem refundKeys_refund {entry : WalletTransaction} (refund : entry.transactionType = .refund) :
    refundKeys (wallet.enter entry).transactions =
      refundKeys wallet.transactions ++ [(entry.referenceType, entry.referenceId)] := by
  simp [refundKeys, Wallet.enter, refund]

/-- The calls agree as long as no refund is repeated and no debit is read differently. -/
theorem agree_iff_of_read
    (debits : ∀ t, t.transactionType = .debit → (read t = (.debit, -t.amount) ↔ alike t.amount))
    (refunds : ∀ t, t.transactionType = .refund → read t = (.refund, t.amount))
    (there : db.wallets customerId = some other) (same : Same read (some wallet) (some other))
    (onGrid : OnGrid 10000 wallet.balance) (amounts : ∀ call ∈ calls, OnGrid 10000 call.amount) :
    Agree read customerId (some wallet) db calls ↔
      Harmless alike wallet.balance (refundKeys wallet.transactions) calls := by
  induction calls generalizing wallet other db with
  | nil => exact Iff.rfl
  | cons call calls ih =>
    have balance := (same_some.mp same).1
    have later : ∀ call ∈ calls, OnGrid 10000 call.amount := fun other member =>
      amounts other (List.mem_cons_of_mem _ member)
    cases call with
    | deduct amount referenceType referenceId =>
      have grid : OnGrid 10000 amount := amounts _ (List.mem_cons_self ..)
      have called := procedure_deduct amount referenceType referenceId there
      rw [← balance] at called
      -- refused on both sides, where nothing is entered, or entered on both
      by_cases poor : wallet.balance < amount
      · rw [if_pos poor] at called
        rw [agree_cons (service_insufficient poor) called, Harmless, if_pos poor, there,
          ih there same onGrid later]
        exact ⟨fun agree => agree.2.2, fun harmless => ⟨rfl, same, harmless⟩⟩
      · rw [if_neg poor] at called
        let entry : WalletTransaction := ⟨.debit, amount, wallet.balance, wallet.balance - amount,
          referenceType, storedReferenceId referenceId, "OTP Dispatch Debit"⟩
        have entered := same_enter entry .debit (-amount) (some referenceId)
          (js "OTP SMS Delivery Charge") same
        rw [debits entry rfl] at entered
        rw [agree_cons (service_deduct onGrid grid (not_lt.mp poor)) called, Harmless, if_neg poor,
          wallets_setWallet, entered]
        simp only [true_and]
        refine and_congr_right fun read_alike => ?_
        rw [ih wallets_setWallet (entered.mpr read_alike) (onGrid.sub grid) later, refundKeys_debit rfl]
        exact Iff.rfl
    | refund amount referenceType referenceId reason =>
      have grid : OnGrid 10000 amount := amounts _ (List.mem_cons_self ..)
      have called := procedure_refund amount referenceType referenceId reason there
      rw [← balance] at called
      rw [Harmless]
      -- only the service looks for an earlier refund of the reference
      by_cases seen : (referenceType, storedReferenceId referenceId) ∈ refundKeys wallet.transactions
      · rw [agree_cons (service_repeated seen) called, wallets_setWallet]
        constructor
        -- the procedure pays once more, and enters it
        · rintro ⟨-, one_more, -⟩
          have lengths := congrArg List.length ((same_some.mp one_more).2.symm.trans (same_some.mp same).2)
          simp at lengths
        · exact fun harmless => absurd seen harmless.1
      · let entry : WalletTransaction := ⟨.refund, amount, wallet.balance, wallet.balance + amount,
          referenceType, storedReferenceId referenceId, "Refund: " ++ reason⟩
        have entered := (same_enter entry .refund amount (some referenceId) (js reason) same).mpr
          (refunds entry rfl)
        rw [agree_cons (service_refund onGrid grid seen) called, wallets_setWallet,
          ih wallets_setWallet entered (onGrid.add grid) later, and_iff_right entered, refundKeys_refund rfl,
          and_iff_right seen, and_iff_right rfl]
        exact Iff.rfl

/-- Apart from refunds that are repeated the two agree about everything but the sign of a debit. -/
theorem agree_signed_iff_harmless (there : db.wallets customerId = some other)
    (same : Same (fun t => (t.transactionType, WalletCall.signedAmount t)) (some wallet) (some other))
    (onGrid : OnGrid 10000 wallet.balance) (amounts : ∀ call ∈ calls, OnGrid 10000 call.amount) :
    Agree (fun t => (t.transactionType, WalletCall.signedAmount t)) customerId (some wallet) db calls ↔
      Harmless (fun _ => True) wallet.balance (refundKeys wallet.transactions) calls := by
  refine agree_iff_of_read (fun t debit => ?_) (fun t refund => ?_) there same onGrid amounts
  · simp [WalletCall.signedAmount, debit]
  · simp [WalletCall.signedAmount, refund]

/-- The two agree as long as no refund is repeated and no debit of a positive amount is made. -/
theorem agree_iff_harmless (there : db.wallets customerId = some other)
    (same : Same recorded (some wallet) (some other)) (onGrid : OnGrid 10000 wallet.balance)
    (amounts : ∀ call ∈ calls, OnGrid 10000 call.amount) :
    Agree recorded customerId (some wallet) db calls ↔
      Harmless (· = 0) wallet.balance (refundKeys wallet.transactions) calls := by
  refine agree_iff_of_read (fun t debit => ?_) (fun t refund => ?_) there same onGrid amounts
  · simp [recorded, debit, self_eq_neg]
  · simp [recorded, refund]

/-- A wallet of 100, in both databases. -/
def sampleRow : Wallet := ⟨100, "INR", .active, []⟩

def sampleProcedures : Edge.Database :=
  { apiKeys := [], otpRequests := [], messages := [], idempotencyKeys := []
    wallets := Function.update (fun _ => none) 1 (some ⟨100, []⟩) }

/-- A debit of nothing, one that is refused, and refunds of two requests. -/
theorem agree_of_two_refunds :
    Agree recorded 1 (some sampleRow) sampleProcedures
      [.deduct 0 "otp_request" "3f2b8c1e-0d4a-4b6f-9a77-5c1de2f3a4b5",
        .deduct 101 "otp_request" "3f2b8c1e-0d4a-4b6f-9a77-5c1de2f3a4b5",
        .refund 1 "otp_request_failure" "3f2b8c1e-0d4a-4b6f-9a77-5c1de2f3a4b5" "Delivery failed",
        .refund 1 "otp_request_failure" "7a9c0d12-3e4f-4a5b-8c6d-7e8f90a1b2c3" "Delivery failed"] ↔
      Harmless (· = 0) 100 []
        [.deduct 0 "otp_request" "3f2b8c1e-0d4a-4b6f-9a77-5c1de2f3a4b5",
          .deduct 101 "otp_request" "3f2b8c1e-0d4a-4b6f-9a77-5c1de2f3a4b5",
          .refund 1 "otp_request_failure" "3f2b8c1e-0d4a-4b6f-9a77-5c1de2f3a4b5" "Delivery failed",
          .refund 1 "otp_request_failure" "7a9c0d12-3e4f-4a5b-8c6d-7e8f90a1b2c3" "Delivery failed"] := by
  have there : sampleProcedures.wallets 1 = some (⟨100, []⟩ : Edge.Wallet) := rfl
  have same : Same recorded (some sampleRow) (some (⟨100, []⟩ : Edge.Wallet)) := by decide
  have none_on_grid : OnGrid 10000 0 := onGrid_intCast (by decide) 0
  have one_on_grid : OnGrid 10000 1 := onGrid_intCast (by decide) 1
  have more_on_grid : OnGrid 10000 101 := onGrid_intCast (by decide) 101
  exact agree_iff_harmless there same (onGrid_intCast (by decide) 100)
    (by simp [amount, none_on_grid, one_on_grid, more_on_grid])

/-- A debit of one credit and two refunds of the same request. -/
theorem disagree_about_debit_and_refunds :
    ¬∀ (customerId : Id) (db : Edge.Database) (wallet : Wallet) (other : Edge.Wallet)
      (calls : List CreditCall), db.wallets customerId = some other →
      Same recorded (some wallet) (some other) → OnGrid 10000 wallet.balance →
      (∀ call ∈ calls, OnGrid 10000 call.amount ∧ 0 ≤ call.amount) →
      Agree recorded customerId (some wallet) db calls := by
  intro agree
  have one_on_grid : OnGrid 10000 1 := onGrid_intCast (by decide) 1
  have violated := agree 1 sampleProcedures sampleRow ⟨100, []⟩
    [.deduct 1 "otp_request" "3f2b8c1e-0d4a-4b6f-9a77-5c1de2f3a4b5",
      .refund 1 "otp_request_failure" "3f2b8c1e-0d4a-4b6f-9a77-5c1de2f3a4b5" "Delivery failed",
      .refund 1 "otp_request_failure" "3f2b8c1e-0d4a-4b6f-9a77-5c1de2f3a4b5" "Delivery failed"]
    rfl (by decide) (onGrid_intCast (by decide) 100) (by simp [amount, one_on_grid])
  revert violated
  decide +kernel

end Steps

end CreditCall

end SelfOtp
