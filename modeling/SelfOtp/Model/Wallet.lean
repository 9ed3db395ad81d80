import SelfOtp.Model.Basic

/-! `WalletService` (`wallet.service.ts`). Amounts are exact; every operation is one
transaction under the row lock of the wallet, and one that throws rolls back, the
creation of the wallet included. -/
namespace SelfOtp

inductive WalletTxnType where
  | credit | debit | refund | adjustment
  deriving DecidableEq

inductive WalletStatus where
  | active | frozen | closed
  deriving DecidableEq

structure WalletTransaction where
  transactionType : WalletTxnType
  amount : ℚ
  balanceBefore : ℚ
  balanceAfter : ℚ
  referenceType : String
  referenceId : Option String
  description : String
  deriving DecidableEq

/-- A `wallets` row with its `wallet_transactions`, oldest first. -/
structure Wallet where
  balance : ℚ
  currency : String
  status : WalletStatus
  transactions : List WalletTransaction
  deriving DecidableEq

/-- The balance that the entry leaves is written, and the entry appended. -/
def Wallet.enter (wallet : Wallet) (entry : WalletTransaction) : Wallet :=
  { wallet with balance := entry.balanceAfter, transactions := wallet.transactions ++ [entry] }

/-- `Math.round(x * 10000) / 10000`. -/
def round4 (x : ℚ) : ℚ := Rounding.roundTo 10000 x

def toValidUuidOrNull (val : String) : Option String :=
  if val = "" then none else if uuidRegex val then some val else none

/-- The value of the `reference_id` column for a reference a caller passes. -/
def storedReferenceId (referenceId : String) : Option String :=
  (toValidUuidOrNull referenceId).map uuidColumn

/-- What a transaction throws; of a failed statement only that it failed is kept. -/
inductive WalletError where
  | app (error : AppError)
  | database
  deriving DecidableEq

/-- The message of what was thrown; `text` is the database's. -/
def WalletError.message (text : String) : WalletError → String
  | app error => error.message
  | database => text

/-- A text that PostgreSQL stores. -/
def isText (s : String) : Bool := !s.toList.contains '\x00'

/-- Whether a `VARCHAR(n)` column takes a text: after `n` characters come only blanks. -/
def fitsVarChar (n : ℕ) (s : String) : Bool := (s.toList.drop n).all (· == ' ')

/-- What the column keeps of the text: the blanks are cut off. -/
def varChar (n : ℕ) (s : String) : String := String.ofList (s.toList.take n)

theorem varChar_varChar (n : ℕ) (s : String) : varChar n (varChar n s) = varChar n s := by
  simp [varChar, List.take_take]

/-- How the tables take an entry and the balance that it leaves. -/
structure Tables where
  takes : WalletTransaction → Bool
  /-- What the column `reference_type` keeps. -/
  referenceType : String → String
  kept : ∀ s, referenceType (referenceType s) = referenceType s

/-- The row of `wallet_transactions` for the entry. -/
def Tables.stored (tables : Tables) (entry : WalletTransaction) : WalletTransaction :=
  { entry with referenceType := tables.referenceType entry.referenceType }

/-- `CHECK (balance >= 0)` of `wallets`, and `VARCHAR(50)` of `reference_type`. -/
def schema : Tables where
  takes t := decide (0 ≤ t.balanceAfter) && fitsVarChar 50 t.referenceType && isText t.referenceType &&
    isText t.description
  referenceType := varChar 50
  kept := varChar_varChar 50

/-- For a caller whom the answer of the database tells whether the statements were taken, and whose
reference types are short. -/
def resolves : Tables := ⟨fun _ => true, id, fun _ => rfl⟩

namespace WalletService

def getOrCreateWallet : Option Wallet → Wallet
  | some wallet => wallet
  | none => ⟨100, "INR", .active, []⟩

def insufficientFunds (balanceBefore cost : ℚ) : AppError :=
  ⟨402, "Wallet balance is insufficient.", "INSUFFICIENT_FUNDS",
    [("current_balance", balanceBefore), ("required_credits", cost)]⟩

/-- `wallets.update` to the new balance followed by `wallet_transactions.create`. -/
def post (tables : Tables) (wallet : Wallet) (entry : WalletTransaction) :
    Except WalletError (ℚ × Wallet) :=
  if tables.takes entry then .ok (entry.balanceAfter, wallet.enter (tables.stored entry))
  else .error .database

def deductCreditsAtomic (tables : Tables) (row : Option Wallet) (cost : ℚ)
    (referenceType referenceId : String) : Except WalletError (ℚ × Wallet) :=
  let wallet := getOrCreateWallet row
  if wallet.balance < cost then
    .error (.app (insufficientFunds wallet.balance cost))
  else
    let balanceAfter := round4 (wallet.balance - cost)
    post tables wallet ⟨.debit, cost, wallet.balance, balanceAfter, referenceType,
      storedReferenceId referenceId, "OTP Dispatch Debit"⟩

/-- The `findFirst` that decides whether a refund was already granted. -/
def existingRefund (wallet : Wallet) (referenceType : String) (referenceId : Option String) :
    Option WalletTransaction :=
  wallet.transactions.find? fun t =>
    t.referenceType == referenceType && t.referenceId == referenceId &&
      t.transactionType == .refund

def refundCredits (tables : Tables) (row : Option Wallet) (cost : ℚ)
    (referenceType referenceId reason : String) : Except WalletError (ℚ × Wallet) :=
  let wallet := getOrCreateWallet row
  let validRefId := storedReferenceId referenceId
  -- a type that no column takes is in no entry, and the insert refuses it
  match existingRefund wallet referenceType validRefId with
  | some _ => .ok (wallet.balance, wallet)
  | none =>
    let balanceAfter := round4 (wallet.balance + cost)
    post tables wallet ⟨.refund, cost, wallet.balance, balanceAfter, referenceType, validRefId,
      "Refund: " ++ reason⟩

def topupWallet (tables : Tables) (row : Option Wallet) (amount : ℚ) (referenceId : String) :
    Except WalletError (ℚ × Wallet) :=
  let wallet := getOrCreateWallet row
  let balanceAfter := round4 (wallet.balance + amount)
  post tables wallet ⟨.credit, amount, wallet.balance, balanceAfter, "payment",
    storedReferenceId referenceId, "Wallet Topup Credit"⟩

end WalletService

/-- The answer of `listTransactions`. -/
structure TransactionList where
  transactions : List WalletTransaction
  total : ℕ
  page : ℕ
  pageSize : ℕ
  /-- No number for pages of no entries. -/
  totalPages : Option ℕ
  deriving DecidableEq

/-- `findMany` and `count` run side by side, so each sees the wallet in a state of its own. -/
def WalletService.listTransactions (found counted : Wallet) (page pageSize : ℕ) : Option TransactionList :=
  -- a negative `skip` is refused
  if page = 0 ∧ 0 < pageSize then none
  else
    let skip := (page - 1) * pageSize
    let total := counted.transactions.length
    some {
      transactions := (found.transactions.reverse.drop skip).take pageSize
      total := total
      page := page
      pageSize := pageSize
      totalPages := if pageSize = 0 then none else some ⌈(total : ℚ) / pageSize⌉₊ }

/-- `topupSchema` of `wallet.routes.ts`. -/
def topupSchema (amount : ℚ) (referenceId : String) : Bool := decide (0 < amount) && referenceId ≠ ""

/-! ### Call histories -/

inductive WalletCall where
  | deduct (cost : ℚ) (referenceType referenceId : String)
  | refund (cost : ℚ) (referenceType referenceId reason : String)
  | topup (amount : ℚ) (referenceId : String)

namespace WalletCall

open WalletService

def result (tables : Tables) (row : Option Wallet) : WalletCall → Except WalletError (ℚ × Wallet)
  | deduct cost referenceType referenceId => deductCreditsAtomic tables row cost referenceType referenceId
  | refund cost referenceType referenceId reason =>
    refundCredits tables row cost referenceType referenceId reason
  | topup amount referenceId => topupWallet tables row amount referenceId

/-- Commit, or roll back when the transaction threw. -/
def apply (tables : Tables) (row : Option Wallet) (call : WalletCall) : Option Wallet :=
  match call.result tables row with
  | .ok (_, wallet) => some wallet
  | .error _ => row

/-- The wallet row after a finite sequence of calls. -/
def history (tables : Tables) (row : Option Wallet) (calls : List WalletCall) : Option Wallet :=
  calls.foldl (apply tables) row

end WalletCall

end SelfOtp
