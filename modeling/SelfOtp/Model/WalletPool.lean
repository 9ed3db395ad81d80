import SelfOtp.Lib.Pool
import SelfOtp.Model.Wallet

/-! Concurrent transactions of `WalletService` on an existing wallet, statement by statement:
what a transaction writes is seen by the others when it commits, and `SELECT ... FOR UPDATE` waits
for the row and then reads it. -/
namespace SelfOtp

inductive WalletPc where
  | findWallet
  | lock
  | findRefund (balance : ℚ)
  | update (balanceBefore balanceAfter : ℚ)
  | insert (balanceBefore balanceAfter : ℚ)
  | commit (balanceBefore balanceAfter : ℚ)
  /-- The refund has been granted before. -/
  | commitUnchanged (balance : ℚ)
  /-- The transaction has thrown. -/
  | rollback (error : AppError)
  | returned (balance : ℚ)
  | threw (error : AppError)
  /-- A statement failed, and the transaction left no trace. -/
  | aborted
  deriving DecidableEq

structure WalletTxn where
  call : WalletCall
  pc : WalletPc

/-- The committed row with its ledger, and its lock. -/
structure WalletRow where
  wallet : Wallet
  locked : Bool

namespace WalletRow

def lock (s : WalletRow) : WalletRow := { s with locked := true }

def unlock (s : WalletRow) : WalletRow := { s with locked := false }

/-- The balance that was written and the entry that was inserted become visible. -/
def post (s : WalletRow) (entry : WalletTransaction) : WalletRow :=
  { s with wallet := s.wallet.enter (schema.stored entry) }

end WalletRow

namespace WalletTxn

open WalletService

def goto (t : WalletTxn) (pc : WalletPc) : WalletTxn := { t with pc := pc }

/-- The `data` of `wallet_transactions.create`. -/
def entry (balanceBefore balanceAfter : ℚ) : WalletCall → WalletTransaction
  | .deduct cost referenceType referenceId =>
    ⟨.debit, cost, balanceBefore, balanceAfter, referenceType, storedReferenceId referenceId,
      "OTP Dispatch Debit"⟩
  | .refund cost referenceType referenceId reason =>
    ⟨.refund, cost, balanceBefore, balanceAfter, referenceType, storedReferenceId referenceId,
      "Refund: " ++ reason⟩
  | .topup amount referenceId =>
    ⟨.credit, amount, balanceBefore, balanceAfter, "payment", storedReferenceId referenceId,
      "Wallet Topup Credit"⟩

/-- The locked row has been read. -/
def locked (balance : ℚ) : WalletCall → WalletPc
  | .deduct cost _ _ =>
    if balance < cost then .rollback (insufficientFunds balance cost)
    else .update balance (round4 (balance - cost))
  | .refund .. => .findRefund balance
  | .topup amount _ => .update balance (round4 (balance + amount))

/-- The transaction holds the row. -/
def holds (t : WalletTxn) : Bool :=
  match t.pc with
  | .findRefund _ | .update .. | .insert .. | .commit .. | .commitUnchanged _ | .rollback _ => true
  | .findWallet | .lock | .returned _ | .threw _ | .aborted => false

def step (s : WalletRow) (t : WalletTxn) (ok : Bool) : Option (WalletRow × WalletTxn) :=
  match t.pc with
  | .findWallet => some (s, t.goto (if ok then .lock else .aborted))
  | .lock =>
    if ok then
      if s.locked then none
      else some (s.lock, t.goto (locked s.wallet.balance t.call))
    else some (s, t.goto .aborted)
  | .findRefund balance =>
    if ok then
      match t.call with
      | .refund cost referenceType referenceId _ =>
        match existingRefund s.wallet referenceType (storedReferenceId referenceId) with
        | some _ => some (s, t.goto (.commitUnchanged balance))
        | none => some (s, t.goto (.update balance (round4 (balance + cost))))
      | .deduct .. => none
      | .topup .. => none
    else some (s.unlock, t.goto .aborted)
  | .update balanceBefore balanceAfter =>
    if ok then some (s, t.goto (.insert balanceBefore balanceAfter))
    else some (s.unlock, t.goto .aborted)
  -- what the tables refuse fails here at the latest
  | .insert balanceBefore balanceAfter =>
    if ok && schema.takes (entry balanceBefore balanceAfter t.call) then
      some (s, t.goto (.commit balanceBefore balanceAfter))
    else some (s.unlock, t.goto .aborted)
  | .commit balanceBefore balanceAfter =>
    if ok then
      some ((s.post (entry balanceBefore balanceAfter t.call)).unlock, t.goto (.returned balanceAfter))
    else some (s.unlock, t.goto .aborted)
  | .commitUnchanged balance =>
    if ok then some (s.unlock, t.goto (.returned balance))
    else some (s.unlock, t.goto .aborted)
  | .rollback error => some (s.unlock, t.goto (.threw error))
  | .returned _ => none
  | .threw _ => none
  | .aborted => none

end WalletTxn

abbrev WalletPool := Pool WalletRow WalletTxn

abbrev WalletLabel := Pool.Label Bool WalletCall

/-- Calls start at any time. -/
def walletProgram : Pool.Program WalletRow WalletTxn Bool WalletCall :=
  ⟨WalletTxn.step, fun s call => some (s, [⟨call, .findWallet⟩])⟩

end SelfOtp
