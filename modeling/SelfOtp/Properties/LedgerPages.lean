import SelfOtp.Lib.Pages
import SelfOtp.Properties.SystemLedger

/-! A customer's ledger read with `listTransactions`, page by page, while the system goes on. -/
namespace SelfOtp

open Pool Transition WalletService

/-- The wallet that `getOrCreateWallet` finds or makes. -/
def World.wallet (w : World) (customerId : Id) : Wallet := getOrCreateWallet (w.db.wallets customerId)

/-! ### The ledger only grows -/

section Growth

variable {env : Env} {p q : System} {w w' : World} {customerId : Id}

theorem WalletCall.result_grows {row : Option Wallet} {call : WalletCall} {balance : ℚ} {wallet : Wallet}
    (returned : call.result resolves row = .ok (balance, wallet)) :
    ∃ new, wallet.transactions = (getOrCreateWallet row).transactions ++ new := by
  rcases WalletCall.result_ok returned with ⟨-, rfl⟩ | ⟨-, rfl⟩
  · exact ⟨[_], rfl⟩
  · exact ⟨[], (List.append_nil _).symm⟩

theorem WalletsStep.ledger_grows {charge : Option (Id × WalletCall)} (step : WalletsStep w w' charge) :
    ∃ new, (w'.wallet customerId).transactions = (w.wallet customerId).transactions ++ new := by
  unfold World.wallet
  cases step with
  | same wallets => exact ⟨[], by rw [wallets, List.append_nil]⟩
  | opened owner wallets =>
    refine ⟨[], ?_⟩
    rw [wallets, Function.update_apply, List.append_nil]
    split
    next own => rw [own]; rfl
    · rfl
  | posted owner call charged balance wallet returned wallets =>
    rw [wallets, Function.update_apply]
    split
    next own =>
      rw [own]
      exact WalletCall.result_grows returned
    · exact ⟨[], (List.append_nil _).symm⟩

theorem ledger_step {l : SystemLabel} (taken : Pool.step (systemProgram env) p l = some q) :
    ∃ new, (q.shared.wallet customerId).transactions = (p.shared.wallet customerId).transactions ++ new := by
  cases l with
  | resume i a =>
    obtain ⟨t, w', t', found, resumed, rfl⟩ := step_resume taken
    exact (Thread.resume_wallets resumed).ledger_grows
  | external event =>
    obtain ⟨w', born, acted, rfl⟩ := step_external taken
    have same : External env p.shared w' born := Thread.external_cases acted
    exact ⟨[], by simp only [World.wallet, same.db, List.append_nil]⟩

theorem ledger_run {es : List SystemLabel} (ran : run (Pool.step (systemProgram env)) p es = some q) :
    (p.shared.wallet customerId).transactions.reverse.Sublist
      (q.shared.wallet customerId).transactions.reverse := by
  refine List.reverse_sublist.mpr ?_
  refine run_invariant (fun s => (p.shared.wallet customerId).transactions.Sublist
    (s.shared.wallet customerId).transactions) (fun s l t held taken => ?_) (List.Sublist.refl _) ran
  obtain ⟨new, grown⟩ : ∃ new, (t.shared.wallet customerId).transactions =
    (s.shared.wallet customerId).transactions ++ new := ledger_step taken
  rw [grown]
  exact held.trans (List.sublist_append_left _ new)

end Growth

/-! ### Reading it -/

/-- Somebody asks for pages from a number on, up to the first one that is not full: the rows in the order in
which they are shown. Before each further page the system may take any steps, and the rows may be counted in
another state than they are found in. -/
inductive Browsing (env : Env) (customerId : Id) (pageSize : ℕ) :
    System → ℕ → List WalletTransaction → System → Prop
  | last {p : System} {page : ℕ} {counted : Wallet} {answer : TransactionList}
      (listed : listTransactions (p.shared.wallet customerId) counted page pageSize = some answer)
      (short : answer.transactions.length < pageSize) :
      Browsing env customerId pageSize p page answer.transactions p
  | next {p q r : System} {page : ℕ} {counted : Wallet} {answer : TransactionList} {es : List SystemLabel}
      {rows : List WalletTransaction}
      (listed : listTransactions (p.shared.wallet customerId) counted page pageSize = some answer)
      (ran : run (Pool.step (systemProgram env)) p es = some q)
      (rest : Browsing env customerId pageSize q (page + 1) rows r) :
      Browsing env customerId pageSize p page (answer.transactions ++ rows) r

section Browsing

variable {env : Env} {p q : System} {customerId : Id} {pageSize page : ℕ} {rows : List WalletTransaction}

theorem listTransactions_page {found counted : Wallet} {answer : TransactionList}
    (listed : listTransactions found counted page pageSize = some answer) :
    answer.transactions = Pages.page page pageSize found.transactions.reverse := by
  unfold listTransactions at listed
  split at listed <;> cases listed
  rfl

/-- The newest entries come first. -/
def newestFirst (customerId : Id) (p : System) : List WalletTransaction :=
  (p.shared.wallet customerId).transactions.reverse

def Later (env : Env) (p q : System) : Prop := ∃ es, run (Pool.step (systemProgram env)) p es = some q

theorem Browsing.reads (browsing : Browsing env customerId pageSize p page rows q) :
    Pages.Reads (newestFirst customerId) (Later env) pageSize p page rows q := by
  induction browsing with
  | last listed short =>
    rw [listTransactions_page listed] at short ⊢
    exact .last short
  | next listed ran rest ih =>
    rw [listTransactions_page listed]
    exact .next ⟨_, ran⟩ ih

/-- Who reads a ledger from the first page on, whatever is entered meanwhile, is shown all the entries that
were there at first, in their order, and just these if there are no others in the end. -/
theorem pages_cover_ledger (browsing : Browsing env customerId pageSize p 1 rows q) :
    (newestFirst customerId p).Sublist rows ∧
      ((newestFirst customerId q).length = (newestFirst customerId p).length →
        rows = newestFirst customerId p) := by
  have grows : ∀ s t, Later env s t → (newestFirst customerId s).Sublist (newestFirst customerId t) :=
    fun s t ⟨_, ran⟩ => ledger_run ran
  have covers : ((newestFirst customerId p).drop (0 * pageSize)).Sublist rows :=
    Pages.Reads.covers grows browsing.reads
  have exact_rows : (newestFirst customerId q).length = (newestFirst customerId p).length →
      rows = (newestFirst customerId p).drop (0 * pageSize) :=
    Pages.Reads.exact grows browsing.reads
  simp only [Nat.zero_mul, List.drop_zero] at covers exact_rows
  exact ⟨covers, exact_rows⟩

/-- The `i`-th request of a system with one user: a top-up. -/
def topUp (i : ℕ) (amount : ℚ) : List SystemLabel :=
  .external (.dashboard 1 (.topup amount "pay")) :: resolve i 4

/-- A customer who has registered and paid twice. -/
def paidTwice : System :=
  (run (Pool.step (systemProgram OtpPool.sampleEnv)) ⟨World.empty 0, []⟩
    (.external (.register "it@acme.test" "Acme") :: resolve 0 2 ++ topUp 1 50 ++ topUp 2 20)).get
    (by decide +kernel)

def paidAgain : System :=
  (run (Pool.step (systemProgram OtpPool.sampleEnv)) paidTwice (topUp 3 10)).get (by decide +kernel)

/-- With pages of one entry, and a payment after the first page, the newest of the two is shown twice. -/
theorem pages_cover_ledger_paidTwice :
    ∃ rows, Browsing OtpPool.sampleEnv 0 1 paidTwice 1 rows paidAgain ∧
      rows.map (·.amount) = [20, 20, 50] ∧ (newestFirst 0 paidTwice).Sublist rows := by
  let counted := paidTwice.shared.wallet 0
  have listed (found : Wallet) (page : ℕ) : listTransactions found counted (page + 1) 1 =
      some ((listTransactions found counted (page + 1) 1).get rfl) := (Option.some_get rfl).symm
  have paid : run (Pool.step (systemProgram OtpPool.sampleEnv)) paidTwice (topUp 3 10) = some paidAgain :=
    (Option.some_get _).symm
  have still : run (Pool.step (systemProgram OtpPool.sampleEnv)) paidAgain [] = some paidAgain := rfl
  have browsing : Browsing OtpPool.sampleEnv 0 1 paidTwice 1 _ paidAgain :=
    .next (listed _ 0) paid (.next (listed _ 1) still (.next (listed _ 2) still
      (.last (listed _ 3) (by decide +kernel))))
  exact ⟨_, browsing, by decide +kernel, (pages_cover_ledger browsing).1⟩

end Browsing

end SelfOtp
