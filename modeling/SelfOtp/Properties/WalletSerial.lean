import SelfOtp.Lib.Serial
import SelfOtp.Model.WalletPool
import SelfOtp.Properties.Wallet

/-! Concurrent wallet transactions are serializable, in the order in which they lock the row. -/
namespace SelfOtp.WalletPool

open WalletService WalletTxn Serial Pool Transition

/-- A call that runs alone: its result, and the wallet after it. -/
def exec (wallet : Wallet) (call : WalletCall) : Except WalletError ℚ × Wallet :=
  match call.result schema (some wallet) with
  | .ok (balance, wallet') => (.ok balance, wallet')
  | .error e => (.error e, wallet)

/-- The call and the outcome of a transaction that has committed or has thrown. -/
def finished (t : WalletTxn) : Option (WalletCall × Except WalletError ℚ) :=
  match t.pc with
  | .returned balance => some (t.call, .ok balance)
  | .threw e => some (t.call, .error (.app e))
  | .findWallet | .lock | .findRefund _ | .update .. | .insert .. | .commit .. | .commitUnchanged _
  | .rollback _ | .aborted => none

def entered (t : WalletTxn) : Bool :=
  match t.pc with
  | .findWallet | .lock => false
  | .findRefund _ | .update .. | .insert .. | .commit .. | .commitUnchanged _ | .rollback _
  | .returned _ | .threw _ | .aborted => true

def reading : Reading Wallet WalletCall (Except WalletError ℚ) WalletRow WalletTxn :=
  ⟨WalletRow.wallet, WalletRow.locked, WalletTxn.holds, entered, finished⟩

variable {wallet : Wallet} {s s' : WalletRow} {t t' : WalletTxn} {ok : Bool}

/-- What the holder of the row is about to do is what its call does to the committed wallet. -/
def Sound (wallet : Wallet) (t : WalletTxn) : Prop :=
  match t.pc with
  | .findRefund balance => balance = wallet.balance
  | .update before after | .insert before after =>
    schema.takes (entry before after t.call) = true →
      exec wallet t.call = (.ok after, wallet.enter (schema.stored (entry before after t.call)))
  | .commit before after =>
    exec wallet t.call = (.ok after, wallet.enter (schema.stored (entry before after t.call)))
  | .commitUnchanged balance => exec wallet t.call = (.ok balance, wallet)
  | .rollback e => exec wallet t.call = (.error (.app e), wallet)
  | .findWallet | .lock | .returned _ | .threw _ | .aborted => True

theorem sound_of_not_holds (wallet : Wallet) (t : WalletTxn) (idle : t.holds = false) :
    Sound wallet t := by
  obtain ⟨call, pc⟩ := t
  cases pc with
  | findWallet | lock | returned | threw | aborted => trivial
  | findRefund | update | insert | commit | commitUnchanged | rollback => cases idle

/-- A call that comes to its entry makes it, if the tables take it. -/
theorem exec_taken (call : WalletCall) (reaches : call.Reaches wallet)
    (taken : schema.takes (call.entry wallet) = true) :
    exec wallet call =
      (.ok (call.entry wallet).balanceAfter, wallet.enter (schema.stored (call.entry wallet))) := by
  have effective : call.TakesEffect schema (getOrCreateWallet (some wallet)) := ⟨reaches, taken⟩
  have returned := WalletCall.result_effective effective
  simp only [exec, returned]
  rfl

/-- The row that has been read is the committed one. -/
theorem sound_locked (wallet : Wallet) (call : WalletCall) :
    Sound wallet ⟨call, locked wallet.balance call⟩ := by
  cases call with
  | deduct cost referenceType referenceId =>
    show Sound wallet ⟨_, if wallet.balance < cost then _ else _⟩
    by_cases poor : wallet.balance < cost
    · have threw := @deductCreditsAtomic_insufficient schema (some wallet) cost referenceType referenceId
        poor
      rw [if_pos poor]
      simp only [Sound, exec, WalletCall.result, threw]
      rfl
    · rw [if_neg poor]
      exact exec_taken (.deduct cost referenceType referenceId) (not_lt.mp poor)
  | refund => rfl
  | topup amount referenceId => exact exec_taken (.topup amount referenceId) trivial

theorem sound_findRefund (cost : ℚ) (referenceType referenceId reason : String) {balance : ℚ}
    (read : balance = wallet.balance) :
    Sound wallet ⟨.refund cost referenceType referenceId reason,
      match existingRefund wallet referenceType (storedReferenceId referenceId) with
      | some _ => .commitUnchanged balance
      | none => .update balance (round4 (balance + cost))⟩ := by
  subst read
  cases found : existingRefund wallet referenceType (storedReferenceId referenceId) with
  | some earlier => simp [Sound, exec, WalletCall.result, refundCredits, getOrCreateWallet, found]
  | none =>
    have fresh : ¬Refunded (some wallet) referenceType (storedReferenceId referenceId) :=
      existingRefund_eq_none.mp found
    exact exec_taken (.refund cost referenceType referenceId reason) fresh

theorem move_abort (holds : t.holds = true) (unfinished : finished t = none) :
    reading.Move exec s t s.unlock (t.goto .aborted) ∧ Sound s.unlock.wallet (t.goto .aborted) :=
  ⟨.abort rfl rfl ⟨holds, rfl⟩ (fun _ => rfl) unfinished rfl, trivial⟩

/-- Every statement is a move of the locking discipline, and the holder keeps its word. -/
theorem step_move (sound : Sound s.wallet t) (stepped : t.step s ok = some (s', t')) :
    reading.Move exec s t s' t' ∧ Sound s'.wallet t' := by
  obtain ⟨call, pc⟩ := t
  cases pc with
  | findWallet =>
    cases stepped
    cases ok with
    | true => exact ⟨.stay rfl rfl rfl (fun past => past) rfl rfl, trivial⟩
    | false => exact ⟨.stay rfl rfl rfl (fun _ => rfl) rfl rfl, trivial⟩
  | lock =>
    simp only [WalletTxn.step] at stepped
    split at stepped
    · split at stepped
      · cases stepped
      next free =>
        cases stepped
        have now : Sound s.wallet ⟨call, locked s.wallet.balance call⟩ := sound_locked s.wallet call
        refine ⟨.acquire rfl (Bool.eq_false_iff.mpr free) rfl ⟨rfl, ?_⟩ ⟨rfl, ?_⟩ rfl ?_, now⟩
        all_goals
          cases call with
          | deduct cost =>
            unfold goto locked
            by_cases poor : s.wallet.balance < cost <;> simp [poor, reading, holds, entered, finished]
          | refund | topup => rfl
    · cases stepped
      exact ⟨.stay rfl rfl rfl (fun _ => rfl) rfl rfl, trivial⟩
  | findRefund balance =>
    simp only [WalletTxn.step] at stepped
    split at stepped
    · split at stepped
      next cost referenceType referenceId reason =>
        have next_sound := sound_findRefund cost referenceType referenceId reason sound
        split at stepped
        next found =>
          cases stepped
          rw [found] at next_sound
          exact ⟨.stay rfl rfl rfl (fun past => past) rfl rfl, next_sound⟩
        next absent =>
          cases stepped
          rw [absent] at next_sound
          exact ⟨.stay rfl rfl rfl (fun past => past) rfl rfl, next_sound⟩
      · cases stepped
      · cases stepped
    · cases stepped
      exact move_abort rfl rfl
  | update before after =>
    simp only [WalletTxn.step] at stepped
    split at stepped
    · cases stepped
      exact ⟨.stay rfl rfl rfl (fun past => past) rfl rfl, sound⟩
    · cases stepped
      exact move_abort rfl rfl
  | insert before after =>
    simp only [WalletTxn.step] at stepped
    split at stepped
    next taken =>
      rw [Bool.and_eq_true] at taken
      cases stepped
      exact ⟨.stay rfl rfl rfl (fun past => past) rfl rfl, sound taken.2⟩
    · cases stepped
      exact move_abort rfl rfl
  | commit before after =>
    simp only [WalletTxn.step] at stepped
    -- no one has changed the row since it was locked
    have effect : exec s.wallet call =
        (.ok after, s.wallet.enter (schema.stored (entry before after call))) := sound
    split at stepped
    · cases stepped
      refine ⟨.finish call rfl ⟨rfl, rfl⟩ (fun past => past) rfl ?_ ?_, trivial⟩
      · show some (call, Except.ok after) = some (call, (exec s.wallet call).1)
        rw [effect]
      · show s.wallet.enter (schema.stored (entry before after call)) = (exec s.wallet call).2
        rw [effect]
    · cases stepped
      exact move_abort rfl rfl
  | commitUnchanged balance =>
    simp only [WalletTxn.step] at stepped
    have effect : exec s.wallet call = (.ok balance, s.wallet) := sound
    split at stepped
    · cases stepped
      refine ⟨.finish call rfl ⟨rfl, rfl⟩ (fun past => past) rfl ?_ ?_, trivial⟩
      · show some (call, Except.ok balance) = some (call, (exec s.wallet call).1)
        rw [effect]
      · show s.wallet = (exec s.wallet call).2
        rw [effect]
    · cases stepped
      exact move_abort rfl rfl
  | rollback e =>
    have effect : exec s.wallet call = (.error (.app e), s.wallet) := sound
    cases stepped
    refine ⟨.finish call rfl ⟨rfl, rfl⟩ (fun past => past) rfl ?_ ?_, trivial⟩
    · show some (call, Except.error (.app e)) = some (call, (exec s.wallet call).1)
      rw [effect]
    · show s.wallet = (exec s.wallet call).2
      rw [effect]
  | returned | threw | aborted => cases stepped

/-! ### Refunds -/

/-- The refund entries of a type and stored reference. -/
def refunds (wallet : Wallet) (referenceType : String) (referenceId : Option String) : ℕ :=
  wallet.transactions.countP fun t =>
    t.referenceType == referenceType && t.referenceId == referenceId && t.transactionType == .refund

theorem refunds_enter {entry : WalletTransaction} {kind : String} {key : Option String} :
    refunds (wallet.enter entry) kind key = refunds wallet kind key +
      if entry.referenceType = kind ∧ entry.referenceId = key ∧ entry.transactionType = .refund
        then 1 else 0 := by
  simp only [refunds, Wallet.enter, List.countP_append, List.countP_singleton, Bool.and_eq_true, beq_iff_eq,
    and_assoc]

theorem refunds_eq_zero {kind : String} {key : Option String}
    (fresh : ¬Refunded (some wallet) kind key) : refunds wallet kind key = 0 := by
  rw [refunds, List.countP_eq_zero]
  intro t member seen
  simp only [Bool.and_eq_true, beq_iff_eq, and_assoc] at seen
  exact fresh ⟨t, member, seen⟩

theorem exec_without {call : WalletCall} (without : ¬call.TakesEffect schema wallet) :
    (exec wallet call).2 = wallet := by
  have kept : getOrCreateWallet (call.apply schema (some wallet)) = wallet :=
    WalletCall.apply_ineffective without
  unfold WalletCall.apply at kept
  unfold exec
  cases outcome : call.result schema (some wallet) with
  | ok returned =>
    rw [outcome] at kept
    exact kept
  | error e => rfl

/-- A refund of another type that its column shortens to this one. -/
def ShortenedTo (kind : String) : WalletCall → Prop
  | .deduct .. => False
  | .refund _ referenceType _ _ => referenceType ≠ kind ∧ schema.referenceType referenceType = kind
  | .topup .. => False

/-- A refund that comes to its entry has been looked for, and under the type that is stored. -/
theorem fresh_of_reaches {call : WalletCall} {kind : String} {key : Option String}
    (reaches : call.Reaches wallet) (kept : ¬ShortenedTo kind call)
    (own : call.refundKey schema = some (kind, key)) : ¬Refunded (some wallet) kind key := by
  cases call with
  | deduct | topup => cases own
  | refund cost referenceType referenceId reason =>
    obtain ⟨stored, rfl⟩ := Prod.mk.inj (Option.some.inj own)
    have same : referenceType = kind := by
      by_contra other
      exact kept ⟨other, stored⟩
    rw [← same]
    exact reaches

/-- A call adds a refund only where there was none. -/
theorem exec_refunds (wallet : Wallet) {call : WalletCall} {kind : String} (key : Option String)
    (kept : ¬ShortenedTo kind call) :
    refunds (exec wallet call).2 kind key ≤ max (refunds wallet kind key) 1 := by
  by_cases effective : call.TakesEffect schema wallet
  · rw [exec_taken call effective.1 effective.2, refunds_enter]
    by_cases own : call.refundKey schema = some (kind, key)
    · rw [refunds_eq_zero (fresh_of_reaches effective.1 kept own), zero_add]
      split <;> omega
    · -- another refund, or none
      rw [if_neg fun keyed => own ((WalletCall.entry_refunds kind key).mp keyed)]
      exact le_max_left _ _
  · rw [exec_without effective]
    exact le_max_left _ _

/-! ### Every interleaving -/

variable {p q : WalletPool}

/-- The committed calls of a run with their results, in the order in which they locked the row. -/
def history (p q : WalletPool) (schedule : List WalletLabel) :
    List (WalletCall × Except WalletError ℚ) :=
  reading.history walletProgram p q schedule

/-- The wallet, its ledger and the results are those of the calls one after another in lock
order; every call that has ended is among them once; no type and stored reference has got a second
refund, unless by a call whose type the column has shortened. -/
structure Serializable (p q : WalletPool) (schedule : List WalletLabel) : Prop where
  serial : replay exec p.shared.wallet ((history p q schedule).map (·.1)) =
    ((history p q schedule).map (·.2), q.shared.wallet)
  once : (reading.lockOrder walletProgram p schedule).Nodup
  complete : ∀ i, (reading.finishedAt q i).isSome → i ∈ reading.lockOrder walletProgram p schedule
  refunds : ∀ kind key, (∀ call ∈ (history p q schedule).map (·.1), ¬ShortenedTo kind call) →
    refunds q.shared.wallet kind key ≤ max (refunds p.shared.wallet kind key) 1

theorem serial_in_lock_order {schedule : List WalletLabel} (free : p.shared.locked = false)
    (none_running : p.threads = []) (returned : run (Pool.step walletProgram) p schedule = some q) :
    Serializable p q schedule := by
  obtain ⟨serial, once, complete⟩ := reading.serializable (P := walletProgram) sound_of_not_holds
    (fun s t a s' u sound resumed => step_move sound resumed)
    (fun s d s' born acted => by
      cases acted
      exact ⟨rfl, rfl, by simp [reading, holds, finished]⟩)
    free none_running returned
  refine ⟨serial, once, complete, fun kind key kept => ?_⟩
  -- one after another no call adds a second refund
  have final : (replay exec p.shared.wallet ((history p q schedule).map (·.1))).2 =
      q.shared.wallet := congrArg Prod.snd serial
  rw [← final]
  apply replay_invariant fun wallet =>
    refunds wallet kind key ≤ max (refunds p.shared.wallet kind key) 1
  · intro wallet call member bound
    exact (exec_refunds wallet key (kept call member)).trans (max_le bound (le_max_right _ _))
  · exact le_max_left _ _

/-- Two refunds of one request and a debit: the second refund waits for the first, and the debit
is aborted when it has written the balance. -/
def sampleRefunds : List WalletLabel :=
  let refund : WalletCall :=
    .refund 1 "otp_request_failure" "3f2b8c1e-0d4a-4b6f-9a77-5c1de2f3a4b5" "Delivery failed"
  [.external (.deduct 2 "otp_request" "req_1"), .external refund, .external refund,
    .resume 2 true, .resume 1 true, .resume 0 true, .resume 0 true, .resume 0 true, .resume 0 false,
    .resume 2 true, .resume 2 true, .resume 2 true, .resume 2 true, .resume 2 true,
    .resume 1 true, .resume 1 true, .resume 1 true]

theorem serial_refunds :
    ∃ q, run (Pool.step walletProgram) ⟨⟨getOrCreateWallet none, false⟩, []⟩ sampleRefunds = some q ∧
      Serializable ⟨⟨getOrCreateWallet none, false⟩, []⟩ q sampleRefunds :=
  ⟨_, (Option.some_get (by decide +kernel)).symm,
    serial_in_lock_order rfl rfl (Option.some_get (by decide +kernel)).symm⟩

/-- A refund that is asked for twice under a type of 50 characters and a blank: the column cuts the
blank off, and the second call does not find the entry. -/
def shortenedRefunds : List WalletLabel :=
  let refund : WalletCall :=
    .refund 1 (String.ofList (List.replicate 50 'x' ++ [' '])) "req_1" "Delivery failed"
  .external refund :: List.replicate 6 (.resume 0 true) ++
    .external refund :: List.replicate 6 (.resume 1 true)

theorem shortened_type_refunded_twice :
    ¬∀ (p q : WalletPool) (schedule : List WalletLabel), p.shared.locked = false → p.threads = [] →
      run (Pool.step walletProgram) p schedule = some q →
        Serializable p q schedule ∧
          ∀ kind key, refunds q.shared.wallet kind key ≤ max (refunds p.shared.wallet kind key) 1 := by
  intro claimed
  obtain ⟨-, once⟩ := claimed ⟨⟨getOrCreateWallet none, false⟩, []⟩ _ shortenedRefunds rfl rfl
    (Option.some_get (by decide +kernel)).symm
  have twice := once (String.ofList (List.replicate 50 'x')) none
  revert twice
  decide +kernel

end SelfOtp.WalletPool
