import SelfOtp.Properties.EdgeRows

/-! What a send of the Edge function has charged when it answers. -/
namespace SelfOtp.Edge

open Pool Transition

/-- The balance of the customer's wallet. -/
def Database.balance (db : Database) (customerId : Id) : ℚ :=
  (db.wallets customerId).elim 0 (·.balance)

namespace Database

theorem balance_setWallet (db : Database) (customerId other : Id) (wallet : Wallet) :
    (db.setWallet customerId wallet).balance other =
      if other = customerId then wallet.balance else db.balance other := by
  unfold setWallet balance
  dsimp only
  rw [Function.update_apply]
  split <;> rfl

/-- A deduction that succeeds takes the amount from a wallet that holds it. -/
theorem deductWalletCredit_success {db db' : Database} {customerId : Id} {amount balance : ℚ}
    {reference : Option String} {description : JsString}
    (success : db.deductWalletCredit customerId amount reference description = some (db', .success balance)) :
    (db.wallets customerId).any (fun wallet => decide (amount ≤ wallet.balance)) = true ∧
      (db'.wallets customerId).isSome = true ∧
      (∀ other, db'.balance other = db.balance other - if other = customerId then amount else 0) ∧
      db'.otpRequests = db.otpRequests := by
  unfold deductWalletCredit at success
  split at success
  · cases success
  next wallet found =>
    split at success
    · cases success
    next enough =>
      cases success
      refine ⟨by rw [found]; simpa using not_lt.mp enough, by simp [setWallet], fun other => ?_, rfl⟩
      rw [balance_setWallet]
      split
      next same => rw [same, Database.balance, found, Option.elim_some]
      · rw [sub_zero]

/-- The deduction succeeds when the wallet holds the amount. -/
theorem deductWalletCredit_of_enough {db : Database} {customerId : Id} {amount : ℚ}
    (enough : (db.wallets customerId).any (fun wallet => decide (amount ≤ wallet.balance)) = true)
    (reference : Option String) (description : JsString) :
    ∃ db' balance,
      db.deductWalletCredit customerId amount reference description = some (db', .success balance) := by
  unfold deductWalletCredit
  cases found : db.wallets customerId with
  | none => simp [found] at enough
  | some wallet =>
    have holds : amount ≤ wallet.balance := by simpa [found] using enough
    exact ⟨_, _, if_neg (not_lt.mpr holds)⟩

/-- A refund gives the amount back to a wallet that exists. -/
theorem refundWalletCredit_eq_some {db : Database} {customerId : Id}
    (exists_wallet : (db.wallets customerId).isSome = true) (amount : ℚ) (reference : Option String)
    (description : JsString) :
    ∃ db' balance, db.refundWalletCredit customerId amount reference description = some (db', balance) ∧
      (∀ other, db'.balance other = db.balance other + if other = customerId then amount else 0) ∧
      db'.otpRequests = db.otpRequests := by
  obtain ⟨wallet, found⟩ := Option.isSome_iff_exists.mp exists_wallet
  unfold refundWalletCredit
  rw [found]
  refine ⟨_, _, rfl, fun other => ?_, rfl⟩
  rw [balance_setWallet]
  split
  next same => rw [same, Database.balance, found, Option.elim_some]
  · rw [add_zero]

end Database

namespace Thread

/-- The credit is deducted and then no code can be generated, or the row of a message that was not
accepted is inserted. -/
def mischarges (env : Env) (w : World) (a : Answer) : Thread → Bool
  | send c =>
    match c.pc with
    | .deduct _ => a.ok && decide (env.otpCreditCost ≠ 0) &&
        (w.db.wallets c.keyRecord.customerId).any (fun wallet => decide (env.otpCreditCost ≤ wallet.balance)) &&
        (generateOtp c.length c.random).isNone
    | .insert d metaResult => a.ok && decide (env.otpCreditCost ≠ 0) && !metaResult.success &&
        (w.db.insertOtpRequest (c.row w d metaResult)).isSome
    | _ => false
  | authenticating .. | refused _ | verify _ | resend _ => false

/-- The credit is refunded next. -/
def refunding : Thread → Bool
  | send c =>
    match c.pc with
    | .refund _ => true
    | _ => false
  | authenticating .. | refused _ | verify _ | resend _ => false

end Thread

namespace Charge

/-- The message has been accepted, and the row of the customer's request exists. -/
def Delivered (w w' : World) (customerId : Id) : Prop :=
  (∃ call, w'.metaCalls = w.metaCalls ++ [call] ∧ call.success = true) ∧
    ∃ row, w'.db.otpRequests = w.db.otpRequests ++ [row] ∧ row.customerId = customerId

/-- The net debit of every wallet is the price of what has been delivered. -/
def Exact (env : Env) (w w' : World) : Prop := ∀ customerId,
  (Delivered w w' customerId →
    w.db.balance customerId - w'.db.balance customerId = env.otpCreditCost) ∧
  (¬Delivered w w' customerId → w.db.balance customerId - w'.db.balance customerId = 0)

/-- Thread `i` runs and time passes. -/
def Alone (i : ℕ) : Label → Prop
  | .resume j _ => j = i
  | .external (.tick _) => True
  | .external (.post _) => False

def Mischarges (env : Env) (p : System) : Label → Prop
  | .resume i a => ∃ t ∈ p.threads[i]?, t.mischarges env p.shared a = true
  | .external _ => False

/-- `refund_wallet_credit` returns its result. -/
def RefundReturns (p : System) : Label → Prop
  | .resume i a => ∀ t ∈ p.threads[i]?, t.refunding = true → a.ok = true
  | .external _ => True

instance (i : ℕ) : DecidablePred (Alone i)
  | .resume j _ => inferInstanceAs (Decidable (j = i))
  | .external (.tick _) => isTrue trivial
  | .external (.post _) => isFalse id

instance (env : Env) : DecidableRel (Mischarges env)
  | p, .resume i a => inferInstanceAs (Decidable (∃ t ∈ p.threads[i]?, t.mischarges env p.shared a = true))
  | _, .external _ => isFalse id

instance : DecidableRel RefundReturns
  | p, .resume i a => inferInstanceAs (Decidable (∀ t ∈ p.threads[i]?, t.refunding = true → a.ok = true))
  | _, .external _ => isTrue trivial

/-! ### Stages of a send -/

/-- Nothing that the charge depends on has changed. -/
structure Untouched (w w' : World) : Prop where
  balance : ∀ customerId, w'.db.balance customerId = w.db.balance customerId
  rows : w'.db.otpRequests = w.db.otpRequests
  metaCalls : w'.metaCalls = w.metaCalls

/-- The customer of the send has been charged, and there is no row yet. -/
structure Debited (env : Env) (w w' : World) (c : SendCall) : Prop where
  wallet : (w'.db.wallets c.keyRecord.customerId).isSome = true
  balance : ∀ customerId, w'.db.balance customerId =
    w.db.balance customerId - if customerId = c.keyRecord.customerId then env.otpCreditCost else 0
  rows : w'.db.otpRequests = w.db.otpRequests

/-- Where a send is, in the world `w'`, that arrived in the world `w`. -/
inductive Stage (env : Env) (w w' : World) : Thread → Prop
  | authenticating (apiKey : String) (request : Request) (send : request.action = .send)
      (untouched : Untouched w w') : Stage env w w' (.authenticating apiKey request)
  | refused (reply : Reply) (untouched : Untouched w w') : Stage env w w' (.refused reply)
  | lookup (c : SendCall) (key : JsString) (pc : c.pc = .lookup key) (untouched : Untouched w w') :
      Stage env w w' (.send c)
  | deduct (c : SendCall) (description : JsString) (pc : c.pc = .deduct description)
      (untouched : Untouched w w') : Stage env w w' (.send c)
  | hash (c : SendCall) (otpCode : JsString) (pc : c.pc = .hash otpCode) (debited : Debited env w w' c)
      (metaCalls : w'.metaCalls = w.metaCalls) : Stage env w w' (.send c)
  | dispatch (c : SendCall) (otpCode : JsString) (d : Prepared) (pc : c.pc = .dispatch otpCode d)
      (debited : Debited env w w' c) (metaCalls : w'.metaCalls = w.metaCalls) : Stage env w w' (.send c)
  | insert (c : SendCall) (d : Prepared) (metaResult : MetaSendResult) (pc : c.pc = .insert d metaResult)
      (debited : Debited env w w' c) (call : MetaCall) (metaCalls : w'.metaCalls = w.metaCalls ++ [call])
      (success : call.success = metaResult.success) : Stage env w w' (.send c)
  | refund (c : SendCall) (message : JsString) (pc : c.pc = .refund message)
      (debited : Debited env w w' c) : Stage env w w' (.send c)
  | answered (c : SendCall) (reply : Reply) (writes : List Write) (pc : c.pc = .answered reply writes)
      (fair : Exact env w w') : Stage env w w' (.send c)

section Stages

variable {env : Env} {w w' w'' : World} {t t' : Thread} {a : Answer} {c c' : SendCall}

theorem not_delivered_of_rows {customerId : Id} (rows : w'.db.otpRequests = w.db.otpRequests) :
    ¬Delivered w w' customerId := by
  rintro ⟨-, row, added, -⟩
  rw [rows] at added
  exact absurd (congrArg List.length added) (by simp)

theorem Untouched.refl (w : World) : Untouched w w := ⟨fun _ => rfl, rfl, rfl⟩

theorem Untouched.exact (untouched : Untouched w w') : Exact env w w' := fun customerId =>
  ⟨fun delivered => absurd delivered (not_delivered_of_rows untouched.rows),
    fun _ => by rw [untouched.balance, sub_self]⟩

theorem Untouched.trans (first : Untouched w w') (second : Untouched w' w'') : Untouched w w'' :=
  ⟨fun customerId => (second.balance customerId).trans (first.balance customerId),
    second.rows.trans first.rows, second.metaCalls.trans first.metaCalls⟩

/-- Whether a charge is exact does not depend on anything else. -/
theorem Exact.of_untouched (untouched : Untouched w' w'') : Exact env w w'' ↔ Exact env w w' := by
  simp only [Exact, Delivered, untouched.balance, untouched.rows, untouched.metaCalls]

/-- A send that is about to be charged, or that cannot describe its debit. -/
theorem Stage.of_describe {phoneNumber : Json} (pc : c.pc = SendCall.describe phoneNumber)
    (untouched : Untouched w w') : Stage env w w' (.send c) := by
  rcases SendCall.describe_cases phoneNumber with ⟨description, charges⟩ | crashes
  · exact .deduct c description (pc.trans charges) untouched
  · exact .answered c _ _ (pc.trans crashes) untouched.exact

/-- A send with no change to the wallets, the rows and the messages of its own answers for nothing. -/
theorem Stage.of_handler {keyRecord : ApiKey} {request : Request} (send : request.action = .send)
    (untouched : Untouched w w') : Stage env w w' (Thread.handler keyRecord request) := by
  unfold Thread.handler Thread.of
  rw [send]
  dsimp only
  split
  next c started =>
    rcases SendCall.start_pc started with ⟨key, pc⟩ | ⟨description, pc⟩ | pc
    · exact .lookup c key pc untouched
    · exact .deduct c description pc untouched
    · exact .answered c _ _ pc untouched.exact
  next reply refused => exact .refused reply untouched

/-- The send has answered, and what it charged is wrong. -/
def Wrong (env : Env) (w w' : World) (t : Thread) : Prop :=
  ∃ c reply writes, t = .send c ∧ c.pc = .answered reply writes ∧ ¬Exact env w w'

theorem Debited.debit (debited : Debited env w w' c) (customerId : Id) :
    w.db.balance customerId - w'.db.balance customerId =
      if customerId = c.keyRecord.customerId then env.otpCreditCost else 0 := by
  rw [debited.balance, sub_sub_cancel]

/-- A debit for which nothing has been delivered is wrong, unless the price is zero. -/
theorem exact_of_lost (lost : ∀ customerId, ¬Delivered w w' customerId)
    (debit : ∀ customerId, w.db.balance customerId - w'.db.balance customerId =
      if customerId = c.keyRecord.customerId then env.otpCreditCost else 0) :
    Exact env w w' ↔ env.otpCreditCost = 0 := by
  constructor
  · intro fair
    have charged := (fair c.keyRecord.customerId).2 (lost _)
    rwa [debit, if_pos rfl] at charged
  · intro price customerId
    refine ⟨fun delivered => absurd delivered (lost customerId), fun _ => ?_⟩
    rw [debit, price, ite_self]

/-- The write of an answered send. -/
theorem write_untouched (write : Write) : Untouched w (SendCall.write w write) := by
  cases write with
  | message row => exact ⟨fun _ => rfl, rfl, rfl⟩
  | idempotencyKey row =>
    unfold SendCall.write Database.upsertIdempotencyKey
    dsimp only
    split <;> exact ⟨fun _ => rfl, rfl, rfl⟩

/-- The deduction charges the customer, unless it fails. -/
theorem Stage.deduct_step {description : JsString} (pc : c.pc = .deduct description)
    (untouched : Untouched w w') (stepped : c.step env w' a = some (w'', c')) :
    (Thread.send c).mischarges env w' a = false ∧ Stage env w w'' (.send c') ∨
      (Thread.send c).mischarges env w' a = true ∧ Wrong env w w'' (.send c') := by
  simp only [SendCall.step, pc] at stepped
  -- a deduction that fails is not one of the two exits
  have spared (failed : ∀ db balance, (if a.ok then w'.db.deductWalletCredit c.keyRecord.customerId
      env.otpCreditCost none description else none) ≠ some (db, .success balance)) :
      (Thread.send c).mischarges env w' a = false := by
    simp only [Thread.mischarges, pc]
    by_contra wrong
    simp only [Bool.not_eq_false, Bool.and_eq_true] at wrong
    obtain ⟨⟨⟨up, -⟩, enough⟩, -⟩ := wrong
    obtain ⟨db, balance, success⟩ := Database.deductWalletCredit_of_enough enough none description
    rw [if_pos up] at failed
    exact failed db balance success
  split at stepped
  next failed =>
    cases stepped
    exact Or.inl ⟨spared fun db balance success => (by rw [failed] at success; cases success),
      .answered _ _ _ rfl untouched.exact⟩
  next failed =>
    cases stepped
    exact Or.inl ⟨spared fun db balance success => (by rw [failed] at success; cases success),
      .answered _ _ _ rfl untouched.exact⟩
  next db balance success =>
    have up : a.ok = true := by
      by_contra down
      rw [if_neg down] at success
      cases success
    rw [if_pos up] at success
    obtain ⟨enough, wallet, balances, rows⟩ := Database.deductWalletCredit_success success
    have debited (c' : SendCall) (same : c'.keyRecord = c.keyRecord) :
        Debited env w { w' with db := db } c' := by
      refine ⟨by rw [same]; exact wallet, fun other => ?_, rows.trans untouched.rows⟩
      rw [same, balances, untouched.balance]
    -- the credit is gone from here on, whatever becomes of the code
    split at stepped
    next otpCode generated =>
      cases stepped
      refine Or.inl ⟨?_, .hash _ otpCode rfl (debited _ rfl) untouched.metaCalls⟩
      simp only [Thread.mischarges, pc, generated, Option.isNone_some, Bool.and_false]
    next thrown =>
      cases stepped
      have wrong : Exact env w { w' with db := db } ↔ env.otpCreditCost = 0 :=
        exact_of_lost (fun _ => not_delivered_of_rows (rows.trans untouched.rows)) (debited c rfl).debit
      by_cases price : env.otpCreditCost = 0
      · exact Or.inl ⟨by simp [Thread.mischarges, pc, price], .answered _ _ _ rfl (wrong.mpr price)⟩
      · refine Or.inr ⟨?_, _, _, _, rfl, rfl, fun fair => price (wrong.mp fair)⟩
        simp only [Thread.mischarges, pc, up, enough, thrown, price, ne_eq, not_false_eq_true, decide_true,
          Option.isNone_none, Bool.and_true]

/-- The insert settles what has been charged, unless it fails and leads to the refund. -/
theorem Stage.insert_step {d : Prepared} {metaResult : MetaSendResult} {call : MetaCall}
    (pc : c.pc = .insert d metaResult) (debited : Debited env w w' c)
    (metaCalls : w'.metaCalls = w.metaCalls ++ [call]) (success : call.success = metaResult.success)
    (stepped : c.step env w' a = some (w'', c')) :
    (Thread.send c).mischarges env w' a = false ∧ Stage env w w'' (.send c') ∨
      (Thread.send c).mischarges env w' a = true ∧ Wrong env w w'' (.send c') := by
  simp only [SendCall.step, pc] at stepped
  split at stepped
  next db inserted =>
    cases stepped
    have up : a.ok = true := by
      by_contra down
      rw [if_neg down] at inserted
      cases inserted
    rw [if_pos up] at inserted
    have exists_row := Option.isSome_of_eq_some inserted
    unfold Database.insertOtpRequest at inserted
    split at inserted <;> cases inserted
    cases accepted : metaResult.success with
    | true =>
      refine Or.inl ⟨by simp [Thread.mischarges, pc, accepted], .answered _ _ _ rfl fun customerId => ?_⟩
      constructor
      -- the row that was added is the customer's own, so only this wallet is debited
      · rintro ⟨-, row, added, rfl⟩
        dsimp only at added
        rw [debited.rows] at added
        cases List.singleton_inj.mp (List.append_cancel_left added)
        exact (debited.debit _).trans (if_pos rfl)
      · intro lost
        refine (debited.debit _).trans (if_neg ?_)
        rintro rfl
        refine lost ⟨⟨call, metaCalls, success.trans accepted⟩, c.row w' d metaResult, ?_, rfl⟩
        dsimp only
        rw [debited.rows]
    | false =>
      -- the row exists with the status 'failed', and the handler answers without a refund
      have lost (customerId : Id) : ¬Delivered w { w' with
          db := { w'.db with otpRequests := w'.db.otpRequests ++ [c.row w' d metaResult] }
          nextId := w'.nextId + 1 } customerId := by
        rintro ⟨⟨other, added, succeeded⟩, -⟩
        dsimp only at added
        rw [metaCalls] at added
        cases List.singleton_inj.mp (List.append_cancel_left added)
        exact Bool.false_ne_true ((success.trans accepted).symm.trans succeeded)
      have wrong := exact_of_lost lost debited.debit
      by_cases price : env.otpCreditCost = 0
      · exact Or.inl ⟨by simp [Thread.mischarges, pc, price], .answered _ _ _ rfl (wrong.mpr price)⟩
      · refine Or.inr ⟨?_, _, _, _, rfl, rfl, fun fair => price (wrong.mp fair)⟩
        simp [Thread.mischarges, pc, up, price, accepted, exists_row]
  next failed =>
    cases stepped
    refine Or.inl ⟨?_, .refund _ _ rfl ⟨debited.wallet, debited.balance, debited.rows⟩⟩
    simp only [Thread.mischarges, pc]
    split at failed
    · rw [failed]
      simp
    next down => simp [down]

/-- The refund gives back what has been charged. -/
theorem Stage.refund_step {message : JsString} (pc : c.pc = .refund message)
    (debited : Debited env w w' c) (up : a.ok = true) (stepped : c.step env w' a = some (w'', c')) :
    Stage env w w'' (.send c') := by
  obtain ⟨db, balance, returned, balances, rows⟩ := Database.refundWalletCredit_eq_some debited.wallet
    env.otpCreditCost none (js "OTP Delivery Failure Refund")
  simp only [SendCall.step, pc, up, if_true, returned] at stepped
  cases stepped
  refine .answered _ _ _ rfl fun customerId => ⟨fun delivered =>
    absurd delivered (not_delivered_of_rows (rows.trans debited.rows)), fun _ => ?_⟩
  rw [balances, debited.balance, sub_add_cancel, sub_self]

theorem Wrong.resume (wrong : Wrong env w w' t) (resumed : t.resume env w' a = some (w'', t')) :
    Wrong env w w'' t' := by
  obtain ⟨c, reply, writes, rfl, pc, inexact⟩ := wrong
  obtain ⟨c', stepped, rfl⟩ := Thread.stepped_eq_some resumed
  cases writes with
  | nil => simp [SendCall.step, pc] at stepped
  | cons first rest =>
    simp only [SendCall.step, pc] at stepped
    cases stepped
    refine ⟨_, reply, rest, rfl, rfl, ?_⟩
    split
    · rwa [Exact.of_untouched (write_untouched first)]
    · exact inexact

/-- A step of the send goes on to the next stage, or it is wrong. -/
theorem Stage.resume (stage : Stage env w w' t) (resumed : t.resume env w' a = some (w'', t'))
    (returns : t.refunding = true → a.ok = true) :
    t.mischarges env w' a = false ∧ Stage env w w'' t' ∨
      t.mischarges env w' a = true ∧ Wrong env w w'' t' := by
  cases stage with
  | authenticating apiKey request send untouched =>
    left
    simp only [Thread.resume] at resumed
    split at resumed <;> cases resumed
    · exact ⟨rfl, .of_handler send untouched⟩
    · exact ⟨rfl, .refused _ untouched⟩
  | refused reply untouched => cases resumed
  | lookup c key pc untouched =>
    obtain ⟨c', stepped, rfl⟩ := Thread.stepped_eq_some resumed
    refine Or.inl ⟨by simp only [Thread.mischarges, pc], ?_⟩
    simp only [SendCall.step, pc] at stepped
    split at stepped
    · split at stepped <;> cases stepped
      · exact .answered _ _ _ rfl untouched.exact
      · exact .of_describe rfl untouched
    · cases stepped
      exact .of_describe rfl untouched
  | deduct c description pc untouched =>
    obtain ⟨c', stepped, rfl⟩ := Thread.stepped_eq_some resumed
    exact Stage.deduct_step pc untouched stepped
  | hash c otpCode pc debited metaCalls =>
    obtain ⟨c', stepped, rfl⟩ := Thread.stepped_eq_some resumed
    simp only [SendCall.step, pc] at stepped
    cases stepped
    exact Or.inl ⟨by simp only [Thread.mischarges, pc],
      .dispatch _ _ _ rfl ⟨debited.wallet, debited.balance, debited.rows⟩ metaCalls⟩
  | dispatch c otpCode d pc debited metaCalls =>
    obtain ⟨c', stepped, rfl⟩ := Thread.stepped_eq_some resumed
    simp only [SendCall.step, pc] at stepped
    cases stepped
    exact Or.inl ⟨by simp only [Thread.mischarges, pc],
      .insert _ d a.delivery rfl ⟨debited.wallet, debited.balance, debited.rows⟩ _ (by rw [metaCalls]) rfl⟩
  | insert c d metaResult pc debited call metaCalls success =>
    obtain ⟨c', stepped, rfl⟩ := Thread.stepped_eq_some resumed
    exact Stage.insert_step pc debited metaCalls success stepped
  | refund c message pc debited =>
    obtain ⟨c', stepped, rfl⟩ := Thread.stepped_eq_some resumed
    have up := returns (by simp only [Thread.refunding, pc])
    exact Or.inl ⟨by simp only [Thread.mischarges, pc], Stage.refund_step pc debited up stepped⟩
  | answered c reply writes pc fair =>
    obtain ⟨c', stepped, rfl⟩ := Thread.stepped_eq_some resumed
    cases writes with
    | nil => simp [SendCall.step, pc] at stepped
    | cons first rest =>
      simp only [SendCall.step, pc] at stepped
      cases stepped
      refine Or.inl ⟨by simp only [Thread.mischarges, pc], .answered _ reply rest rfl ?_⟩
      split
      · rwa [Exact.of_untouched (write_untouched first)]
      · exact fair

/-- A send that has answered has charged for what it delivered. -/
theorem Stage.exact (stage : Stage env w w' t) (replied : t.reply.isSome = true) : Exact env w w' := by
  cases stage with
  | refused reply untouched => exact untouched.exact
  | answered c reply writes pc fair => exact fair
  | authenticating => cases replied
  | lookup c _ pc | deduct c _ pc | hash c _ pc | dispatch c _ _ pc | insert c _ _ pc | refund c _ pc =>
    simp only [Thread.reply, pc] at replied
    cases replied

end Stages

/-! ### Runs -/

section Runs

variable {env : Env} {p q : System} {w : World} {i : ℕ} {l : Label}

/-- Thread `i` is at a stage of its send. -/
def AtStage (env : Env) (w : World) (i : ℕ) (p : System) : Prop :=
  ∃ t, p.threads[i]? = some t ∧ Stage env w p.shared t

/-- Thread `i` has answered, and what it charged is wrong. -/
def GoneWrong (env : Env) (w : World) (i : ℕ) (p : System) : Prop :=
  ∃ t, p.threads[i]? = some t ∧ Wrong env w p.shared t

/-- Time does not matter to the charge. -/
theorem untouched_tick {w' : World} {d : Millis} {born : List Thread}
    (acted : Thread.external w (.tick d) = some (w', born)) : Untouched w w' := by
  cases acted
  exact ⟨fun _ => rfl, rfl, rfl⟩

theorem Stage.tick {w' w'' : World} {t : Thread} (stage : Stage env w w' t) (same : Untouched w' w'')
    (wallets : w''.db.wallets = w'.db.wallets) : Stage env w w'' t := by
  have debited {c : SendCall} (debited : Debited env w w' c) : Debited env w w'' c :=
    ⟨by rw [wallets]; exact debited.wallet, fun customerId => by rw [same.balance, debited.balance],
      same.rows.trans debited.rows⟩
  cases stage with
  | authenticating apiKey request send untouched => exact .authenticating _ _ send (untouched.trans same)
  | refused reply untouched => exact .refused _ (untouched.trans same)
  | lookup c key pc untouched => exact .lookup _ _ pc (untouched.trans same)
  | deduct c description pc untouched => exact .deduct _ _ pc (untouched.trans same)
  | hash c otpCode pc charged metaCalls =>
    exact .hash _ _ pc (debited charged) (same.metaCalls.trans metaCalls)
  | dispatch c otpCode d pc charged metaCalls =>
    exact .dispatch _ _ _ pc (debited charged) (same.metaCalls.trans metaCalls)
  | insert c d metaResult pc charged call metaCalls success =>
    exact .insert _ _ _ pc (debited charged) call (same.metaCalls.trans metaCalls) success
  | refund c message pc charged => exact .refund _ _ pc (debited charged)
  | answered c reply writes pc fair => exact .answered _ _ _ pc ((Exact.of_untouched same).mpr fair)

theorem AtStage.step (stage : AtStage env w i p) (alone : Alone i l) (returns : RefundReturns p l)
    (taken : Pool.step (program env) p l = some q) :
    ¬Mischarges env p l ∧ AtStage env w i q ∨ Mischarges env p l ∧ GoneWrong env w i q := by
  obtain ⟨t, found, stage⟩ := stage
  have inside : i < p.threads.length := (List.getElem?_eq_some_iff.mp found).1
  cases l with
  | resume j a =>
    cases alone
    obtain ⟨u, w', t', there, resumed, rfl⟩ := step_resume taken
    rw [found] at there
    cases there
    have moved : (p.threads.set i t')[i]? = some t' := List.getElem?_set_self inside
    refine (stage.resume resumed (returns t (by rw [found]; rfl))).imp (fun ⟨good, next⟩ => ?_)
      fun ⟨bad, wrong⟩ => ⟨⟨t, by rw [found]; rfl, bad⟩, t', moved, wrong⟩
    refine ⟨?_, t', moved, next⟩
    rintro ⟨u, same, bad⟩
    rw [found] at same
    cases same
    exact Bool.false_ne_true (good.symm.trans bad)
  | external event =>
    obtain ⟨w', born, acted, rfl⟩ := step_external taken
    cases event with
    | tick d =>
      refine Or.inl ⟨fun bad => bad, t, ?_, stage.tick (untouched_tick acted) ?_⟩
      · rw [List.getElem?_append_left inside]
        exact found
      · cases acted
        rfl
    | post request => cases alone

theorem GoneWrong.step (wrong : GoneWrong env w i p) (alone : Alone i l)
    (taken : Pool.step (program env) p l = some q) : GoneWrong env w i q := by
  obtain ⟨t, found, wrong⟩ := wrong
  have inside : i < p.threads.length := (List.getElem?_eq_some_iff.mp found).1
  cases l with
  | resume j a =>
    cases alone
    obtain ⟨u, w', t', there, resumed, rfl⟩ := step_resume taken
    rw [found] at there
    cases there
    exact ⟨t', List.getElem?_set_self inside, wrong.resume resumed⟩
  | external event =>
    obtain ⟨w', born, acted, rfl⟩ := step_external taken
    cases event with
    | tick d =>
      obtain ⟨c, reply, writes, is_send, pc, inexact⟩ := wrong
      refine ⟨t, ?_, c, reply, writes, is_send, pc, ?_⟩
      · rw [List.getElem?_append_left inside]
        exact found
      · rwa [Exact.of_untouched (untouched_tick acted)]
    | post request => cases alone

theorem AtStage.arrival {request : Request} (send : request.action = .send)
    (taken : Pool.step (program env) p (.external (.post request)) = some q) :
    AtStage env p.shared p.threads.length q := by
  obtain ⟨w', born, acted, rfl⟩ := step_external taken
  cases acted
  refine ⟨Thread.start request, by simp, ?_⟩
  unfold Thread.start
  split
  · exact .authenticating _ _ send (.refl _)
  · exact .refused _ (.refl _)

/-- When a send has answered, the net debit is the price of what it delivered, unless the credit was
deducted and no code could be generated, or the row of a message that was not accepted was inserted. -/
theorem exact_iff {request : Request} {labels : List Label} {t : Thread} (send : request.action = .send)
    (alone : ∀ l ∈ labels, Alone p.threads.length l)
    (returns : Respects (step (program env)) RefundReturns p (.external (.post request) :: labels))
    (returned : run (step (program env)) p (.external (.post request) :: labels) = some q)
    (found : q.threads[p.threads.length]? = some t) (replied : t.reply.isSome = true) :
    Exact env p.shared q.shared ↔
      Respects (step (program env)) (fun s l => ¬Mischarges env s l) p
        (.external (.post request) :: labels) := by
  obtain ⟨s, taken, rest⟩ := run_cons returned
  -- a step that mischarges is the one that answers, and nothing after it mends the charge
  have arrived : AtStage env p.shared p.threads.length s := .arrival send taken
  have apart : Respects (step (program env)) (fun _ l => Alone p.threads.length l) s labels :=
    respects_of_forall (fun l there _ => alone l there) s
  simp only [Respects, taken] at returns ⊢
  have allowed := apart.and returns.2
  constructor
  · intro fair
    refine ⟨id, ?_⟩
    rcases respects_or_marked (AtStage env p.shared p.threads.length) (GoneWrong env p.shared p.threads.length)
      (fun _ _ _ stage allowed taken => (stage.step allowed.1 allowed.2 taken).imp_right And.right)
      (fun _ _ _ wrong allowed taken => wrong.step allowed.1 taken) arrived allowed rest with
      ⟨respects, -⟩ | ⟨u, same, c, reply, writes, is_send, pc, inexact⟩
    · exact respects
    · exact absurd fair inexact
  · rintro ⟨-, respects⟩
    obtain ⟨u, same, stage⟩ := run_invariant_of_respects (AtStage env p.shared p.threads.length)
      (fun s l t stage allowed taken =>
        ((stage.step allowed.1.1 allowed.1.2 taken).resolve_right fun bad => allowed.2 bad.1).2)
      arrived (allowed.and respects) rest
    rw [found] at same
    cases same
    exact stage.exact replied

/-- A send whose insert fails is refunded. -/
theorem exact_of_failed_insert :
    ∃ q t, run (step (program sampleEnv)) sampleSystem
        (samplePost .send [(js "phone_number", .string (js "+4915112345678"))] :: resolve 0 4 ++
          [.resume 0 ⟨false, [], ⟨false, []⟩⟩] ++ resolve 0 1) = some q ∧
      q.threads[0]? = some t ∧
      (Exact sampleEnv sampleSystem.shared q.shared ↔
        Respects (step (program sampleEnv)) (fun s l => ¬Mischarges sampleEnv s l) sampleSystem
          (samplePost .send [(js "phone_number", .string (js "+4915112345678"))] :: resolve 0 4 ++
            [.resume 0 ⟨false, [], ⟨false, []⟩⟩] ++ resolve 0 1)) :=
  ⟨_, _, (Option.some_get (by decide +kernel)).symm, (Option.some_get (by decide +kernel)).symm,
    exact_iff (p := sampleSystem) rfl (by decide +kernel) (by decide +kernel)
      (Option.some_get (by decide +kernel)).symm (Option.some_get (by decide +kernel)).symm (by decide +kernel)⟩

/-- A send with a length of -1 is charged, and no code can be generated. -/
theorem charged_without_code :
    ¬∀ (env : Env) (p q : System) (request : Request) (labels : List Label) (t : Thread),
      request.action = .send → (∀ l ∈ labels, Alone p.threads.length l) →
      Respects (step (program env)) RefundReturns p (.external (.post request) :: labels) →
      run (step (program env)) p (.external (.post request) :: labels) = some q →
      q.threads[p.threads.length]? = some t → t.reply.isSome = true → Exact env p.shared q.shared := by
  intro fair
  have violated := fair sampleEnv sampleSystem _
    ⟨.send, some "wotp_live_00", none, some (.object
      [(js "phone_number", .string (js "+4915112345678")), (js "length", .number "-1")]), fun _ => 0, 7⟩
    (resolve 0 2) _ rfl (by decide +kernel) (by decide +kernel) (Option.some_get (by decide +kernel)).symm
    (Option.some_get (by decide +kernel)).symm (by decide +kernel)
  have charged := (violated 1).2 (not_delivered_of_rows (by decide +kernel))
  revert charged
  decide +kernel

end Runs

end Charge

end SelfOtp.Edge
