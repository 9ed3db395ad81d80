import Mathlib.Tactic.LinearCombination
import SelfOtp.Lib.Ledger
import SelfOtp.Model.EdgeWebhook
import SelfOtp.Properties.EdgeRows

/-! What the wallet of a customer comes to in any run of both Edge functions: each credit that has left it
is in a row, on its way, or lost. -/
namespace SelfOtp.Edge

open Pool Transition Ledger

/-! ### What is counted -/

/-- The requests of the customer. -/
def World.requestsOf (w : World) (customerId : Id) : ℕ :=
  w.db.otpRequests.countP (·.customerId == customerId)

/-- The send has been charged, and has neither its row nor its refund. -/
def SendPc.pending : SendPc → Bool
  | hash _ | dispatch .. | insert .. | refund _ => true
  | lookup _ | deduct _ | answered .. => false

def SendCall.pending (customerId : Id) (c : SendCall) : Bool :=
  c.keyRecord.customerId == customerId && c.pc.pending

/-- The charge of the send is lost: no code can be generated, or the refund fails. -/
def SendCall.forfeits (env : Env) (customerId : Id) (w : World) (a : Answer) (c : SendCall) : Bool :=
  c.keyRecord.customerId == customerId &&
    match c.pc with
    | .deduct description =>
      match (if a.ok then
          w.db.deductWalletCredit c.keyRecord.customerId env.otpCreditCost none description else none) with
      | some (_, .success _) => (generateOtp c.length c.random).isNone
      | _ => false
    | .refund _ => !a.ok
    | _ => false

namespace Party

def pending (customerId : Id) : Party → Bool
  | call (.send c) => c.pending customerId
  | call _ | webhook _ => false

def forfeits (env : Env) (customerId : Id) (w : World) (a : Answer) : Party → Bool
  | call (.send c) => c.forfeits env customerId w a
  | call _ | webhook _ => false

/-- The amounts that the report of a failure gives back to the customer. -/
def returned (customerId : Id) (a : Answer) : Party → List ℚ
  | webhook c =>
    match c.pc with
    | .refund otp _ => if a.ok && otp.customerId == customerId then [WebhookCall.refundAmount] else []
    | _ => []
  | call _ => []

end Party

/-- The sends of the customer that have been charged and not settled. -/
def pendingOf (customerId : Id) (p : PartySystem) : ℕ :=
  total (fun t => (t.pending customerId).toNat) p.threads

def returnedTo (customerId : Id) (p : PartySystem) : PartyLabel → List ℚ
  | .resume i a => (p.threads[i]?.map (Party.returned customerId a)).getD []
  | .external _ => []

def Forfeits (env : Env) (customerId : Id) (p : PartySystem) : PartyLabel → Prop
  | .resume i a => ∃ t ∈ p.threads[i]?, t.forfeits env customerId p.shared a = true
  | .external _ => False

instance (env : Env) (customerId : Id) : DecidableRel (Forfeits env customerId)
  | p, .resume i a =>
    inferInstanceAs (Decidable (∃ t ∈ p.threads[i]?, t.forfeits env customerId p.shared a = true))
  | _, .external _ => isFalse id

/-! ### Entries of a wallet -/

/-- A wallet gets one entry with this amount, or none and stays as it is. -/
inductive Booked (before after : Option Wallet) : ℚ → Prop
  | kept (same : after = before) : Booked before after 0
  | entered (wallet : Wallet) (e : Transaction) (found : before = some wallet)
      (chained : e.balanceAfter - e.amount = wallet.balance) (covered : 0 ≤ e.amount ∨ 0 ≤ e.balanceAfter)
      (appended : after = some ⟨e.balanceAfter, wallet.transactions ++ [e]⟩) : Booked before after e.amount

/-- The wallet is what the opening wallet and the entries since then lead to. -/
def LedTo (opening wallet : Wallet) : Prop :=
  ∃ entries, wallet.transactions = opening.transactions ++ entries ∧
    Leads (fun e : Transaction => e.balanceAfter - e.amount) (·.balanceAfter) opening.balance entries
      wallet.balance ∧
    0 ≤ wallet.balance

theorem LedTo.refl {opening : Wallet} (solvent : 0 ≤ opening.balance) : LedTo opening opening :=
  ⟨[], (List.append_nil _).symm, rfl, solvent⟩

theorem LedTo.booked {opening wallet : Wallet} {after : Option Wallet} {amount : ℚ}
    (led : LedTo opening wallet) (booked : Booked (some wallet) after amount) :
    ∃ next, after = some next ∧ next.balance = wallet.balance + amount ∧ LedTo opening next := by
  cases booked with
  | kept same => exact ⟨wallet, same, (add_zero _).symm, led⟩
  | entered _ e found chained covered appended =>
    cases found
    obtain ⟨entries, transactions, leads, solvent⟩ := led
    have moved : e.balanceAfter = wallet.balance + e.amount := sub_eq_iff_eq_add.mp chained
    refine ⟨_, appended, moved, entries ++ [e], ?_, ?_, ?_⟩
    · rw [transactions, List.append_assoc]
    · exact Leads.append (e := e) (chained ▸ leads)
    · rcases covered with gain | covered
      · exact moved ▸ add_nonneg solvent gain
      · exact covered

namespace Database

variable {db db' : Database} {other : Id} {amount balance : ℚ} {reference : Option String}
  {description : JsString}

theorem deductWalletCredit_booked (customerId : Id)
    (success : db.deductWalletCredit other amount reference description = some (db', .success balance)) :
    Booked (db.wallets customerId) (db'.wallets customerId) (if other == customerId then -amount else 0) ∧
      db'.otpRequests = db.otpRequests := by
  unfold deductWalletCredit at success
  split at success
  · cases success
  next wallet found =>
    split at success <;> cases success
    next enough =>
    refine ⟨?_, rfl⟩
    cases own : other == customerId with
    | true =>
      cases beq_iff_eq.mp own
      refine .entered wallet ⟨-amount, .debit, wallet.balance - amount, reference, description⟩ found ?_
        (Or.inr (sub_nonneg.mpr (not_lt.mp enough))) (Function.update_self ..)
      dsimp only
      rw [sub_neg_eq_add, sub_add_cancel]
    | false => exact .kept (Function.update_of_ne (beq_eq_false_iff_ne.mp own).symm ..)

theorem refundWalletCredit_booked (customerId : Id) (gain : 0 ≤ amount)
    (returned : db.refundWalletCredit other amount reference description = some (db', balance)) :
    Booked (db.wallets customerId) (db'.wallets customerId) (if other == customerId then amount else 0) := by
  unfold refundWalletCredit at returned
  split at returned <;> cases returned
  next wallet found =>
  cases own : other == customerId with
  | true =>
    cases beq_iff_eq.mp own
    exact .entered wallet ⟨amount, .refund, wallet.balance + amount, reference, description⟩ found
      (add_sub_cancel_right _ _) (Or.inl gain) (Function.update_self ..)
  | false => exact .kept (Function.update_of_ne (beq_eq_false_iff_ne.mp own).symm ..)

/-- The database after a refund as the functions make it: it stays when the call fails, and when there is
no wallet. -/
def refunded (db : Database) (ok : Bool) (customerId : Id) (amount : ℚ) (description : JsString) : Database :=
  match (if ok then db.refundWalletCredit customerId amount none description else none) with
  | some (db, _) => db
  | none => db

theorem refunded_rows (db : Database) (ok : Bool) (other : Id) (amount : ℚ) (description : JsString) :
    (db.refunded ok other amount description).otpRequests = db.otpRequests := by
  unfold refunded
  split
  next db' balance called =>
    split at called
    · unfold refundWalletCredit at called
      split at called <;> cases called
      rfl
    · cases called
  · rfl

theorem refunded_booked {customerId : Id} (exists_wallet : (db.wallets customerId).isSome = true)
    (gain : 0 ≤ amount) (ok : Bool) (other : Id) (description : JsString) :
    Booked (db.wallets customerId) ((db.refunded ok other amount description).wallets customerId)
      (if ok && other == customerId then amount else 0) := by
  unfold refunded
  cases ok with
  | false => exact .kept rfl
  | true =>
    rw [if_pos rfl, Bool.true_and]
    split
    next called => exact refundWalletCredit_booked customerId gain called
    next missing =>
      have absent : db.wallets other = none := by
        unfold refundWalletCredit at missing
        split at missing
        next absent => exact absent
        · cases missing
      have apart : (other == customerId) = false := by
        rw [beq_eq_false_iff_ne]
        rintro rfl
        rw [absent] at exists_wallet
        cases exists_wallet
      rw [apart]
      exact .kept rfl

end Database

/-! ### One step -/

/-- Of what enters the wallet, each charge is in a row, pending or lost, and the rest was returned. -/
def Accounted (env : Env) (customerId : Id) (w w' : World) (before after lost : Bool)
    (returned : List ℚ) : Prop :=
  ∃ amount, Booked (w.db.wallets customerId) (w'.db.wallets customerId) amount ∧
    amount + env.otpCreditCost * (w'.requestsOf customerId + after.toNat + lost.toNat) =
      returned.sum + env.otpCreditCost * (w.requestsOf customerId + before.toNat)

section Steps

variable {env : Env} {w w' : World} {customerId : Id} {a : Answer}

/-- Neither the wallet nor the rows of the customer have changed. -/
theorem Accounted.quiet {before after lost : Bool}
    (wallets : w'.db.wallets = w.db.wallets) (rows : w'.requestsOf customerId = w.requestsOf customerId)
    (same : after.toNat + lost.toNat = before.toNat) :
    Accounted env customerId w w' before after lost [] := by
  refine ⟨0, .kept (by rw [wallets]), ?_⟩
  rw [rows, ← same, List.sum_nil, Nat.cast_add, zero_add, zero_add, add_assoc]

theorem requestsOf_congr (rows : w'.db.otpRequests = w.db.otpRequests) :
    w'.requestsOf customerId = w.requestsOf customerId := by
  rw [World.requestsOf, World.requestsOf, rows]

theorem SendCall.describe_idle (phoneNumber : Json) : (describe phoneNumber).pending = false := by
  rcases describe_cases phoneNumber with ⟨description, charges⟩ | crashes
  · rw [charges]
    rfl
  · rw [crashes]
    rfl

theorem SendCall.step_accounted {c c' : SendCall} (price : 0 ≤ env.otpCreditCost)
    (exists_wallet : (w.db.wallets customerId).isSome = true) (h : c.step env w a = some (w', c')) :
    Accounted env customerId w w' (c.pending customerId) (c'.pending customerId)
      (c.forfeits env customerId w a) [] := by
  cases pc : c.pc with
  | lookup key =>
    have idle : c.pending customerId = false := by rw [pending, pc, SendPc.pending, Bool.and_false]
    have kept : c.forfeits env customerId w a = false := by simp only [forfeits, pc, Bool.and_false]
    rw [idle, kept]
    simp only [step, pc] at h
    split at h
    · split at h <;> cases h
      · exact .quiet rfl rfl (by simp [pending, goto, SendPc.pending])
      · exact .quiet rfl rfl (by simp [pending, goto, describe_idle])
    · cases h
      exact .quiet rfl rfl (by simp [pending, goto, describe_idle])
  | deduct description =>
    have idle : c.pending customerId = false := by rw [pending, pc, SendPc.pending, Bool.and_false]
    simp only [step, pc] at h
    simp only [idle, forfeits, pc]
    split at h
    next failed =>
      cases h
      rw [failed]
      exact .quiet rfl rfl (by simp [pending, goto, SendPc.pending])
    next failed =>
      cases h
      rw [failed]
      exact .quiet rfl rfl (by simp [pending, goto, SendPc.pending])
    next db balance success =>
      rw [success]
      dsimp only
      have up : a.ok = true := by
        by_contra down
        rw [if_neg down] at success
        cases success
      rw [if_pos up] at success
      obtain ⟨booked, rows⟩ := Database.deductWalletCredit_booked customerId success
      -- the charge is pending from here on, or lost when there is no code
      have charged (c' : SendCall) (lost : Bool)
          (settles : (c'.pending customerId).toNat + lost.toNat =
            (c.keyRecord.customerId == customerId).toNat) :
          Accounted env customerId w { w with db := db } false (c'.pending customerId) lost [] := by
        refine ⟨_, booked, ?_⟩
        rw [requestsOf_congr rows, add_assoc _ ((c'.pending customerId).toNat : ℚ), ← Nat.cast_add, settles]
        cases c.keyRecord.customerId == customerId with
        | true => simp [mul_add]
        | false => simp
      split at h
      next otpCode generated =>
        cases h
        rw [generated]
        refine charged _ _ ?_
        simp [pending, goto, SendPc.pending]
      next thrown =>
        cases h
        rw [thrown]
        refine charged _ _ ?_
        simp [pending, goto, SendPc.pending]
  | hash otpCode =>
    have kept : c.forfeits env customerId w a = false := by simp only [forfeits, pc, Bool.and_false]
    rw [kept]
    simp only [step, pc] at h
    cases h
    exact .quiet rfl rfl (by simp [pending, goto, pc, SendPc.pending])
  | dispatch otpCode d =>
    have kept : c.forfeits env customerId w a = false := by simp only [forfeits, pc, Bool.and_false]
    rw [kept]
    simp only [step, pc] at h
    cases h
    exact .quiet rfl rfl (by simp [pending, goto, pc, SendPc.pending])
  | insert d metaResult =>
    have kept : c.forfeits env customerId w a = false := by simp only [forfeits, pc, Bool.and_false]
    rw [kept]
    simp only [step, pc] at h
    split at h
    next db inserted =>
      cases h
      split at inserted
      · unfold Database.insertOtpRequest at inserted
        split at inserted <;> cases inserted
        -- the row takes the place of the charge
        refine ⟨0, .kept rfl, ?_⟩
        have added : World.requestsOf { w with
            db := { w.db with otpRequests := w.db.otpRequests ++ [c.row w d metaResult] }
            nextId := w.nextId + 1 } customerId =
          w.requestsOf customerId + (c.keyRecord.customerId == customerId).toNat := by
          simp only [World.requestsOf, List.countP_append, List.countP_singleton, row]
          cases c.keyRecord.customerId == customerId <;> rfl
        rw [added]
        simp [pending, goto, pc, SendPc.pending]
      · cases inserted
    · cases h
      exact .quiet rfl rfl (by simp [pending, goto, pc, SendPc.pending])
  | refund message =>
    simp only [step, pc] at h
    cases h
    refine ⟨_, Database.refunded_booked exists_wallet price a.ok c.keyRecord.customerId _, ?_⟩
    rw [requestsOf_congr (Database.refunded_rows w.db a.ok c.keyRecord.customerId _ _)]
    cases own : c.keyRecord.customerId == customerId <;> cases up : a.ok <;>
      simp [pending, forfeits, goto, pc, SendPc.pending, own, up, mul_add, add_comm]
  | answered reply writes =>
    have kept : c.forfeits env customerId w a = false := by simp only [forfeits, pc, Bool.and_false]
    rw [kept]
    cases writes with
    | nil => simp [step, pc] at h
    | cons first rest =>
      simp only [step, pc] at h
      cases h
      have untouched : (write w first).db.wallets = w.db.wallets ∧
          (write w first).db.otpRequests = w.db.otpRequests := by
        cases first with
        | message row => exact ⟨rfl, rfl⟩
        | idempotencyKey row =>
          unfold write Database.upsertIdempotencyKey
          dsimp only
          split <;> exact ⟨rfl, rfl⟩
      have idle : (c.goto (.answered reply rest)).pending customerId = c.pending customerId := by
        simp [pending, goto, pc, SendPc.pending]
      rw [idle]
      split
      · exact .quiet untouched.1 (requestsOf_congr untouched.2) rfl
      · exact .quiet rfl rfl rfl

/-- What no update changes of a row. -/
def OtpRequest.stub (r : OtpRequest) : Id × Id × JsString × JsString :=
  (r.id, r.customerId, r.requestId, r.phoneNumber)

/-- The row with the hash of its code. -/
def OtpRequest.coded (r : OtpRequest) : (Id × Id × JsString × JsString) × String := (r.stub, r.otpHash)

/-- The wallets stay, and the rows keep what `f` shows of them. -/
structure Unspent {β : Type} (f : OtpRequest → β) (w w' : World) : Prop where
  wallets : w'.db.wallets = w.db.wallets
  nextId : w'.nextId = w.nextId
  rows : w'.db.otpRequests.map f = w.db.otpRequests.map f

/-- Besides, nothing is handed to WhatsApp. -/
structure Silent {β : Type} (f : OtpRequest → β) (w w' : World) : Prop extends Unspent f w w' where
  metaCalls : w'.metaCalls = w.metaCalls

section Unspent

variable {β : Type} {f : OtpRequest → β}

theorem Unspent.refl (w : World) : Unspent f w w := ⟨rfl, rfl, rfl⟩

theorem Silent.refl (w : World) : Silent f w w := ⟨.refl w, rfl⟩

theorem Unspent.comp {γ : Type} (g : β → γ) (unspent : Unspent f w w') : Unspent (g ∘ f) w w' := by
  refine ⟨unspent.wallets, unspent.nextId, ?_⟩
  rw [← List.map_map, ← List.map_map, unspent.rows]

theorem Unspent.stubs (unspent : Unspent OtpRequest.coded w w') : Unspent OtpRequest.stub w w' :=
  unspent.comp Prod.fst

theorem Unspent.accounted (unspent : Unspent OtpRequest.stub w w') :
    Accounted env customerId w w' false false false [] := by
  have counted (rows : List OtpRequest) :
      rows.countP (·.customerId == customerId) = (rows.map (·.stub)).countP (·.2.1 == customerId) := by
    rw [List.countP_map]
    rfl
  refine .quiet unspent.wallets ?_ rfl
  rw [World.requestsOf, World.requestsOf, counted, counted, unspent.rows]

theorem Unspent.update {g : OtpRequest → OtpRequest} (id : Id) (same : ∀ r, f (g r) = f r) :
    Unspent f w { w with db := w.db.updateOtpRequest id g } := by
  refine ⟨rfl, rfl, ?_⟩
  rw [Database.updateOtpRequest, List.map_map]
  refine List.map_congr_left fun r _ => ?_
  simp only [Function.comp_apply]
  split
  · exact same r
  · rfl

theorem Silent.update {g : OtpRequest → OtpRequest} (id : Id) (same : ∀ r, f (g r) = f r) :
    Silent f w { w with db := w.db.updateOtpRequest id g } := ⟨.update id same, rfl⟩

end Unspent

theorem Silent.recordOtpAttempt (id : Id) :
    Silent OtpRequest.coded w { w with db := (w.db.recordOtpAttempt id).1 } := by
  unfold Database.recordOtpAttempt
  split
  · exact .refl w
  next req found =>
    dsimp only
    split <;> exact .update id fun _ => rfl

theorem VerifyCall.step_silent {c c' : VerifyCall} (h : c.step env w a = some (w', c')) :
    Silent OtpRequest.coded w w' := by
  cases pc : c.pc with
  | findRow =>
    simp only [step, pc] at h
    split at h
    · cases h
      exact .refl w
    · split at h
      · cases h
        exact .refl w
      · split at h <;> cases h <;> exact .refl w
  | expire otp =>
    simp only [step, pc] at h
    cases h
    split
    · exact .update otp.id fun _ => rfl
    · exact .refl w
  | recordAttempt otp =>
    have recorded : Silent OtpRequest.coded w { w with db :=
        (if a.ok then w.db.recordOtpAttempt otp.id else (w.db, .notFound)).1 } := by
      split
      · exact .recordOtpAttempt otp.id
      · exact .refl w
    simp only [step, pc] at h
    split at h <;> cases h <;> exact recorded
  | compare otp code attempts =>
    simp only [step, pc] at h
    split at h <;> cases h <;> exact .refl w
  | markVerified otp now =>
    simp only [step, pc] at h
    cases h
    split
    · exact .update otp.id fun _ => rfl
    · exact .refl w
  | answered reply => simp [step, pc] at h

theorem ResendCall.step_unspent {c c' : ResendCall} (h : c.step env w a = some (w', c')) :
    Unspent OtpRequest.stub w w' := by
  cases pc : c.pc with
  | findRow =>
    simp only [step, pc] at h
    split at h
    · cases h
      exact .refl w
    · split at h
      · cases h
        exact .refl w
      · split at h
        · cases h
          exact .refl w
        · split at h <;> cases h <;> exact .refl w
  | hash otp otpCode | dispatch otp otpCode otpHash expiresAt =>
    simp only [step, pc] at h
    cases h
    exact ⟨rfl, rfl, rfl⟩
  | update otp otpHash expiresAt =>
    simp only [step, pc] at h
    cases h
    split
    · exact .update otp.id fun _ => rfl
    · exact .refl w
  | answered reply => simp [step, pc] at h

/-- A report of a status gives back one credit, or spends nothing. -/
theorem WebhookCall.step_silent {c c' : WebhookCall} (h : c.step w a = some (w', c')) :
    Silent OtpRequest.coded w w' ∨ ∃ otp rest, c.pc = .refund otp rest := by
  cases pc : c.pc with
  | refund otp rest => exact Or.inr ⟨otp, rest, rfl⟩
  | updateOtp otp failed rest =>
    left
    simp only [step, pc] at h
    cases h
    split
    · exact .update otp.id fun _ => rfl
    · exact .refl w
  | updateMessage index msg status rest =>
    simp only [step, pc] at h
    split at h <;> cases h <;> exact Or.inl ⟨⟨rfl, rfl, rfl⟩, rfl⟩
  | logEvent messageId status rest =>
    simp only [step, pc] at h
    cases h
    exact Or.inl (.refl w)
  | findMessage messageId status rest =>
    simp only [step, pc] at h
    split at h <;> cases h <;> exact Or.inl (.refl w)
  | findOtp otpRequestId status rest =>
    simp only [step, pc] at h
    split at h
    · split at h
      · cases h
        exact Or.inl (.refl w)
      · split at h
        · cases h
          exact Or.inl (.refl w)
        · split at h <;> cases h <;> exact Or.inl (.refl w)
    · cases h
      exact Or.inl (.refl w)
  | answered reply => simp [step, pc] at h

theorem WebhookCall.step_accounted {c c' : WebhookCall}
    (exists_wallet : (w.db.wallets customerId).isSome = true) (h : c.step w a = some (w', c')) :
    Accounted env customerId w w' false false false ((Party.webhook c).returned customerId a) := by
  cases pc : c.pc with
  | refund otp rest =>
    simp only [step, pc] at h
    cases h
    have gain : (0 : ℚ) ≤ refundAmount := zero_le_one
    refine ⟨_, Database.refunded_booked exists_wallet gain a.ok otp.customerId _, ?_⟩
    rw [requestsOf_congr (Database.refunded_rows w.db a.ok otp.customerId _ _)]
    simp only [Party.returned, pc]
    cases a.ok && otp.customerId == customerId <;> simp
  | logEvent | findMessage | updateMessage | findOtp | updateOtp | answered =>
    have nothing : (Party.webhook c).returned customerId a = [] := by simp only [Party.returned, pc]
    rw [nothing]
    refine ((step_silent h).resolve_right ?_).stubs.accounted
    rintro ⟨otp, rest, refunds⟩
    rw [pc] at refunds
    cases refunds

theorem Thread.handler_idle (keyRecord : ApiKey) (request : Request) :
    (Party.call (handler keyRecord request)).pending customerId = false := by
  unfold handler of
  cases request.action with
  | send =>
    dsimp only
    split
    next c started =>
      simp only [Party.pending, SendCall.pending]
      rcases SendCall.start_pc started with ⟨key, pc⟩ | ⟨description, pc⟩ | pc <;>
        rw [pc, SendPc.pending, Bool.and_false]
    · rfl
  | verify | resend =>
    dsimp only
    split <;> rfl

theorem Thread.resume_accounted {t t' : Thread} (price : 0 ≤ env.otpCreditCost)
    (exists_wallet : (w.db.wallets customerId).isSome = true) (resumed : t.resume env w a = some (w', t')) :
    Accounted env customerId w w' ((Party.call t).pending customerId) ((Party.call t').pending customerId)
      ((Party.call t).forfeits env customerId w a) [] := by
  cases t with
  | authenticating apiKey request =>
    simp only [resume] at resumed
    split at resumed <;> cases resumed
    · rw [handler_idle]
      exact (Silent.refl w).accounted
    · exact (Silent.refl w).accounted
  | refused reply => cases resumed
  | send c =>
    obtain ⟨c', stepped, rfl⟩ := stepped_eq_some resumed
    exact SendCall.step_accounted price exists_wallet stepped
  | verify c =>
    obtain ⟨c', stepped, rfl⟩ := stepped_eq_some resumed
    exact (VerifyCall.step_silent stepped).stubs.accounted
  | resend c =>
    obtain ⟨c', stepped, rfl⟩ := stepped_eq_some resumed
    exact (ResendCall.step_unspent stepped).accounted

theorem Party.resume_accounted {t t' : Party} (price : 0 ≤ env.otpCreditCost)
    (exists_wallet : (w.db.wallets customerId).isSome = true) (resumed : t.resume env w a = some (w', t')) :
    Accounted env customerId w w' (t.pending customerId) (t'.pending customerId)
      (t.forfeits env customerId w a) (t.returned customerId a) := by
  cases t with
  | call t =>
    obtain ⟨⟨v, u⟩, called, same⟩ := Option.map_eq_some_iff.mp resumed
    cases same
    exact Thread.resume_accounted price exists_wallet called
  | webhook c =>
    obtain ⟨⟨v, c'⟩, stepped, same⟩ := Option.map_eq_some_iff.mp resumed
    cases same
    exact WebhookCall.step_accounted exists_wallet stepped

/-- What arrives has charged nothing. -/
theorem Party.external_unspent (customerId : Id) {event : PartyEvent} {born : List Party}
    (acted : Party.external w event = some (w', born)) :
    Silent OtpRequest.coded w w' ∧ total (fun t => (t.pending customerId).toNat) born = 0 := by
  cases event with
  | call event =>
    obtain ⟨⟨v, threads⟩, arrived, same⟩ := Option.map_eq_some_iff.mp acted
    cases same
    cases event with
    | tick d =>
      cases arrived
      exact ⟨⟨⟨rfl, rfl, rfl⟩, rfl⟩, rfl⟩
    | post request =>
      cases arrived
      refine ⟨.refl w, ?_⟩
      unfold Thread.start
      split <;> rfl
  | webhook payload =>
    cases acted
    exact ⟨.refl w, rfl⟩

end Steps

/-! ### Runs -/

/-- The wallet of the customer is what its entries since the opening lead to, and what has left it is the
price of the new requests, of the pending sends and of the lost charges, less what was returned. -/
def Reconciled (env : Env) (customerId : Id) (opening : Wallet) (requests : ℕ) (p : PartySystem)
    (returned : List ℚ) (lost : ℕ) : Prop :=
  ∃ wallet, p.shared.db.wallets customerId = some wallet ∧ LedTo opening wallet ∧
    opening.balance + returned.sum + env.otpCreditCost * requests = wallet.balance +
      env.otpCreditCost * (p.shared.requestsOf customerId + pendingOf customerId p + lost)

section Runs

variable {env : Env} {p q : PartySystem} {customerId : Id} {opening : Wallet} {requests : ℕ}

theorem Reconciled.step {returned : List ℚ} {lost : ℕ} {l : PartyLabel} (price : 0 ≤ env.otpCreditCost)
    (reconciled : Reconciled env customerId opening requests p returned lost)
    (taken : Pool.step (partyProgram env) p l = some q) :
    Reconciled env customerId opening requests q (returned ++ returnedTo customerId p l)
      (lost + if Forfeits env customerId p l then 1 else 0) := by
  obtain ⟨wallet, found, led, balanced⟩ := reconciled
  cases l with
  | resume i a =>
    obtain ⟨t, w', t', there, resumed, rfl⟩ := step_resume taken
    have exists_wallet : (p.shared.db.wallets customerId).isSome = true := by rw [found]; rfl
    obtain ⟨amount, booked, accounted⟩ := Party.resume_accounted price exists_wallet resumed
    have threads := total_set (m := fun t => (t.pending customerId).toNat) there t'
    have shown : returnedTo customerId p (.resume i a) = t.returned customerId a := by
      simp only [returnedTo, there, Option.map_some, Option.getD_some]
    have loss : (if Forfeits env customerId p (.resume i a) then 1 else 0) =
        (t.forfeits env customerId p.shared a).toNat := by
      have same : Forfeits env customerId p (.resume i a) ↔
          t.forfeits env customerId p.shared a = true := by
        simp [Forfeits, there]
      simp only [same]
      cases t.forfeits env customerId p.shared a <;> rfl
    rw [found] at booked
    obtain ⟨next, now, moved, led⟩ := led.booked booked
    refine ⟨next, now, led, ?_⟩
    rw [shown, loss, List.sum_append, moved]
    have threads : (pendingOf customerId ⟨w', p.threads.set i t'⟩ : ℚ) + (t.pending customerId).toNat =
        pendingOf customerId p + (t'.pending customerId).toNat := by exact_mod_cast threads
    push_cast
    linear_combination balanced - accounted - env.otpCreditCost * threads
  | external event =>
    obtain ⟨w', born, acted, rfl⟩ := step_external taken
    obtain ⟨unspent, idle⟩ := Party.external_unspent customerId acted
    have quiet : Accounted env customerId p.shared w' false false false [] :=
      unspent.stubs.accounted
    obtain ⟨amount, booked, accounted⟩ := quiet
    rw [found] at booked
    obtain ⟨next, now, moved, led⟩ := led.booked booked
    refine ⟨next, now, led, ?_⟩
    have none_lost : ¬Forfeits env customerId p (.external event) := id
    rw [returnedTo, List.append_nil, if_neg none_lost, moved, pendingOf, total_append, idle]
    simp only [Bool.toNat_false, Nat.cast_zero, add_zero, List.sum_nil] at accounted
    simp only [pendingOf] at balanced
    push_cast
    linear_combination balanced - accounted

/-- In any run of both Edge functions the wallet of a customer stays solvent, its new entries lead from
the opening balance to the balance, and what has left it is the price of the customer's new requests, of its
sends on their way and of the charges that were lost, less what reports of failures gave back. -/
theorem wallet_reconciles {labels : List PartyLabel} (price : 0 ≤ env.otpCreditCost)
    (opened : p.shared.db.wallets customerId = some opening) (solvent : 0 ≤ opening.balance)
    (idle : pendingOf customerId p = 0) (returned : run (step (partyProgram env)) p labels = some q) :
    Reconciled env customerId opening (p.shared.requestsOf customerId) q
      (observed (step (partyProgram env)) (returnedTo customerId) p labels)
      (tally (step (partyProgram env)) (Forfeits env customerId) p labels) := by
  have start : Reconciled env customerId opening (p.shared.requestsOf customerId) p [] 0 := by
    refine ⟨opening, opened, .refl solvent, ?_⟩
    rw [idle, List.sum_nil, Nat.cast_zero, add_zero, add_zero, add_zero]
  have always : Respects (step (partyProgram env)) (fun _ _ => True) p labels :=
    respects_of_forall (fun _ _ _ => trivial) p
  simpa using run_observed_tally (Reconciled env customerId opening (p.shared.requestsOf customerId))
    (fun s seen n l t reconciled _ taken => reconciled.step price taken) start always returned

/-- A send that is accepted and later reported failed, one without a code, and one on its way. -/
def threeSends : List PartyLabel :=
  let post (members : List (JsString × Json)) (uuid : ℕ) : PartyLabel :=
    .external (.call (.post ⟨.send, some "wotp_live_00", none, some (.object members),
      fun i => (i + 1).toUInt8, uuid⟩))
  let phone := (js "phone_number", Json.string (js "+4915112345678"))
  post [phone] 7 :: settle 0 6 ++ [.external (.webhook (statusPayload "wamid.1" "failed"))] ++ settle 1 6 ++
    post [phone, (js "length", .number "-1")] 8 :: settle 2 2 ++ post [phone] 9 :: settle 3 3

theorem wallet_reconciles_threeSends :
    ∃ q, run (step (partyProgram sampleEnv)) ⟨sampleSystem.shared, []⟩ threeSends = some q ∧
      (q.shared.db.wallets 1).map (·.balance) = some 98 ∧
      q.shared.requestsOf 1 = 1 ∧ pendingOf 1 q = 1 ∧
      Reconciled sampleEnv 1 ⟨100, []⟩ 0 q [1] 1 := by
  refine ⟨_, (Option.some_get (by decide +kernel)).symm, by decide +kernel, by decide +kernel,
    by decide +kernel, ?_⟩
  have reached : (run (step (partyProgram sampleEnv)) ⟨sampleSystem.shared, []⟩
    threeSends).isSome = true := by decide +kernel
  have price : 0 ≤ sampleEnv.otpCreditCost := zero_le_one
  have opened : sampleSystem.shared.db.wallets 1 = some ⟨100, []⟩ := rfl
  have shown : observed (step (partyProgram sampleEnv)) (returnedTo 1) ⟨sampleSystem.shared, []⟩
    threeSends = [1] := by decide +kernel
  have lost : tally (step (partyProgram sampleEnv)) (Forfeits sampleEnv 1) ⟨sampleSystem.shared, []⟩
    threeSends = 1 := by decide +kernel
  have reconciled := wallet_reconciles price opened (by decide) rfl (Option.some_get reached).symm
  rwa [shown, lost] at reconciled

end Runs

end SelfOtp.Edge
