import SelfOtp.Model.EdgeStatus
import SelfOtp.Properties.EdgeProvenance
import SelfOtp.Properties.EdgeRefund

/-! Whatever both Edge functions do for one customer leaves what another one has as it is. -/
namespace SelfOtp.Edge

open Pool Transition

/-! ### Whom a step is for -/

/-- The rows of `otp_requests` with their customers. -/
def Database.owners (db : Database) : List (Id × Id) := db.otpRequests.map fun r => (r.id, r.customerId)

/-- The customer whose data the next step may write: that of the API key or, when a status is reported,
that of the message or the request that was found. -/
def Party.actsFor : Party → Option Id
  | call (.send c) => some c.keyRecord.customerId
  | call (.verify c) => some c.customerId
  | call (.resend c) => some c.customerId
  | call _ => none
  | webhook c =>
    match c.pc with
    | .updateMessage _ msg _ _ => some msg.customerId
    | .updateOtp otp _ _ => some otp.customerId
    | .refund otp _ => some otp.customerId
    | _ => none

def ActsFor (customerId : Id) (p : PartySystem) : PartyLabel → Prop
  | .resume i _ => ∃ t ∈ p.threads[i]?, t.actsFor = some customerId
  | .external _ => False

instance (customerId : Id) : DecidableRel (ActsFor customerId)
  | p, .resume i _ => inferInstanceAs (Decidable (∃ t ∈ p.threads[i]?, t.actsFor = some customerId))
  | _, .external _ => isFalse id

/-! ### What a step writes -/

/-- The response that is kept is one of a send that has its row. -/
def IdempotencyKey.Names (w : World) (k : IdempotencyKey) : Prop :=
  k.responseCode = 200 ∧
    (k.responseBody.id, k.customerId, k.responseBody.requestId, k.responseBody.phoneNumber) ∈
      w.db.otpRequests.map (·.stub)

/-- One write to the data of `owner`, or none. -/
inductive Effect (owner : Option Id) (w w' : World) : Prop
  | same (db : w'.db = w.db) (nextId : w'.nextId = w.nextId)
  | wallet (customerId : Id) (wallet : Wallet) (own : owner = some customerId)
      (db : w'.db = w.db.setWallet customerId wallet) (nextId : w'.nextId = w.nextId)
  | insert (row : OtpRequest) (own : owner = some row.customerId) (fresh : row.id = w.nextId)
      (db : w'.db = { w.db with otpRequests := w.db.otpRequests ++ [row] })
      (nextId : w'.nextId = w.nextId + 1)
  | update (id customerId : Id) (f : OtpRequest → OtpRequest) (own : owner = some customerId)
      (there : (id, customerId) ∈ w.db.owners) (kept : ∀ r, (f r).stub = r.stub)
      (db : w'.db = w.db.updateOtpRequest id f) (nextId : w'.nextId = w.nextId)
  | message (row : Message) (own : owner = some row.customerId)
      (there : (row.otpRequestId, row.customerId) ∈ w.db.owners)
      (db : w'.db = { w.db with messages := w.db.messages ++ [row] }) (nextId : w'.nextId = w.nextId)
  | report (index : ℕ) (msg : Message) (status : MessageStatus) (own : owner = some msg.customerId)
      (found : w.db.messages[index]? = some msg)
      (db : w'.db = { w.db with
        messages := w.db.messages.modify index fun msg => { msg with status := status } })
      (nextId : w'.nextId = w.nextId)
  | cache (row : IdempotencyKey) (own : owner = some row.customerId) (names : row.Names w)
      (db : w'.db = w.db.upsertIdempotencyKey row) (nextId : w'.nextId = w.nextId)

/-- A message belongs to the customer of its request. -/
structure Coherent (w : World) : Prop where
  numbered : Numbered w
  messages : ∀ m ∈ w.db.messages, (m.otpRequestId, m.customerId) ∈ w.db.owners

/-- Rows and messages stay with their customers. -/
structure Grows (w w' : World) : Prop where
  stubs : Persists w w'
  messages : ∀ (i : ℕ) (m : Message), w.db.messages[i]? = some m →
    ∃ m', w'.db.messages[i]? = some m' ∧ m'.customerId = m.customerId

/-- What the customer has is as it was. -/
structure Spared (customerId : Id) (w w' : World) : Prop where
  apiKeys : w'.db.apiKeys = w.db.apiKeys
  wallet : w'.db.wallets customerId = w.db.wallets customerId
  rows : w'.db.otpRequests.filter (·.customerId == customerId) =
    w.db.otpRequests.filter (·.customerId == customerId)
  messages : w'.db.messages.filter (·.customerId == customerId) =
    w.db.messages.filter (·.customerId == customerId)
  idempotencyKeys : w'.db.idempotencyKeys.filter (·.customerId == customerId) =
    w.db.idempotencyKeys.filter (·.customerId == customerId)

section Effects

variable {w w' w'' : World} {owner : Option Id} {customerId : Id}

theorem Spared.refl (customerId : Id) (w : World) : Spared customerId w w := ⟨rfl, rfl, rfl, rfl, rfl⟩

theorem Spared.trans (first : Spared customerId w w') (second : Spared customerId w' w'') :
    Spared customerId w w'' :=
  ⟨second.apiKeys.trans first.apiKeys, second.wallet.trans first.wallet, second.rows.trans first.rows,
    second.messages.trans first.messages, second.idempotencyKeys.trans first.idempotencyKeys⟩

theorem Coherent.customer (coherent : Coherent w) {r : OtpRequest} (there : r ∈ w.db.otpRequests)
    (owned : (r.id, customerId) ∈ w.db.owners) : r.customerId = customerId := by
  obtain ⟨s, other, same⟩ := List.mem_map.mp owned
  rw [Prod.mk.injEq] at same
  rw [coherent.numbered.eq_of_id there other same.1.symm]
  exact same.2

/-! Elements without a property are added and changed, and stay without it. -/

theorem filter_concat_eq {α : Type} {holds : α → Bool} {xs : List α} {x : α} (lacks : holds x = false) :
    (xs ++ [x]).filter holds = xs.filter holds := by
  rw [List.filter_append, List.filter_cons_of_neg (by simp [lacks]), List.filter_nil, List.append_nil]

theorem filter_modify_eq {α : Type} {holds : α → Bool} {f : α → α} {xs : List α} {i : ℕ} {x : α}
    (found : xs[i]? = some x) (before : holds x = false) (after : holds (f x) = false) :
    (xs.modify i f).filter holds = xs.filter holds := by
  induction xs generalizing i with
  | nil => cases found
  | cons y ys ih =>
    cases i with
    | zero =>
      obtain rfl : y = x := by simpa using found
      simp [before, after]
    | succ i =>
      rw [List.modify_succ_cons, List.filter_cons, List.filter_cons, ih (by simpa using found)]

theorem filter_update_eq {α : Type} {holds : α → Bool} {changes : α → Prop} [DecidablePred changes]
    {f : α → α} {xs : List α} (before : ∀ x ∈ xs, changes x → holds x = false)
    (after : ∀ x, holds (f x) = holds x) :
    (xs.map fun x => if changes x then f x else x).filter holds = xs.filter holds := by
  induction xs with
  | nil => rfl
  | cons x xs ih =>
    have rest := ih fun y there => before y (List.mem_cons_of_mem x there)
    rw [List.map_cons, List.filter_cons, List.filter_cons, rest]
    split
    next changed => rw [after, before x List.mem_cons_self changed]; rfl
    next => rfl

theorem owners_eq (db : Database) : db.owners = (db.otpRequests.map (·.stub)).map fun s => (s.1, s.2.1) := by
  rw [Database.owners, List.map_map]
  rfl

theorem mem_owners {otp : OtpRequest} (there : otp.stub ∈ w.db.otpRequests.map (·.stub)) :
    (otp.id, otp.customerId) ∈ w.db.owners := by
  rw [owners_eq]
  exact List.mem_map_of_mem there

theorem Grows.owners (grows : Grows w w') : w.db.owners ⊆ w'.db.owners := by
  rw [owners_eq, owners_eq]
  exact List.map_subset _ grows.stubs

theorem upsertIdempotencyKey_cases (db : Database) (row : IdempotencyKey) :
    db.upsertIdempotencyKey row = { db with idempotencyKeys := db.idempotencyKeys ++ [row] } ∨
      db.upsertIdempotencyKey row = db := by
  unfold Database.upsertIdempotencyKey
  split
  · exact Or.inl rfl
  · exact Or.inr rfl

/-- What is written for one customer is nothing that another one has. -/
theorem Effect.spared (coherent : Coherent w) (effect : Effect owner w w') (other : owner ≠ some customerId) :
    Spared customerId w w' := by
  have apart {id : Id} (own : owner = some id) : (id == customerId) = false := by
    rw [beq_eq_false_iff_ne]
    rintro rfl
    exact other own
  cases effect with
  | same db => exact ⟨by rw [db], by rw [db], by rw [db], by rw [db], by rw [db]⟩
  | wallet id wallet own db =>
    refine ⟨by rw [db]; rfl, ?_, by rw [db]; rfl, by rw [db]; rfl, by rw [db]; rfl⟩
    rw [db]
    exact Function.update_of_ne (beq_eq_false_iff_ne.mp (apart own)).symm ..
  | insert row own fresh db =>
    refine ⟨by rw [db], by rw [db], ?_, by rw [db], by rw [db]⟩
    rw [db]
    dsimp only
    exact filter_concat_eq (apart own)
  | update id owning f own there kept db =>
    refine ⟨by rw [db]; rfl, by rw [db]; rfl, ?_, by rw [db]; rfl, by rw [db]; rfl⟩
    rw [db]
    dsimp only [Database.updateOtpRequest]
    -- the row with this id belongs to the customer that is written for
    have customer (r : OtpRequest) : (f r).customerId = r.customerId := congrArg (·.2.1) (kept r)
    refine filter_update_eq (fun r member here => ?_) fun r => by rw [customer]
    subst here
    rw [coherent.customer member there]
    exact apart own
  | message row own there db =>
    refine ⟨by rw [db], by rw [db], by rw [db], ?_, by rw [db]⟩
    rw [db]
    dsimp only
    exact filter_concat_eq (apart own)
  | report index msg status own found db =>
    refine ⟨by rw [db], by rw [db], by rw [db], ?_, by rw [db]⟩
    rw [db]
    exact filter_modify_eq found (apart own) (apart own)
  | cache row own names db =>
    rcases upsertIdempotencyKey_cases w.db row with added | refused
    · refine ⟨by rw [db, added], by rw [db, added], by rw [db, added], by rw [db, added], ?_⟩
      rw [db, added]
      dsimp only
      exact filter_concat_eq (apart own)
    · rw [refused] at db
      exact ⟨by rw [db], by rw [db], by rw [db], by rw [db], by rw [db]⟩

theorem Grows.of_same (rows : w'.db.otpRequests = w.db.otpRequests) (messages : w'.db.messages = w.db.messages) :
    Grows w w' := by
  refine ⟨fun stub there => ?_, fun i m found => ⟨m, by rw [messages]; exact found, rfl⟩⟩
  rwa [rows]

theorem Effect.grows (effect : Effect owner w w') : Grows w w' := by
  cases effect with
  | same db => exact .of_same (by rw [db]) (by rw [db])
  | wallet id wallet own db => exact .of_same (by rw [db]; rfl) (by rw [db]; rfl)
  | insert row own fresh db =>
    refine ⟨fun stub there => ?_, fun i m found => ⟨m, by rw [db]; exact found, rfl⟩⟩
    rw [db, List.map_append]
    exact List.mem_append_left _ there
  | update id customerId f own there kept db nextId =>
    refine ⟨fun stub there => ?_, fun i m found => ⟨m, by rw [db]; exact found, rfl⟩⟩
    rw [db]
    exact (Unspent.update id kept).persists stub there
  | message row own there db =>
    refine ⟨fun stub there => by rwa [db], fun i m found => ⟨m, ?_, rfl⟩⟩
    rw [db]
    exact List.getElem?_append_left (List.getElem?_eq_some_iff.mp found).1 ▸ found
  | report index msg status own found db =>
    refine ⟨fun stub there => by rwa [db], fun i m there => ?_⟩
    rw [db]
    by_cases same : index = i
    · exact ⟨{ m with status := status }, by simp [same, there], rfl⟩
    · exact ⟨m, by simp [same, there], rfl⟩
  | cache row own names db =>
    rcases upsertIdempotencyKey_cases w.db row with added | refused
    · exact .of_same (by rw [db, added]) (by rw [db, added])
    · exact .of_same (by rw [db, refused]) (by rw [db, refused])

theorem Coherent.of_same (coherent : Coherent w) (rows : w'.db.otpRequests = w.db.otpRequests)
    (nextId : w'.nextId = w.nextId)
    (messages : ∀ m ∈ w'.db.messages, (m.otpRequestId, m.customerId) ∈ w.db.owners) : Coherent w' := by
  refine ⟨coherent.numbered.of_ids (by rw [rows]) nextId, ?_⟩
  rw [Database.owners, rows]
  exact messages

theorem Effect.coherent (coherent : Coherent w) (effect : Effect owner w w') : Coherent w' := by
  cases effect with
  | same db nextId =>
    exact coherent.of_same (by rw [db]) nextId (by rw [db]; exact coherent.messages)
  | wallet id wallet own db nextId =>
    exact coherent.of_same (by rw [db]; rfl) nextId (by rw [db]; exact coherent.messages)
  | insert row own fresh db nextId =>
    refine ⟨coherent.numbered.insert fresh (by rw [db]) nextId, fun m there => ?_⟩
    rw [db] at there ⊢
    rw [Database.owners, List.map_append]
    exact List.mem_append_left _ (coherent.messages m there)
  | update id customerId f own owned kept db nextId =>
    have unspent : Unspent OtpRequest.stub w { w with db := w.db.updateOtpRequest id f } := .update id kept
    refine ⟨coherent.numbered.of_ids (by rw [db]; exact unspent.ids) nextId, fun m there => ?_⟩
    rw [db] at there ⊢
    rw [owners_eq, show (w.db.updateOtpRequest id f).otpRequests.map (·.stub) =
      w.db.otpRequests.map (·.stub) from unspent.rows, ← owners_eq]
    exact coherent.messages m there
  | message row own linked db nextId =>
    refine coherent.of_same (by rw [db]) nextId fun m there => ?_
    rw [db] at there
    rcases List.mem_append.mp there with old | added
    · exact coherent.messages m old
    · rw [List.mem_singleton.mp added]
      exact linked
  | report index msg status own found db nextId =>
    refine coherent.of_same (by rw [db]) nextId fun m there => ?_
    rw [db] at there
    obtain ⟨i, at_i⟩ := List.mem_iff_getElem?.mp there
    rw [List.getElem?_modify] at at_i
    obtain ⟨old, listed, rfl⟩ := Option.map_eq_some_iff.mp at_i
    have linked := coherent.messages old (List.mem_of_getElem? listed)
    split <;> exact linked
  | cache row own names db nextId =>
    rcases upsertIdempotencyKey_cases w.db row with added | refused
    · exact coherent.of_same (by rw [db, added]) nextId (by rw [db, added]; exact coherent.messages)
    · exact coherent.of_same (by rw [db, refused]) nextId (by rw [db, refused]; exact coherent.messages)

end Effects

/-! ### What a call holds -/

/-- A write of the customer's send. -/
def Write.Own (w : World) (customerId : Id) : Write → Prop
  | message row => row.customerId = customerId ∧ (row.otpRequestId, row.customerId) ∈ w.db.owners
  | idempotencyKey row => row.customerId = customerId ∧ row.Names w

/-- The row that was read is one of the customer. -/
def ReadFor (w : World) (customerId : Id) (row : Option OtpRequest) : Prop :=
  ∀ otp ∈ row, otp.customerId = customerId ∧ otp.stub ∈ w.db.otpRequests.map (·.stub)

def Party.Own (w : World) : Party → Prop
  | call (.send c) =>
    match c.pc with
    | .answered _ writes => ∀ write ∈ writes, write.Own w c.keyRecord.customerId
    | _ => True
  | call (.verify c) => ReadFor w c.customerId c.pc.row
  | call (.resend c) => ReadFor w c.customerId c.pc.row
  | call _ => True
  | webhook c =>
    match c.pc with
    | .updateMessage index msg _ _ => ∃ m, w.db.messages[index]? = some m ∧ m.customerId = msg.customerId
    | .updateOtp otp _ _ => (otp.id, otp.customerId) ∈ w.db.owners
    | _ => True

section Calls

variable {env : Env} {w w' : World} {a : Answer} {customerId : Id}

theorem Write.Own.mono {write : Write} (own : write.Own w customerId) (grows : Grows w w') :
    write.Own w' customerId := by
  cases write with
  | message row => exact ⟨own.1, grows.owners own.2⟩
  | idempotencyKey row => exact ⟨own.1, own.2.1, grows.stubs _ own.2.2⟩

theorem ReadFor.mono {row : Option OtpRequest} (read : ReadFor w customerId row) (grows : Grows w w') :
    ReadFor w' customerId row := fun otp held => ⟨(read otp held).1, grows.stubs _ (read otp held).2⟩

theorem ReadFor.owner {row : Option OtpRequest} {otp : OtpRequest} (read : ReadFor w customerId row)
    (held : row = some otp) : (otp.id, customerId) ∈ w.db.owners := by
  obtain ⟨own, there⟩ := read otp held
  exact own ▸ mem_owners there

theorem Party.Own.mono {t : Party} (own : t.Own w) (grows : Grows w w') : t.Own w' := by
  cases t with
  | call t =>
    cases t with
    | authenticating apiKey request => trivial
    | refused reply => trivial
    | send c =>
      simp only [Own] at own ⊢
      split
      next reply writes pc =>
        rw [pc] at own
        exact fun write there => (own write there).mono grows
      · trivial
    | verify c => exact ReadFor.mono own grows
    | resend c => exact ReadFor.mono own grows
  | webhook c =>
    simp only [Own] at own ⊢
    split
    next index msg status rest pc =>
      rw [pc] at own
      obtain ⟨m, found, same⟩ := own
      obtain ⟨m', found', same'⟩ := grows.messages index m found
      exact ⟨m', found', same'.trans same⟩
    next otp failed rest pc =>
      rw [pc] at own
      exact grows.owners own
    · trivial

/-- The look-up finds a row of the customer. -/
theorem readFor_of_found {requestId : JsString} {otp : OtpRequest}
    (found : single (w.db.findOtpRequests customerId requestId) = some otp) :
    ReadFor w customerId (some otp) := by
  intro held same
  cases same
  obtain ⟨there, matching⟩ := List.mem_filter.mp (mem_of_single found)
  rw [Bool.and_eq_true] at matching
  exact ⟨beq_iff_eq.mp matching.1, List.mem_map_of_mem there⟩

theorem Database.deductWalletCredit_setWallet {db db' : Database} {amount balance : ℚ}
    {reference : Option String} {description : JsString}
    (success : db.deductWalletCredit customerId amount reference description = some (db', .success balance)) :
    ∃ wallet, db' = db.setWallet customerId wallet := by
  unfold deductWalletCredit at success
  split at success
  · cases success
  · split at success <;> cases success
    exact ⟨_, rfl⟩

theorem Database.refundWalletCredit_setWallet {db db' : Database} {amount balance : ℚ}
    {reference : Option String} {description : JsString}
    (refunded : db.refundWalletCredit customerId amount reference description = some (db', balance)) :
    ∃ wallet, db' = db.setWallet customerId wallet := by
  unfold refundWalletCredit at refunded
  split at refunded <;> cases refunded
  exact ⟨_, rfl⟩

theorem Effect.row {id : Id} {f : OtpRequest → OtpRequest} (there : (id, customerId) ∈ w.db.owners)
    (kept : ∀ r, (f r).stub = r.stub) :
    Effect (some customerId) w { w with db := w.db.updateOtpRequest id f } :=
  .update id customerId f rfl there kept rfl rfl

/-- A refund writes the wallet, or nothing. -/
theorem Effect.refund {db : Database} {amount : ℚ} {description : JsString}
    (called : db = match (if a.ok then w.db.refundWalletCredit customerId amount none description else none) with
      | some (db, _) => db
      | none => w.db) :
    Effect (some customerId) w { w with db := db } := by
  subst called
  split
  next refunded =>
    split at refunded
    · obtain ⟨wallet, rfl⟩ := Database.refundWalletCredit_setWallet refunded
      exact .wallet customerId wallet rfl rfl rfl
    · cases refunded
  · exact .same rfl rfl

theorem own_answered (c : SendCall) (reply : Reply) :
    (Party.call (.send (c.goto (.answered reply [])))).Own w := by
  intro write there
  cases there

theorem own_describe (c : SendCall) (phoneNumber : Json) :
    (Party.call (.send (c.goto (SendCall.describe phoneNumber)))).Own w := by
  rcases SendCall.describe_cases phoneNumber with ⟨description, charges⟩ | crashes
  · rw [charges]
    trivial
  · rw [crashes]
    exact own_answered c .crashed

theorem SendCall.step_effect {c c' : SendCall} (own : (Party.call (.send c)).Own w)
    (h : c.step env w a = some (w', c')) :
    Effect (some c.keyRecord.customerId) w w' ∧ (Party.call (.send c')).Own w' := by
  cases pc : c.pc with
  | lookup key =>
    simp only [step, pc] at h
    split at h
    · split at h <;> cases h
      · exact ⟨.same rfl rfl, own_answered c _⟩
      · exact ⟨.same rfl rfl, own_describe c _⟩
    · cases h
      exact ⟨.same rfl rfl, own_describe c _⟩
  | deduct description =>
    simp only [step, pc] at h
    split at h
    · cases h
      exact ⟨.same rfl rfl, own_answered c _⟩
    · cases h
      exact ⟨.same rfl rfl, own_answered c _⟩
    next db balance success =>
      obtain ⟨wallet, rfl⟩ : ∃ wallet, db = w.db.setWallet c.keyRecord.customerId wallet := by
        split at success
        · exact Database.deductWalletCredit_setWallet success
        · cases success
      split at h <;> cases h
      · exact ⟨.wallet _ wallet rfl rfl rfl, trivial⟩
      · exact ⟨.wallet _ wallet rfl rfl rfl, own_answered c _⟩
  | hash otpCode | dispatch otpCode d =>
    simp only [step, pc] at h
    cases h
    exact ⟨.same rfl rfl, trivial⟩
  | insert d metaResult =>
    simp only [step, pc] at h
    split at h
    next db inserted =>
      cases h
      split at inserted
      · unfold Database.insertOtpRequest at inserted
        split at inserted <;> cases inserted
        refine ⟨.insert (c.row w d metaResult) rfl rfl rfl rfl, fun write there => ?_⟩
        -- the message that is written next is one of the row that is inserted here
        rcases List.mem_append.mp there with message | cached
        · split at message
          · cases message
          · rw [List.mem_singleton.mp message]
            refine ⟨rfl, ?_⟩
            rw [Database.owners, List.map_append]
            exact List.mem_append_right _ (List.mem_singleton_self _)
        · split at cached
          · rw [List.mem_singleton.mp cached]
            refine ⟨rfl, rfl, ?_⟩
            rw [List.map_append]
            exact List.mem_append_right _ (List.mem_singleton_self _)
          · cases cached
      · cases inserted
    · cases h
      exact ⟨.same rfl rfl, trivial⟩
  | refund message =>
    simp only [step, pc] at h
    cases h
    exact ⟨.refund rfl, own_answered c _⟩
  | answered reply writes =>
    cases writes with
    | nil => simp [step, pc] at h
    | cons first rest =>
      simp only [step, pc] at h
      cases h
      simp only [Party.Own, pc] at own
      have now := own first List.mem_cons_self
      have effect : Effect (some c.keyRecord.customerId) w (if a.ok = true then write w first else w) := by
        split
        · cases first with
          | message row => exact .message row (congrArg some now.1.symm) now.2 rfl rfl
          | idempotencyKey row => exact .cache row (congrArg some now.1.symm) now.2 rfl rfl
        · exact .same rfl rfl
      refine ⟨effect, fun write there => ?_⟩
      exact (own write (List.mem_cons_of_mem first there)).mono effect.grows

theorem VerifyCall.step_effect {c c' : VerifyCall} (own : ReadFor w c.customerId c.pc.row)
    (h : c.step env w a = some (w', c')) : Effect (some c.customerId) w w' := by
  cases pc : c.pc with
  | findRow =>
    simp only [step, pc] at h
    split at h
    · cases h
      exact .same rfl rfl
    · split at h
      · cases h
        exact .same rfl rfl
      · split at h <;> cases h <;> exact .same rfl rfl
  | expire otp =>
    rw [pc] at own
    simp only [step, pc] at h
    cases h
    split
    · exact .row (own.owner rfl) fun _ => rfl
    · exact .same rfl rfl
  | recordAttempt otp =>
    rw [pc] at own
    have recorded : Effect (some c.customerId) w { w with db :=
        (if a.ok then w.db.recordOtpAttempt otp.id else (w.db, .notFound)).1 } := by
      split
      · unfold Database.recordOtpAttempt
        split
        · exact .same rfl rfl
        · dsimp only
          split <;> exact .row (own.owner rfl) fun _ => rfl
      · exact .same rfl rfl
    simp only [step, pc] at h
    split at h <;> cases h <;> exact recorded
  | compare otp code attempts =>
    simp only [step, pc] at h
    split at h <;> cases h <;> exact .same rfl rfl
  | markVerified otp now =>
    rw [pc] at own
    simp only [step, pc] at h
    cases h
    split
    · exact .row (own.owner rfl) fun _ => rfl
    · exact .same rfl rfl
  | answered reply => simp [step, pc] at h

theorem VerifyCall.step_own {c c' : VerifyCall} (own : ReadFor w c.customerId c.pc.row)
    (h : c.step env w a = some (w', c')) : ReadFor w c'.customerId c'.pc.row := by
  obtain ⟨move, same⟩ := step_move h
  rw [same]
  simp only [goto]
  generalize c.pc = pc at move own
  generalize c'.pc = pc' at move ⊢
  cases move with
  | lapse otp found | read otp found => exact readFor_of_found found
  | count otp | agree otp => exact own
  | missing | used | expire | exceed | crash | differ | mark =>
    intro held there
    cases there

theorem ResendCall.step_effect {c c' : ResendCall} (own : ReadFor w c.customerId c.pc.row)
    (h : c.step env w a = some (w', c')) : Effect (some c.customerId) w w' := by
  cases pc : c.pc with
  | findRow =>
    simp only [step, pc] at h
    split at h
    · cases h
      exact .same rfl rfl
    · split at h
      · cases h
        exact .same rfl rfl
      · split at h
        · cases h
          exact .same rfl rfl
        · split at h <;> cases h <;> exact .same rfl rfl
  | hash otp otpCode | dispatch otp otpCode otpHash expiresAt =>
    simp only [step, pc] at h
    cases h
    exact .same rfl rfl
  | update otp otpHash expiresAt =>
    rw [pc] at own
    simp only [step, pc] at h
    cases h
    split
    · exact .row (own.owner rfl) fun _ => rfl
    · exact .same rfl rfl
  | answered reply => simp [step, pc] at h

theorem ResendCall.step_own {c c' : ResendCall} (own : ReadFor w c.customerId c.pc.row)
    (h : c.step env w a = some (w', c')) : ReadFor w c'.customerId c'.pc.row := by
  obtain ⟨move, same⟩ := step_move h
  rw [same]
  simp only [goto]
  generalize c.pc = pc at move own
  generalize c'.pc = pc' at move ⊢
  cases move with
  | read otp otpCode found => exact readFor_of_found found
  | hash otp | dispatch otp => exact own
  | missing | used | wait | crash | update =>
    intro held there
    cases there

theorem proceed_own (w v : World) (rest : Updates) : (Party.webhook ⟨WebhookCall.proceed v rest⟩).Own w := by
  rcases WebhookCall.proceed_cases v rest with ⟨messageId, status, later, goes_on⟩ | ⟨reply, ends⟩
  · rw [goes_on]
    trivial
  · rw [ends]
    trivial

theorem WebhookCall.step_effect {c c' : WebhookCall} (own : (Party.webhook c).Own w)
    (h : c.step w a = some (w', c')) :
    Effect (Party.webhook c).actsFor w w' ∧ (Party.webhook c').Own w' := by
  obtain ⟨pc⟩ := c
  cases pc with
  | logEvent messageId status rest =>
    simp only [step] at h
    cases h
    exact ⟨.same rfl rfl, trivial⟩
  | findMessage messageId status rest =>
    simp only [step] at h
    split at h <;> cases h
    next msg index found =>
      have there := (List.mem_filter.mp (mem_of_single (lookup_cases found))).1
      exact ⟨.same rfl rfl, msg, List.mem_zipIdx_iff_getElem?.mp there, rfl⟩
    · exact ⟨.same rfl rfl, proceed_own w w rest⟩
  | updateMessage index msg status rest =>
    obtain ⟨m, found, same⟩ := own
    simp only [step] at h
    split at h <;> cases h
    next newStatus _ =>
      exact ⟨.report index m newStatus (congrArg some same.symm) found rfl rfl, trivial⟩
    · exact ⟨.same rfl rfl, trivial⟩
  | findOtp otpRequestId status rest =>
    simp only [step] at h
    split at h
    next otp found =>
      have there := (List.mem_filter.mp (mem_of_single (lookup_cases found))).1
      have owned : (otp.id, otp.customerId) ∈ w.db.owners := List.mem_map_of_mem there
      split at h
      · cases h
        exact ⟨.same rfl rfl, proceed_own w w rest⟩
      · split at h
        · cases h
          exact ⟨.same rfl rfl, owned⟩
        · split at h <;> cases h
          · exact ⟨.same rfl rfl, owned⟩
          · exact ⟨.same rfl rfl, proceed_own w w rest⟩
    · cases h
      exact ⟨.same rfl rfl, proceed_own w w rest⟩
  | updateOtp otp failed rest =>
    simp only [step] at h
    cases h
    constructor
    · split
      · exact .row own fun _ => rfl
      · exact .same rfl rfl
    · cases failed with
      | true => trivial
      | false => exact proceed_own _ _ rest
  | refund otp rest =>
    simp only [step] at h
    cases h
    exact ⟨.refund rfl, proceed_own _ _ rest⟩
  | answered reply => cases h

theorem Thread.handler_own (keyRecord : ApiKey) (request : Request) :
    (Party.call (handler keyRecord request)).Own w := by
  unfold handler of
  cases request.action with
  | send =>
    dsimp only
    split
    next c started =>
      simp only [Party.Own]
      rcases SendCall.start_pc started with ⟨key, pc⟩ | ⟨description, pc⟩ | pc
      · rw [pc]
        trivial
      · rw [pc]
        trivial
      · rw [pc]
        intro write there
        cases there
    · trivial
  | verify =>
    dsimp only
    split
    next c started =>
      intro otp held
      rw [VerifyCall.start_pc started] at held
      cases held
    · trivial
  | resend =>
    dsimp only
    split
    next c started =>
      intro otp held
      rw [ResendCall.start_pc started] at held
      cases held
    · trivial

/-- A step writes for one customer at most. -/
theorem Party.resume_effect {t t' : Party} (own : t.Own w) (resumed : t.resume env w a = some (w', t')) :
    Effect t.actsFor w w' ∧ t'.Own w' := by
  cases t with
  | webhook c =>
    obtain ⟨⟨v, c'⟩, stepped, same⟩ := Option.map_eq_some_iff.mp resumed
    cases same
    exact WebhookCall.step_effect own stepped
  | call t =>
    obtain ⟨⟨v, u⟩, called, same⟩ := Option.map_eq_some_iff.mp resumed
    cases same
    cases t with
    | authenticating apiKey request =>
      simp only [Thread.resume] at called
      split at called <;> cases called
      · exact ⟨.same rfl rfl, Thread.handler_own _ request⟩
      · exact ⟨.same rfl rfl, trivial⟩
    | refused reply => cases called
    | send c =>
      obtain ⟨c', stepped, rfl⟩ := Thread.stepped_eq_some called
      exact SendCall.step_effect own stepped
    | verify c =>
      obtain ⟨c', stepped, rfl⟩ := Thread.stepped_eq_some called
      have effect := VerifyCall.step_effect own stepped
      exact ⟨effect, (VerifyCall.step_own own stepped).mono effect.grows⟩
    | resend c =>
      obtain ⟨c', stepped, rfl⟩ := Thread.stepped_eq_some called
      have effect := ResendCall.step_effect own stepped
      exact ⟨effect, (ResendCall.step_own own stepped).mono effect.grows⟩

/-- What arrives writes nothing, and has read nothing. -/
theorem Party.external_own {event : PartyEvent} {born : List Party}
    (acted : Party.external w event = some (w', born)) :
    w'.db = w.db ∧ w'.nextId = w.nextId ∧ ∀ t ∈ born, t.Own w' := by
  cases event with
  | call event =>
    obtain ⟨⟨v, threads⟩, arrived, same⟩ := Option.map_eq_some_iff.mp acted
    cases same
    have arrival := Thread.external_cases arrived
    refine ⟨arrival.db, arrival.nextId, fun t there => ?_⟩
    obtain ⟨u, among, rfl⟩ := List.mem_map.mp there
    obtain ⟨request, rfl⟩ := arrival.born u among
    unfold Thread.start
    split <;> trivial
  | webhook payload =>
    cases acted
    refine ⟨rfl, rfl, fun t there => ?_⟩
    rw [List.mem_singleton.mp there]
    exact proceed_own w w _

end Calls

/-! ### Runs -/

section Runs

variable {env : Env} {p s q : PartySystem} {customerId : Id}

/-- The tables fit together, and each party holds what is its customer's. -/
structure Orderly (p : PartySystem) : Prop where
  coherent : Coherent p.shared
  threads : ∀ t ∈ p.threads, t.Own p.shared

/-- Nothing has been requested yet. -/
theorem Orderly.unused (idle : p.threads = []) (empty : p.shared.db.otpRequests = [])
    (unsent : p.shared.db.messages = []) : Orderly p := by
  refine ⟨⟨⟨?_, ?_⟩, ?_⟩, ?_⟩
  · simp [empty]
  · simp [empty]
  · simp [unsent]
  · simp [idle]

theorem Orderly.step {l : PartyLabel} (orderly : Orderly p) (customerId : Id)
    (taken : Pool.step (partyProgram env) p l = some q) :
    Orderly q ∧ (¬ActsFor customerId p l → Spared customerId p.shared q.shared) := by
  cases l with
  | resume i a =>
    obtain ⟨t, w', t', there, resumed, rfl⟩ := step_resume taken
    obtain ⟨effect, next⟩ := Party.resume_effect (orderly.threads t (List.mem_of_getElem? there)) resumed
    refine ⟨⟨effect.coherent orderly.coherent, fun u among => ?_⟩, fun others => ?_⟩
    · rcases mem_set_cases among with rfl | ⟨j, -, other⟩
      · exact next
      · exact (orderly.threads u (List.mem_of_getElem? other)).mono effect.grows
    · exact effect.spared orderly.coherent fun acts => others ⟨t, there, acts⟩
  | external event =>
    obtain ⟨w', born, acted, rfl⟩ := step_external taken
    obtain ⟨db, nextId, arrived⟩ := Party.external_own acted
    have effect : Effect none p.shared w' := .same db nextId
    refine ⟨⟨effect.coherent orderly.coherent, fun u among => ?_⟩, fun _ => ?_⟩
    · rcases List.mem_append.mp among with old | new
      · exact (orderly.threads u old).mono effect.grows
      · exact arrived u new
    · exact effect.spared orderly.coherent fun acts => (by cases acts)

/-- The customer's data is as it was, and `GET /status` answers its keys as before. -/
structure Undisturbed (customerId : Id) (w w' : World) : Prop where
  spared : Spared customerId w w'
  answers : ∀ (keyRecord : ApiKey) (parameter : Option JsString) (action : JsString) (ok : Bool),
    keyRecord.customerId = customerId →
      statusAnswer w' keyRecord parameter action ok = statusAnswer w keyRecord parameter action ok

theorem Spared.undisturbed {w w' : World} (spared : Spared customerId w w') : Undisturbed customerId w w' := by
  refine ⟨spared, fun keyRecord parameter action ok own => ?_⟩
  have found (requestId : JsString) : w'.db.findOtpRequests keyRecord.customerId requestId =
      w.db.findOtpRequests keyRecord.customerId requestId := by
    have chosen (db : Database) : db.findOtpRequests keyRecord.customerId requestId =
        (db.otpRequests.filter (·.customerId == customerId)).filter fun r =>
          r.requestId == requestId || Database.isId requestId r.id := by
      rw [Database.findOtpRequests, List.filter_filter, own]
      exact List.filter_congr fun r _ => Bool.and_comm _ _
    rw [chosen, chosen, spared.rows]
  unfold statusAnswer
  split
  · rfl
  · rw [found]

/-- From any state that both Edge functions can reach, whatever runs for others leaves what a customer
has, and sees of it, as it is. -/
theorem customers_undisturbed {earlier later : List PartyLabel} (idle : p.threads = [])
    (empty : p.shared.db.otpRequests = []) (unsent : p.shared.db.messages = [])
    (reached : run (step (partyProgram env)) p earlier = some s)
    (others : Respects (step (partyProgram env)) (fun s l => ¬ActsFor customerId s l) s later)
    (returned : run (step (partyProgram env)) s later = some q) :
    Undisturbed customerId s.shared q.shared := by
  have start : Orderly p := .unused idle empty unsent
  have orderly : Orderly s := run_invariant Orderly
    (fun _ _ _ orderly taken => (orderly.step customerId taken).1) start reached
  have kept := run_invariant_of_respects (fun t => Orderly t ∧ Spared customerId s.shared t.shared)
    (fun _ _ _ kept others taken => by
      obtain ⟨next, spared⟩ := kept.1.step customerId taken
      exact ⟨next, kept.2.trans (spared others)⟩)
    ⟨orderly, .refl customerId s.shared⟩ others returned
  exact kept.2.undisturbed

/-- Two customers with a key and a wallet each. -/
def twoCustomers : PartySystem :=
  let w := sampleSystem.shared
  ⟨{ w with db := { w.db with
      apiKeys := w.db.apiKeys ++ [⟨6, 4, 5, "wotp_live_01:pepper", .active, none⟩]
      wallets := Function.update w.db.wallets 4 (some ⟨100, []⟩) } }, []⟩

def postWith (apiKey : String) (action : Action) (members : List (JsString × Json)) (uuid : ℕ) : PartyLabel :=
  .external (.call (.post
    ⟨action, some apiKey, none, some (.object members), fun i => (i + 1).toUInt8, uuid⟩))

/-- The first customer sends. -/
def firstSends : List PartyLabel :=
  postWith "wotp_live_00" .send [(js "phone_number", .string (js "+4915112345678"))] 7 :: settle 0 6

/-- The second one sends to the same number, and tries the code of the first one's request. -/
def secondFollows : List PartyLabel :=
  postWith "wotp_live_01" .send [(js "phone_number", .string (js "+4915112345678"))] 8 :: settle 1 6 ++
    postWith "wotp_live_01" .verify [(js "request_id", .string (newRequestId 7)),
      (js "code", .string (js "123456"))] 0 :: settle 2 2

theorem customers_undisturbed_secondFollows :
    ∃ s q, run (step (partyProgram sampleEnv)) twoCustomers firstSends = some s ∧
      run (step (partyProgram sampleEnv)) s secondFollows = some q ∧
      q.shared.db.otpRequests.map (·.customerId) = [1, 4] ∧ Undisturbed 1 s.shared q.shared := by
  refine ⟨_, _, (Option.some_get (by decide +kernel)).symm, (Option.some_get (by decide +kernel)).symm,
    by decide +kernel, ?_⟩
  exact @customers_undisturbed sampleEnv twoCustomers _ _ 1 firstSends secondFollows rfl rfl rfl
    (Option.some_get (by decide +kernel)).symm (by decide +kernel) (Option.some_get (by decide +kernel)).symm

end Runs

end SelfOtp.Edge
