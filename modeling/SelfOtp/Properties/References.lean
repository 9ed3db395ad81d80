import SelfOtp.Lib.References
import SelfOtp.Properties.Accounts
import SelfOtp.Properties.MessageMoves

/-! The references between the tables, which the database keeps by foreign keys and the code by never entering
what refers to nothing. -/
namespace SelfOtp

open Pool Transition

/-! ### Rows and what they refer to -/

inductive Ref where
  | customer (id : Id)
  | user (id : Id)
  | application (id : Id)
  | apiKey (id : Id)
  | otpRequest (id : Id)
  | message (id : Id)
  deriving DecidableEq

def CustomerUser.refs (link : CustomerUser) : List Ref := [.customer link.customerId, .user link.userId]

def Application.refs (app : Application) : List Ref := [.customer app.customerId]

def ApiKey.refs (key : ApiKey) : List Ref := [.customer key.customerId, .application key.applicationId]

def OtpRequest.refs (r : OtpRequest) : List Ref :=
  .customer r.customerId :: .application r.applicationId :: r.apiKeyId.toList.map .apiKey

def OtpVerification.refs (v : OtpVerification) : List Ref := [.otpRequest v.otpRequestId]

def Message.refs (m : Message) : List Ref := .customer m.customerId :: m.otpRequestId.toList.map .otpRequest

def MessageEvent.refs (e : MessageEvent) : List Ref := [.message e.messageId]

def IdempotencyKey.refs (i : IdempotencyKey) : List Ref :=
  [.customer i.customerId, .application i.applicationId]

def Database.rows (db : Database) : List Ref :=
  db.customers.map (.customer ·.id) ++ (db.users.map (.user ·.id) ++
    (db.applications.map (.application ·.id) ++ (db.apiKeys.map (.apiKey ·.id) ++
      (db.otpRequests.map (.otpRequest ·.id) ++ db.messages.map (.message ·.id)))))

/-- No reference is to a row that is not there. -/
structure Intact (db : Database) : Prop where
  customerUsers : Closed CustomerUser.refs db.rows db.customerUsers
  applications : Closed Application.refs db.rows db.applications
  apiKeys : Closed ApiKey.refs db.rows db.apiKeys
  otpRequests : Closed OtpRequest.refs db.rows db.otpRequests
  otpVerifications : Closed OtpVerification.refs db.rows db.otpVerifications
  messages : Closed Message.refs db.rows db.messages
  messageEvents : Closed MessageEvent.refs db.rows db.messageEvents
  idempotencyKeys : Closed IdempotencyKey.refs db.rows db.idempotencyKeys

section Rows

variable {db : Database} {id : Id}

@[simp] theorem customer_mem_rows : Ref.customer id ∈ db.rows ↔ ∃ c ∈ db.customers, c.id = id := by
  simp [Database.rows]

@[simp] theorem user_mem_rows : Ref.user id ∈ db.rows ↔ ∃ u ∈ db.users, u.id = id := by
  simp [Database.rows]

@[simp] theorem application_mem_rows : Ref.application id ∈ db.rows ↔ ∃ a ∈ db.applications, a.id = id := by
  simp [Database.rows]

@[simp] theorem apiKey_mem_rows : Ref.apiKey id ∈ db.rows ↔ ∃ k ∈ db.apiKeys, k.id = id := by
  simp [Database.rows]

@[simp] theorem otpRequest_mem_rows : Ref.otpRequest id ∈ db.rows ↔ ∃ r ∈ db.otpRequests, r.id = id := by
  simp [Database.rows]

@[simp] theorem message_mem_rows : Ref.message id ∈ db.rows ↔ ∃ m ∈ db.messages, m.id = id := by
  simp [Database.rows]

end Rows

/-! ### Changes that enter or edit rows -/

/-- Nothing is deleted, and what is entered refers to rows that are there. -/
structure Enters (db db' : Database) : Prop where
  rows : db.rows ⊆ db'.rows
  customerUsers : Carries CustomerUser.refs db'.rows db.customerUsers db'.customerUsers
  applications : Carries Application.refs db'.rows db.applications db'.applications
  apiKeys : Carries ApiKey.refs db'.rows db.apiKeys db'.apiKeys
  otpRequests : Carries OtpRequest.refs db'.rows db.otpRequests db'.otpRequests
  otpVerifications : Carries OtpVerification.refs db'.rows db.otpVerifications db'.otpVerifications
  messages : Carries Message.refs db'.rows db.messages db'.messages
  messageEvents : Carries MessageEvent.refs db'.rows db.messageEvents db'.messageEvents
  idempotencyKeys : Carries IdempotencyKey.refs db'.rows db.idempotencyKeys db'.idempotencyKeys

section Enters

variable {db db' : Database}

theorem Enters.intact (enters : Enters db db') (intact : Intact db) : Intact db' where
  customerUsers := enters.customerUsers.closed intact.customerUsers enters.rows
  applications := enters.applications.closed intact.applications enters.rows
  apiKeys := enters.apiKeys.closed intact.apiKeys enters.rows
  otpRequests := enters.otpRequests.closed intact.otpRequests enters.rows
  otpVerifications := enters.otpVerifications.closed intact.otpVerifications enters.rows
  messages := enters.messages.closed intact.messages enters.rows
  messageEvents := enters.messageEvents.closed intact.messageEvents enters.rows
  idempotencyKeys := enters.idempotencyKeys.closed intact.idempotencyKeys enters.rows

theorem Enters.refl (db : Database) : Enters db db :=
  ⟨List.Subset.refl _, .same rfl, .same rfl, .same rfl, .same rfl, .same rfl, .same rfl, .same rfl, .same rfl⟩

theorem Enters.trans {db'' : Database} (first : Enters db db') (second : Enters db' db'') : Enters db db'' where
  rows := List.Subset.trans first.rows second.rows
  customerUsers := first.customerUsers.trans second.customerUsers second.rows
  applications := first.applications.trans second.applications second.rows
  apiKeys := first.apiKeys.trans second.apiKeys second.rows
  otpRequests := first.otpRequests.trans second.otpRequests second.rows
  otpVerifications := first.otpVerifications.trans second.otpVerifications second.rows
  messages := first.messages.trans second.messages second.rows
  messageEvents := first.messageEvents.trans second.messageEvents second.rows
  idempotencyKeys := first.idempotencyKeys.trans second.idempotencyKeys second.rows

theorem Enters.of_eq (same : db' = db) : Enters db db' := same ▸ .refl db

theorem Enters.setWallet (customerId : Id) (wallet : Wallet) : Enters db (db.setWallet customerId wallet) :=
  ⟨List.Subset.refl _, .same rfl, .same rfl, .same rfl, .same rfl, .same rfl, .same rfl, .same rfl, .same rfl⟩

theorem Enters.updateOtpRequest (id : Id) {f : OtpRequest → OtpRequest}
    (keeps : ∀ r, (f r).id = r.id ∧ (f r).refs = r.refs) : Enters db (db.updateOtpRequest id f) := by
  refine ⟨?_, .same rfl, .same rfl, .same rfl, .map fun r _ => ?_, .same rfl, .same rfl, .same rfl, .same rfl⟩
  · have ids := db.map_updateOtpRequest (fun r => Ref.otpRequest r.id) id f
      fun r => congrArg Ref.otpRequest (keeps r).1
    have same : (db.updateOtpRequest id f).rows = db.rows := by
      unfold Database.rows
      rw [ids]
      rfl
    rw [same]
    exact List.Subset.refl _
  · split
    · exact (keeps r).2
    · rfl

theorem Enters.setStatus (id : Id) (status : OtpStatus) : Enters db (db.setStatus id status) :=
  .updateOtpRequest id fun _ => ⟨rfl, rfl⟩

theorem rows_append_otpRequest (row : OtpRequest) :
    db.rows ⊆ { db with otpRequests := db.otpRequests ++ [row] }.rows := by
  intro r there
  simp only [Database.rows, List.map_append, List.mem_append] at there ⊢
  tauto

theorem Enters.createOtpRequest {row : OtpRequest} (created : db.createOtpRequest row = some db') :
    Enters db db' := by
  unfold Database.createOtpRequest at created
  split at created <;> cases created
  next guards =>
    obtain ⟨-, customer, application, apiKey⟩ := guards
    have grown : db.rows ⊆ { db with otpRequests := db.otpRequests ++ [row] }.rows :=
      rows_append_otpRequest row
    refine ⟨grown, .same rfl, .same rfl, .same rfl, .append ?_, .same rfl, .same rfl, .same rfl, .same rfl⟩
    intro r refers
    apply grown
    simp only [OtpRequest.refs, List.mem_cons, List.mem_map, Option.mem_toList] at refers
    rcases refers with rfl | rfl | ⟨id, known, rfl⟩
    · exact customer_mem_rows.mpr customer
    · exact application_mem_rows.mpr application
    · exact apiKey_mem_rows.mpr (apiKey id known)

theorem Enters.createVerification {row : OtpVerification}
    (known : ∃ r ∈ db.otpRequests, r.id = row.otpRequestId) : Enters db (db.createVerification row) := by
  refine ⟨List.Subset.refl _, .same rfl, .same rfl, .same rfl, .same rfl, .append ?_, .same rfl, .same rfl,
    .same rfl⟩
  intro r refers
  rw [List.mem_singleton.mp refers]
  exact otpRequest_mem_rows.mpr known

theorem Enters.createMessage {row : Message} (valid : row.refs ⊆ db.rows) :
    Enters db { db with messages := db.messages ++ [row] } := by
  have grown : db.rows ⊆ { db with messages := db.messages ++ [row] }.rows := by
    intro r there
    simp only [Database.rows, List.map_append, List.mem_append] at there ⊢
    tauto
  exact ⟨grown, .same rfl, .same rfl, .same rfl, .same rfl, .same rfl, .append (List.Subset.trans valid grown),
    .same rfl, .same rfl⟩

theorem Enters.updateMessages {f : Message → Message} (keeps : ∀ m, (f m).id = m.id ∧ (f m).refs = m.refs) :
    Enters db { db with messages := db.messages.map f } := by
  have same : { db with messages := db.messages.map f }.rows = db.rows := by
    simp only [Database.rows, List.map_map, Function.comp_def, keeps]
  refine ⟨?_, .same rfl, .same rfl, .same rfl, .same rfl, .same rfl, .map fun m _ => (keeps m).2, .same rfl,
    .same rfl⟩
  rw [same]
  exact List.Subset.refl _

theorem Enters.createEvent {row : MessageEvent} (known : ∃ m ∈ db.messages, m.id = row.messageId) :
    Enters db { db with messageEvents := db.messageEvents ++ [row] } := by
  refine ⟨List.Subset.refl _, .same rfl, .same rfl, .same rfl, .same rfl, .same rfl, .same rfl, .append ?_,
    .same rfl⟩
  intro r refers
  rw [List.mem_singleton.mp refers]
  exact message_mem_rows.mpr known

end Enters

/-! ### Calls -/

section Calls

variable {env : Env} {w w' : World} {a : Answer} {ok : Bool}

theorem Enters.recordResponse {row : IdempotencyKey} : Enters w.db (recordResponse w row ok).db := by
  unfold SelfOtp.recordResponse
  split
  next guards =>
    obtain ⟨-, -, -, application, customer⟩ := guards
    refine ⟨List.Subset.refl _, .same rfl, .same rfl, .same rfl, .same rfl, .same rfl, .same rfl, .same rfl,
      .append ?_⟩
    intro r refers
    simp only [IdempotencyKey.refs, List.mem_cons, List.not_mem_nil, or_false] at refers
    rcases refers with rfl | rfl
    · exact customer_mem_rows.mpr customer
    · exact application_mem_rows.mpr application
  · exact .refl w.db

theorem Enters.of_storeOtp {process : ℕ} {key : OtpKey} {data : StoredOtp} {ttlSeconds : ℚ} :
    Enters w.db (storeOtp w process key data ttlSeconds ok).db := by
  unfold storeOtp
  split <;> exact .of_eq rfl

theorem SendCall.step_enters {c c' : SendCall} (h : c.step env w a = some (w', c')) : Enters w.db w'.db := by
  have move := (step_move h).1
  generalize c.pc = pc at move
  generalize c'.pc = pc' at move
  cases move with
  | refuse before same | check before same | setCooldown d same => exact .of_eq same.db
  | create otpCode requestId expiresAt db created => exact .createOtpRequest created
  | debit d balance wallet paid | refund d reason balance wallet paid => exact .setWallet _ wallet
  | store d => exact .of_storeOtp
  | markSent d => exact .setStatus d.record .sent
  | markFailed d reason => exact .setStatus d.record .failed
  | saveCache d key =>
    unfold cacheResponse
    dsimp only
    split <;> exact .of_eq rfl
  | saveRecord d key => exact .recordResponse
  | _ => exact .of_eq rfl

theorem ResendCall.step_enters {c c' : ResendCall} (h : c.step env w a = some (w', c')) : Enters w.db w'.db := by
  have move := (step_move h).1
  generalize c.pc = pc at move
  generalize c'.pc = pc' at move
  cases move with
  | setCooldown d same => exact .of_eq same.db
  | expire record => exact .setStatus record .expired
  | debit d balance wallet paid => exact .setWallet _ wallet
  | update d => exact .updateOtpRequest d.record.id fun _ => ⟨rfl, rfl⟩
  | store d => exact .of_storeOtp
  | markSent d => exact .setStatus d.record.id .sent
  | _ => exact .of_eq rfl

/-- A verification is entered for the row that the call has found. -/
theorem VerifyCall.step_enters {c c' : VerifyCall} (linked : c.Linked env w)
    (h : c.step env w ok = some (w', c')) : Enters w.db w'.db := by
  cases pc : c.pc with
  | lookup =>
    simp only [step, pc] at h
    split at h <;> cases h <;> exact .of_eq rfl
  | findRecord f =>
    simp only [step, pc] at h
    split at h
    · split at h <;> cases h
      · exact .of_eq rfl
      · unfold mutate
        split <;> exact .of_eq rfl
    · cases h
      exact .of_eq rfl
  | incorrectVerification f record | correctVerification f record verifiedTime =>
    have known : ∃ r ∈ w.db.otpRequests, r.id = record := by
      obtain ⟨r, there, same, -⟩ := linked.record f (by simp only [pc, VerifyPc.held, Option.mem_some_iff])
        record (by simp only [pc, VerifyPc.record, Option.mem_some_iff])
      exact ⟨r, there, same⟩
    simp only [step, pc] at h
    split at h <;> cases h
    · exact .createVerification known
    · exact .of_eq rfl
  | maxBlock f =>
    simp only [step, pc] at h
    cases h
    exact .of_eq (blockPhoneNumber_sameCore ..).db
  | maxDelete f =>
    simp only [step, pc] at h
    cases h
    cases ok <;> exact .of_eq rfl
  | delete f record =>
    simp only [step, pc] at h
    cases record <;> cases h <;> cases ok <;> exact .of_eq rfl
  | incorrectAttempts | maxStatus | verifiedStatus =>
    simp only [step, pc] at h
    split at h <;> cases h
    · exact .updateOtpRequest _ fun _ => ⟨rfl, rfl⟩
    · exact .of_eq rfl
  | ttl | writeBack =>
    simp only [step, pc] at h
    split at h <;> cases h <;> exact .of_eq rfl
  | verified | rejected | internalError => simp [step, pc] at h

theorem StatusCall.step_enters {c c' : StatusCall} (h : c.step w ok = some (w', c')) : Enters w.db w'.db := by
  cases pc : c.pc with
  | findRecord =>
    simp only [step, pc] at h
    split at h
    · split at h
      · cases h
        exact .of_eq rfl
      · split at h <;> cases h <;> exact .of_eq rfl
    · cases h
      exact .of_eq rfl
  | expire record =>
    simp only [step, pc] at h
    split at h <;> cases h
    · exact .setStatus record.id .expired
    · exact .of_eq rfl
  | answered | rejected | internalError => simp [step, pc] at h

end Calls

/-! ### What a request or a job refers to -/

def SendOtpJobData.refs (data : SendOtpJobData) : List Ref :=
  [.customer data.customerId, .otpRequest data.otpRequestDbId]

/-- The messages that a job has created or found are in its stage. -/
def Thread.refs : Thread → List Ref
  | authenticating _ c => c.session.toList.map fun s => .customer s.customer.id
  | send c => [.customer c.customer.id]
  | resend c => [.customer c.customer.id]
  | sendOtpJob c => c.job.data.refs
  | verify .. | status .. | dashboard _ | register _ | webhook _ => []

def MessageStage.message : MessageStage → Option Id
  | entering message _ | found _ _ message | recording _ _ message => some message
  | away | sending | holding .. | lookingUp .. | settled .. => none

/-- What a thread refers to is there. -/
structure Thread.Based (w : World) (t : Thread) : Prop where
  refs : t.refs ⊆ w.db.rows
  message : ∀ message ∈ t.stage.message, .message message ∈ w.db.rows

section Jobs

variable {w w' : World} {a : Answer} {ok : Bool}

theorem MessageStage.message_of_idle {stage : MessageStage} (idle : stage.idle = true) :
    stage.message = none := by
  cases stage <;> first | rfl | cases idle

theorem MessageStage.Move.message {j j' : Journal} {stage stage' : MessageStage}
    (move : stage.Move j a j' stage') (before : ∀ m ∈ stage.message, ∃ row ∈ j.rows, row.1 = m) :
    ∀ m ∈ stage'.message, ∃ row ∈ j'.rows, row.1 = m := by
  intro m known
  cases move with
  | leave idle | enter message type idle =>
    rw [message_of_idle idle] at known
    cases known
  | create wamid type =>
    cases known
    exact ⟨_, List.mem_append_right _ (List.mem_singleton_self _), rfl⟩
  | find wamid type message ok row =>
    cases known
    exact ⟨_, row, rfl⟩
  | new | update => exact before m known
  | sent | miss | known | record | stay => cases known

theorem journal_mem_rows {message : Id} :
    (∃ row ∈ w.journal.rows, row.1 = message) ↔ Ref.message message ∈ w.db.rows := by
  simp [World.journal]

theorem JobCall.step_enters {c c' : JobCall} (based : (Thread.sendOtpJob c).Based w)
    (h : c.step w a = some (w', c')) : Enters w.db w'.db := by
  have granted {reason : String} {v : World} (paid : refunded w c reason = .ok v) : Enters w.db v.db := by
    unfold refunded at paid
    split at paid <;> cases paid
    exact .setWallet ..
  cases pc : c.pc with
  | createMessage res =>
    simp only [step, pc] at h
    split at h <;> cases h
    · exact .createMessage based.refs
    · exact .of_eq rfl
  | createEvent res message =>
    have known := message_mem_rows.mp (based.message message (by simp only [Thread.stage, pc]; rfl))
    simp only [step, pc] at h
    split at h
    · split at h
      · cases h
        exact .createEvent known
      · split at h <;> cases h <;> exact .createEvent known
    · cases h
      exact .of_eq rfl
  | refund res =>
    simp only [step, pc] at h
    split at h
    · split at h <;> cases h
      next paid => exact granted paid
      · exact .of_eq rfl
    · cases h
      exact .of_eq rfl
  | exhaustedRefund error =>
    simp only [step, pc] at h
    cases h
    split
    · split
      next paid => exact granted paid
      · exact .of_eq rfl
    · exact .of_eq rfl
  | exhaustedMark error =>
    simp only [step, pc] at h
    cases h
    split
    · exact .setStatus ..
    · exact .of_eq rfl
  | exhaustedDeadLetter error =>
    simp only [step, pc] at h
    cases h
    split <;> exact .of_eq rfl
  | markSent | markFailed =>
    simp only [step, pc] at h
    split at h <;> cases h
    · exact .setStatus ..
    · exact .of_eq rfl
  | send | deadLetter =>
    simp only [step, pc] at h
    split at h <;> cases h <;> exact .of_eq rfl
  | completed | failed => simp [step, pc] at h

theorem WebhookCall.step_enters {c c' : WebhookCall} (based : (Thread.webhook c).Based w)
    (h : c.step w ok = some (w', c')) : Enters w.db w'.db := by
  cases pc : c.pc with
  | findMessage | findEvent =>
    simp only [step, pc] at h
    split at h
    · split at h <;> cases h <;> exact .of_eq rfl
    · cases h
      exact .of_eq rfl
  | findOtpRequest record =>
    simp only [step, pc] at h
    split at h
    · split at h
      · split at h
        · cases h
          exact .of_eq rfl
        · split at h <;> cases h <;> exact .of_eq rfl
      · cases h
        exact .of_eq rfl
    · cases h
      exact .of_eq rfl
  | updateOtpRequest record status =>
    simp only [step, pc] at h
    split at h <;> cases h
    · exact .setStatus ..
    · exact .of_eq rfl
  | updateMessage m =>
    simp only [step, pc] at h
    split at h <;> cases h
    · refine .updateMessages fun r => ?_
      split <;> exact ⟨rfl, rfl⟩
    · exact .of_eq rfl
  | createEvent m =>
    have known := message_mem_rows.mp (based.message m.id (by simp only [Thread.stage, stage, pc]; rfl))
    simp only [step, pc] at h
    split at h <;> cases h
    · exact .createEvent known
    · exact .of_eq rfl
  | markProcessed =>
    simp only [step, pc] at h
    cases h
    split
    · exact ⟨List.Subset.refl _, .same rfl, .same rfl, .same rfl, .same rfl, .same rfl, .same rfl, .same rfl,
        .same rfl⟩
    · exact .of_eq rfl
  | finished | threw => simp [step, pc] at h

end Jobs

/-! ### Requests to the dashboard -/

/-- Applications and API keys can be deleted. -/
def Ref.lasting : Ref → Bool
  | application _ | apiKey _ => false
  | customer _ | user _ | otpRequest _ | message _ => true

structure Keeps (db db' : Database) : Prop where
  lasting : ∀ r ∈ db.rows, r.lasting = true → r ∈ db'.rows
  intact : Intact db → Intact db'

section Dashboard

variable {env : Env} {w w' : World} {ok : Bool} {db db' : Database}

theorem Enters.keeps (enters : Enters db db') : Keeps db db' :=
  ⟨fun _ there _ => enters.rows there, enters.intact⟩

theorem Enters.createApplication {row : Application} (created : db.createApplication row = some db') :
    Enters db db' := by
  unfold Database.createApplication at created
  split at created <;> cases created
  next guards =>
    have grown : db.rows ⊆ { db with applications := db.applications ++ [row] }.rows := by
      intro r there
      simp only [Database.rows, List.map_append, List.mem_append] at there ⊢
      tauto
    refine ⟨grown, .same rfl, .append ?_, .same rfl, .same rfl, .same rfl, .same rfl, .same rfl, .same rfl⟩
    intro r refers
    rw [List.mem_singleton.mp refers]
    exact customer_mem_rows.mpr guards.2

theorem Enters.createApiKey {row : ApiKey} (created : db.createApiKey row = some db') : Enters db db' := by
  unfold Database.createApiKey at created
  split at created <;> cases created
  next guards =>
    obtain ⟨-, customer, application⟩ := guards
    have grown : db.rows ⊆ { db with apiKeys := db.apiKeys ++ [row] }.rows := by
      intro r there
      simp only [Database.rows, List.map_append, List.mem_append] at there ⊢
      tauto
    refine ⟨grown, .same rfl, .same rfl, .append ?_, .same rfl, .same rfl, .same rfl, .same rfl, .same rfl⟩
    intro r refers
    apply grown
    simp only [ApiKey.refs, List.mem_cons, List.not_mem_nil, or_false] at refers
    rcases refers with rfl | rfl
    · exact customer_mem_rows.mpr customer
    · exact application_mem_rows.mpr application

theorem Enters.revokeApiKey (id : Id) : Enters db (db.revokeApiKey id) := by
  have same : (db.revokeApiKey id).rows = db.rows := by
    unfold Database.rows Database.revokeApiKey
    simp only [List.map_map]
    congr 4
    refine List.map_congr_left fun k _ => ?_
    rw [Function.comp_apply]
    split <;> rfl
  refine ⟨?_, .same rfl, .same rfl, .map fun k _ => ?_, .same rfl, .same rfl, .same rfl, .same rfl, .same rfl⟩
  · rw [same]
    exact List.Subset.refl _
  · split <;> rfl

/-- Tables that refer to no application and to no key are not concerned. -/
theorem Closed.of_lasting {α : Type} {refs : α → List Ref} {table : List α} (closed : Closed refs db.rows table)
    (lasting : ∀ r ∈ db.rows, r.lasting = true → r ∈ db'.rows)
    (kinds : ∀ x, ∀ r ∈ refs x, r.lasting = true) : Closed refs db'.rows table :=
  fun x member r refers => lasting r (closed x member refers) (kinds x r refers)

/-- Whatever refers to the application or to one of its keys either goes with it or prevents the deletion. -/
theorem Keeps.deleteApplication {id : Id} (deleted : db.deleteApplication id = some db') : Keeps db db' := by
  unfold Database.deleteApplication at deleted
  split at deleted <;> cases deleted
  next guards =>
    obtain ⟨-, requests, keys, records⟩ := guards
    set rest : Database := { db with
      applications := db.applications.filter (·.id ≠ id)
      apiKeys := db.apiKeys.filter (·.applicationId ≠ id) } with defined
    have lasting : ∀ r ∈ db.rows, r.lasting = true → r ∈ rest.rows := by
      intro r there lasting
      cases r with
      | application | apiKey => cases lasting
      | customer | user | otpRequest | message => simpa [defined] using there
    have application {other : Id} (there : Ref.application other ∈ db.rows) (apart : other ≠ id) :
        Ref.application other ∈ rest.rows := by
      obtain ⟨a, member, rfl⟩ := application_mem_rows.mp there
      exact application_mem_rows.mpr ⟨a, List.mem_filter.mpr ⟨member, decide_eq_true apart⟩, rfl⟩
    refine ⟨lasting, fun intact => ⟨?_, ?_, ?_, ?_, ?_, ?_, ?_, ?_⟩⟩
    · exact intact.customerUsers.of_lasting lasting (by simp [CustomerUser.refs, Ref.lasting])
    · have kept := intact.applications.of_lasting lasting (by simp [Application.refs, Ref.lasting])
      exact fun a member => kept a (List.mem_of_mem_filter member)
    · intro k member r refers
      obtain ⟨old, apart⟩ := List.mem_filter.mp member
      have there := intact.apiKeys k old refers
      simp only [ApiKey.refs, List.mem_cons, List.not_mem_nil, or_false] at refers
      rcases refers with rfl | rfl
      · exact lasting _ there rfl
      · exact application there (of_decide_eq_true apart)
    · intro request member r refers
      have there := intact.otpRequests request member refers
      simp only [OtpRequest.refs, List.mem_cons, List.mem_map, Option.mem_toList] at refers
      rcases refers with rfl | rfl | ⟨keyId, named, rfl⟩
      · exact lasting _ there rfl
      · exact application there (requests request member)
      -- the key is of another application, and stays
      · obtain ⟨k, old, rfl⟩ := apiKey_mem_rows.mp there
        have apart : k.applicationId ≠ id := fun of_app => keys k old of_app request member named
        exact apiKey_mem_rows.mpr ⟨k, List.mem_filter.mpr ⟨old, decide_eq_true apart⟩, rfl⟩
    · exact intact.otpVerifications.of_lasting lasting (by simp [OtpVerification.refs, Ref.lasting])
    · exact intact.messages.of_lasting lasting (by simp [Message.refs, Ref.lasting])
    · exact intact.messageEvents.of_lasting lasting (by simp [MessageEvent.refs, Ref.lasting])
    · intro i member r refers
      have there := intact.idempotencyKeys i member refers
      simp only [IdempotencyKey.refs, List.mem_cons, List.not_mem_nil, or_false] at refers
      rcases refers with rfl | rfl
      · exact lasting _ there rfl
      · exact application there (records i member)

theorem DashboardCall.handle_enters (c : DashboardCall) (customer : Customer) :
    Enters w.db (c.handle env w customer).1.db := by
  cases request : c.request with
  | createApplication name =>
    simp only [handle, request]
    split
    next db created => exact .createApplication created
    · exact .of_eq rfl
  | createApiKey applicationId name rawSecret =>
    simp only [handle, request]
    split
    next db created => exact .createApiKey created
    · exact .of_eq rfl
  | topup amount referenceId =>
    simp only [handle, request]
    split
    · exact .setWallet ..
    · exact .of_eq rfl
    · exact .of_eq rfl
  | account accountRequest =>
    cases accountRequest <;> simp only [handle, request]
    · exact .setWallet ..
    · exact .setWallet ..
    · exact .of_eq rfl
  | transactions =>
    simp only [handle, request]
    exact .setWallet ..
  | getApplication | deleteApplication | revokeApiKey =>
    simp only [handle, request]
    split <;> exact .of_eq rfl
  | listApplications | listApiKeys =>
    simp only [handle, request]
    exact .of_eq rfl

theorem DashboardCall.step_keeps {c c' : DashboardCall} (h : c.step env w ok = some (w', c')) :
    Keeps w.db w'.db := by
  cases pc : c.pc with
  | authenticate sub jwt =>
    simp only [step, pc] at h
    split at h <;> cases h <;> exact (Enters.of_eq rfl).keeps
  | handle customer =>
    simp only [step, pc] at h
    split at h
    · have handled : Enters w.db (c.handle env w customer).1.db := c.handle_enters customer
      rw [Option.some.inj h] at handled
      exact handled.keeps
    · cases h
      exact (Enters.of_eq rfl).keeps
  | deleteApplication customer app =>
    simp only [step, pc] at h
    split at h <;> cases h
    next deleted =>
      split at deleted
      · exact .deleteApplication deleted
      · cases deleted
    · exact (Enters.of_eq rfl).keeps
  | revokeApiKey customer apiKey =>
    simp only [step, pc] at h
    split at h <;> cases h
    · exact (Enters.revokeApiKey apiKey.id).keeps
    · exact (Enters.of_eq rfl).keeps
  | readWallet customer newBalance =>
    simp only [step, pc] at h
    split at h <;> cases h
    · exact (Enters.setWallet ..).keeps
    · exact (Enters.of_eq rfl).keeps
  | readTransactions | countVerified | countFailed =>
    simp only [step, pc] at h
    split at h <;> cases h <;> exact (Enters.of_eq rfl).keeps
  | answered | rejected | internalError => simp [step, pc] at h

/-- The rows of an account refer to each other. -/
theorem RegisterCall.create_enters {c : RegisterCall} (created : c.create w = some w') : Enters w.db w'.db := by
  unfold create at created
  dsimp only at created
  split at created
  · obtain ⟨db, application, rfl⟩ := Option.map_eq_some_iff.mp created
    refine Enters.trans ?_ ((Enters.createApplication application).trans (.setWallet ..))
    have grown : w.db.rows ⊆ { w.db with
        customers := w.db.customers ++ [(c.account w).customer]
        users := w.db.users ++ [(c.account w).user]
        customerUsers := w.db.customerUsers ++ [(c.account w).link] : Database }.rows := by
      intro r there
      simp only [Database.rows, List.map_append, List.mem_append] at there ⊢
      tauto
    refine ⟨grown, .append ?_, .same rfl, .same rfl, .same rfl, .same rfl, .same rfl, .same rfl, .same rfl⟩
    intro r refers
    simp only [CustomerUser.refs, List.mem_cons, List.not_mem_nil, or_false] at refers
    rcases refers with rfl | rfl
    · exact customer_mem_rows.mpr ⟨_, List.mem_append_right _ (List.mem_singleton_self _), rfl⟩
    · exact user_mem_rows.mpr ⟨_, List.mem_append_right _ (List.mem_singleton_self _), rfl⟩
  · cases created

theorem RegisterCall.step_enters {c c' : RegisterCall} (h : c.step w ok = some (w', c')) :
    Enters w.db w'.db := by
  cases pc : c.pc with
  | findUser =>
    simp only [step, pc] at h
    split at h
    · split at h <;> cases h <;> exact .of_eq rfl
    · cases h
      exact .of_eq rfl
  | create =>
    simp only [step, pc] at h
    split at h <;> cases h
    next created =>
      split at created
      · exact create_enters created
      · cases created
    · exact .of_eq rfl
  | registered | rejected | internalError => simp [step, pc] at h

end Dashboard

/-! ### Runs -/

section Runs

variable {env : Env} {p q : System} {w w' : World} {a : Answer} {t t' : Thread}

/-- A job that is queued is for the request and the customer of its dispatch. -/
theorem Thread.enqueues_refs (linked : t.Linked env w) (based : t.Based w) {data : SendOtpJobData}
    (queues : t.enqueues env = some data) : data.refs ⊆ w.db.rows := by
  intro r refers
  simp only [SendOtpJobData.refs, List.mem_cons, List.not_mem_nil, or_false] at refers
  cases t with
  | send c =>
    simp only [enqueues] at queues
    split at queues <;> cases queues
    next d pc =>
      obtain ⟨row, there, same, -⟩ := linked d (by simp only [pc, SendPc.dispatch, Option.mem_some_iff])
      rcases refers with rfl | rfl
      · exact based.refs (List.mem_singleton_self _)
      · exact otpRequest_mem_rows.mpr ⟨row, there, same⟩
  | resend c =>
    simp only [enqueues] at queues
    split at queues <;> cases queues
    next d pc =>
      obtain ⟨-, row, there, same⟩ := linked.1 d.record (by simp only [pc, ResendPc.record, Option.mem_some_iff])
      rcases refers with rfl | rfl
      · exact based.refs (List.mem_singleton_self _)
      · exact otpRequest_mem_rows.mpr ⟨row, there, same.id⟩
  | authenticating | verify | status | dashboard | register | sendOtpJob | webhook => cases queues

theorem Database.findApiKey_customer {db : Database} {keyHash : String} {apiKey : ApiKey}
    {application : Application} {customer : Customer}
    (found : db.findApiKey keyHash = some (apiKey, application, customer)) :
    Ref.customer customer.id ∈ db.rows := by
  simp only [findApiKey, findCustomer, bind, pure, Option.bind_eq_some_iff, Option.some.injEq,
    Prod.mk.injEq] at found
  obtain ⟨k, -, a, -, c, member, -, -, rfl⟩ := found
  exact customer_mem_rows.mpr ⟨c, List.mem_of_find?_eq_some member, rfl⟩

theorem Thread.handler_refs (s : Session) (request : ApiRequest) :
    (handler s request).refs ⊆ [.customer s.customer.id] := by
  unfold handler
  split <;> simp [refs]

/-- What a step does to the tables, and what it leaves the thread referring to. -/
theorem Thread.resume_keeps (linked : t.Linked env w) (based : t.Based w)
    (h : Thread.resume env w t a = some (w', t')) :
    Keeps w.db w'.db ∧ ∀ r ∈ t'.refs, r.lasting = true ∧ r ∈ w.db.rows := by
  have lasting {customerId : Id} {rows : List Ref} (known : [.customer customerId] ⊆ rows) :
      ∀ r ∈ [Ref.customer customerId], r.lasting = true ∧ r ∈ rows := by
    intro r refers
    have there := known refers
    rw [List.mem_singleton.mp refers] at there ⊢
    exact ⟨rfl, there⟩
  cases t with
  | authenticating request c =>
    simp only [resume] at h
    obtain ⟨c', stepped, rfl⟩ := stepped_eq_some h
    obtain ⟨core, -, sessions⟩ := AuthCall.step_session stepped
    have session_known : ∀ s ∈ c'.session, Ref.customer s.customer.id ∈ w.db.rows := by
      intro s present
      rcases sessions s present with old | found
      · apply based.refs
        simp only [refs, old, Option.toList_some, List.map_singleton, List.mem_singleton]
      · exact Database.findApiKey_customer found
    refine ⟨(Enters.of_eq core.db).keeps, ?_⟩
    split
    next s pc =>
      have known := session_known s (by simp only [AuthCall.session, pc, Option.mem_some_iff])
      intro r refers
      exact lasting (List.cons_subset.mpr ⟨known, List.nil_subset _⟩) r (handler_refs s request refers)
    · intro r refers
      obtain ⟨s, present, rfl⟩ := List.mem_map.mp refers
      exact ⟨rfl, session_known s (Option.mem_toList.mp present)⟩
  | send c =>
    obtain ⟨c', stepped, rfl⟩ := stepped_eq_some h
    refine ⟨(SendCall.step_enters stepped).keeps, ?_⟩
    rw [(SendCall.step_move stepped).2]
    exact lasting based.refs
  | verify customer c =>
    obtain ⟨c', stepped, rfl⟩ := stepped_eq_some h
    exact ⟨(VerifyCall.step_enters linked stepped).keeps, fun r refers => (by cases refers)⟩
  | resend c =>
    obtain ⟨c', stepped, rfl⟩ := stepped_eq_some h
    refine ⟨(ResendCall.step_enters stepped).keeps, ?_⟩
    rw [(ResendCall.step_move stepped).2]
    exact lasting based.refs
  | status customer c =>
    obtain ⟨c', stepped, rfl⟩ := stepped_eq_some h
    exact ⟨(StatusCall.step_enters stepped).keeps, fun r refers => (by cases refers)⟩
  | dashboard c =>
    obtain ⟨c', stepped, rfl⟩ := stepped_eq_some h
    exact ⟨DashboardCall.step_keeps stepped, fun r refers => (by cases refers)⟩
  | register c =>
    obtain ⟨c', stepped, rfl⟩ := stepped_eq_some h
    exact ⟨(RegisterCall.step_enters stepped).keeps, fun r refers => (by cases refers)⟩
  | sendOtpJob c =>
    obtain ⟨c', stepped, rfl⟩ := stepped_eq_some h
    refine ⟨(JobCall.step_enters based stepped).keeps, fun r refers => ?_⟩
    simp only [refs, JobCall.step_job stepped] at refers
    refine ⟨?_, based.refs refers⟩
    simp only [SendOtpJobData.refs, List.mem_cons, List.not_mem_nil, or_false] at refers
    rcases refers with rfl | rfl <;> rfl
  | webhook c =>
    obtain ⟨c', stepped, rfl⟩ := stepped_eq_some h
    exact ⟨(WebhookCall.step_enters based stepped).keeps, fun r refers => (by cases refers)⟩

/-- What holds in every reachable state: the references of the tables, of the threads and of the queue. -/
structure Grounded (env : Env) (p : System) : Prop where
  filed : Filed env p
  intact : Intact p.shared.db
  threads : ∀ t ∈ p.threads, t.Based p.shared
  queue : ∀ job ∈ p.shared.otpQueue, job.data.refs ⊆ p.shared.db.rows

theorem SendOtpJobData.refs_lasting {data : SendOtpJobData} : ∀ r ∈ data.refs, r.lasting = true := by
  simp [refs, Ref.lasting]

theorem Thread.refs_lasting (t : Thread) : ∀ r ∈ t.refs, r.lasting = true := by
  cases t with
  | sendOtpJob c => exact SendOtpJobData.refs_lasting
  | authenticating | send | verify | resend | status | dashboard | register | webhook =>
    simp [refs, Ref.lasting]

theorem Thread.Based.mono (based : t.Based w) (keeps : Keeps w.db w'.db) : t.Based w' :=
  ⟨fun r refers => keeps.lasting r (based.refs refers) (t.refs_lasting r refers),
    fun m there => keeps.lasting _ (based.message m there) rfl⟩

theorem Thread.external_based {event : SystemEvent} {born : List Thread}
    (queue : ∀ job ∈ w.otpQueue, job.data.refs ⊆ w.db.rows) (h : Thread.external w event = some (w', born)) :
    ∀ t ∈ born, t.Based w' := by
  cases event with
  | tick d =>
    cases h
    exact fun t there => (by cases there)
  | takeSendOtpJob i =>
    simp only [external] at h
    split at h <;> cases h
    next job found =>
      intro t there
      cases List.mem_singleton.mp there
      exact ⟨queue job (List.mem_of_getElem? found), fun m known => (by cases known)⟩
  | api rawApiKey request =>
    cases h
    intro t there
    cases List.mem_singleton.mp there
    refine ⟨fun r refers => ?_, fun m known => (by cases known)⟩
    obtain ⟨s, present, -⟩ := List.mem_map.mp refers
    unfold AuthCall.start at present
    split at present <;> cases present
  | dashboard | register | processWebhook =>
    cases h
    intro t there
    cases List.mem_singleton.mp there
    exact ⟨List.nil_subset _, fun m known => (by cases known)⟩

theorem Grounded.step (grounded : Grounded env p) {l : SystemLabel}
    (taken : Pool.step (systemProgram env) p l = some q) : Grounded env q := by
  have filed := grounded.filed.step taken
  cases l with
  | resume i a =>
    obtain ⟨t, w', t', found, resumed, rfl⟩ := step_resume taken
    have member := List.mem_of_getElem? found
    have linked := grounded.filed.threads t member
    have based := grounded.threads t member
    obtain ⟨keeps, refers⟩ := Thread.resume_keeps linked based resumed
    have stage := Thread.resume_stage resumed
    refine ⟨filed, keeps.intact grounded.intact, fun u there => ?_, fun job there => ?_⟩
    · rcases mem_set_cases there with rfl | ⟨j, -, other⟩
      · refine ⟨fun r held => keeps.lasting r (refers r held).2 (refers r held).1, fun m known => ?_⟩
        have before : ∀ n ∈ t.stage.message, ∃ row ∈ p.shared.journal.rows, row.1 = n :=
          fun n held => journal_mem_rows.mpr (based.message n held)
        exact journal_mem_rows.mp (stage.message before m known)
      · exact (grounded.threads u (List.mem_of_getElem? other)).mono keeps
    · have old (queued : job ∈ p.shared.otpQueue) : job.data.refs ⊆ w'.db.rows :=
        fun r held => keeps.lasting r (grounded.queue job queued held) (SendOtpJobData.refs_lasting r held)
      rcases Thread.resume_queue resumed with same | ⟨data, queues, grown⟩
      · exact old (same ▸ there)
      · rw [grown] at there
        rcases List.mem_append.mp there with queued | new
        · exact old queued
        · rw [List.mem_singleton.mp new]
          exact fun r held => keeps.lasting r (Thread.enqueues_refs linked based queues held)
            (SendOtpJobData.refs_lasting r held)
  | external event =>
    obtain ⟨w', born, acted, rfl⟩ := step_external taken
    have same : External env p.shared w' born := Thread.external_cases acted
    have keeps : Keeps p.shared.db w'.db := (Enters.of_eq same.db).keeps
    refine ⟨filed, keeps.intact grounded.intact, fun u there => ?_, fun job there => ?_⟩
    · rcases List.mem_append.mp there with old | new
      · exact (grounded.threads u old).mono keeps
      · exact Thread.external_based grounded.queue acted u new
    · simp only [same.db]
      exact grounded.queue job (same.queue job there)

theorem Intact.findApiKey {db : Database} (intact : Intact db) {k : ApiKey} (there : k ∈ db.apiKeys)
    (active : k.status = .active) : (db.findApiKey k.keyHash).isSome := by
  have found : (db.apiKeys.find? fun j => j.keyHash == k.keyHash && j.status == .active).isSome :=
    List.find?_isSome.mpr ⟨k, there, by simp [active]⟩
  obtain ⟨j, first⟩ := Option.isSome_iff_exists.mp found
  have refers := intact.apiKeys j (List.mem_of_find?_eq_some first)
  obtain ⟨a, app, of_app⟩ :=
    application_mem_rows.mp (refers (List.mem_cons_of_mem _ (List.mem_singleton_self _)))
  obtain ⟨c, customer, of_customer⟩ := customer_mem_rows.mp (refers List.mem_cons_self)
  have application : (db.applications.find? (·.id == j.applicationId)).isSome :=
    List.find?_isSome.mpr ⟨a, app, beq_iff_eq.mpr of_app⟩
  have owner : (db.findCustomer j.customerId).isSome :=
    List.find?_isSome.mpr ⟨c, customer, beq_iff_eq.mpr of_customer⟩
  obtain ⟨a', found_app⟩ := Option.isSome_iff_exists.mp application
  obtain ⟨c', found_customer⟩ := Option.isSome_iff_exists.mp owner
  unfold Database.findApiKey
  rw [first]
  simp only [Option.bind_eq_bind, Option.bind_some, found_app, found_customer]
  rfl

/-- In every run from a state whose references are intact they stay intact, whatever is deleted meanwhile; so
a request with an active key always finds the key, its application and its customer. -/
theorem references_intact {es : List SystemLabel} (unused : Unused p) (intact : Intact p.shared.db)
    (returned : run (Pool.step (systemProgram env)) p es = some q) :
    Intact q.shared.db ∧
      ∀ k ∈ q.shared.db.apiKeys, k.status = .active → (q.shared.db.findApiKey k.keyHash).isSome := by
  have start : Grounded env p := by
    refine ⟨unused.filed, intact, fun t there => ?_, fun job there => ?_⟩
    · rw [unused.threads] at there
      cases there
    · rw [unused.otpQueue] at there
      cases there
  have grounded : Grounded env q := run_invariant (Grounded env) (fun _ _ _ held taken => held.step taken) start
    returned
  exact ⟨grounded.intact, fun k there active => grounded.intact.findApiKey there active⟩

theorem sampleSystem_intact : Intact sampleSystem.shared.db := by
  constructor <;> simp [Closed, sampleSystem, Database.empty, World.empty, Application.refs, ApiKey.refs,
    Database.rows]

/-- A send, its job and the verification. -/
def sentAndVerified : List SystemLabel :=
  sampleCustomSend ++ .external (.takeSendOtpJob 0) :: .resume 1 (.accepted "wamid.1") :: resolve 1 3 ++
    sampleRequest (.verify "+4915112345678" "424242") :: resolve 2 10

theorem references_intact_verified :
    ∃ q, run (Pool.step (systemProgram OtpPool.sampleEnv)) sampleSystem sentAndVerified = some q ∧
      q.shared.db.otpVerifications.length = 1 ∧ q.shared.db.messageEvents.length = 1 ∧ Intact q.shared.db :=
  ⟨_, (Option.some_get (by decide +kernel)).symm, by decide +kernel, by decide +kernel,
    (references_intact sampleSystem_opening.toUnused sampleSystem_intact
      (Option.some_get (by decide +kernel)).symm).1⟩

end Runs

end SelfOtp
