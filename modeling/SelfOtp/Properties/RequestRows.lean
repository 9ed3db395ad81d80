import SelfOtp.Properties.DispatchMoves
import SelfOtp.Properties.VerifyMoves

/-! What one step of the system can do to the `otp_requests` rows. -/
namespace SelfOtp

/-- Two states of one row: an update never changes these columns. -/
structure SameRow (r s : OtpRequest) : Prop where
  id : s.id = r.id
  requestId : s.requestId = r.requestId
  customerId : s.customerId = r.customerId
  applicationId : s.applicationId = r.applicationId
  phoneNumber : s.phoneNumber = r.phoneNumber

theorem SameRow.refl (r : OtpRequest) : SameRow r r := ⟨rfl, rfl, rfl, rfl, rfl⟩

def KeepsRow (f : OtpRequest → OtpRequest) : Prop := ∀ r, SameRow r (f r)

inductive RowChange where
  | create (row : OtpRequest)
  | edit (id : Id)
  | write (id : Id) (status : OtpStatus)

/-- What a change does to the rows and to the next primary key. -/
inductive RowsStep (rows : List OtpRequest) (nextId : Id) :
    List OtpRequest → Id → Option RowChange → Prop
  | same {next' : Id} (grows : nextId ≤ next') : RowsStep rows nextId rows next' none
  | create (row : OtpRequest) (fresh : row.id = nextId)
      (unused : ∀ r ∈ rows, r.requestId ≠ row.requestId) (status : row.status = .created) :
      RowsStep rows nextId (rows ++ [row]) (nextId + 1) (some (.create row))
  | edit (id : Id) (f : OtpRequest → OtpRequest) (keeps : KeepsRow f)
      (status : ∀ r, (f r).status = r.status) :
      RowsStep rows nextId (rows.map fun r => if r.id = id then f r else r) nextId
        (some (.edit id))
  | write (id : Id) (s : OtpStatus) (f : OtpRequest → OtpRequest) (keeps : KeepsRow f)
      (status : ∀ r, (f r).status = s) :
      RowsStep rows nextId (rows.map fun r => if r.id = id then f r else r) nextId
        (some (.write id s))

/-- The step of a call from `w` to `w'`, where `target` is what it may change. -/
def RowsTo (w w' : World) (target : Option RowChange) : Prop :=
  ∃ change, RowsStep w.db.otpRequests w.nextId w'.db.otpRequests w'.nextId change ∧
    ∀ x ∈ change, target = some x

section RowsTo

variable {w w' : World} {target : Option RowChange}

theorem RowsTo.same (rows : w'.db.otpRequests = w.db.otpRequests) (grows : w.nextId ≤ w'.nextId) :
    RowsTo w w' target :=
  ⟨none, rows ▸ .same grows, fun _ member => (by cases member)⟩

theorem RowsTo.of_core (core : SameCore w w') : RowsTo w w' target :=
  .same (by rw [core.db]) (by rw [core.nextId])

theorem RowsTo.setStatus (id : Id) (s : OtpStatus) :
    RowsTo w (w.mapDb (·.setStatus id s)) (some (.write id s)) :=
  ⟨_, .write id s _ (fun _ => ⟨rfl, rfl, rfl, rfl, rfl⟩) (fun _ => rfl), fun _ member => member⟩

theorem RowsTo.edit (id : Id) (f : OtpRequest → OtpRequest) (keeps : KeepsRow f)
    (status : ∀ r, (f r).status = r.status) :
    RowsTo w (w.mapDb (·.updateOtpRequest id f)) (some (.edit id)) :=
  ⟨_, .edit id f keeps status, fun _ member => member⟩

theorem RowsTo.of_storeOtp {process : ℕ} {key : OtpKey} {data : StoredOtp} {ttlSeconds : ℚ}
    {ok : Bool} : RowsTo w (storeOtp w process key data ttlSeconds ok) target := by
  unfold storeOtp
  split <;> exact .same rfl (le_refl _)

end RowsTo

/-! ### The calls -/

/-- The change the next step of a call may make. -/
def SendCall.target (env : Env) (w : World) (c : SendCall) : Option RowChange :=
  match c.pc with
  | .create otpCode requestId expiresAt =>
    some (.create (c.row env w.nextId otpCode requestId expiresAt))
  | .fallbackSent d => some (.write d.record .sent)
  | .fallbackFailed d _ => some (.write d.record .failed)
  | _ => none

def ResendPc.target : ResendPc → Option RowChange
  | expire record => some (.write record .expired)
  | update d => some (.edit d.record.id)
  | fallbackSent d => some (.write d.record.id .sent)
  | _ => none

def VerifyPc.target : VerifyPc → Option RowChange
  | incorrectAttempts _ record => some (.edit record)
  | maxStatus _ record => some (.write record .expired)
  | verifiedStatus _ record _ => some (.write record .verified)
  | _ => none

def StatusPc.target : StatusPc → Option RowChange
  | expire record => some (.write record.id .expired)
  | _ => none

def JobCall.target (c : JobCall) : Option RowChange :=
  match c.pc with
  | .markSent => some (.write c.job.data.otpRequestDbId .sent)
  | .markFailed _ | .exhaustedMark _ => some (.write c.job.data.otpRequestDbId .failed)
  | _ => none

def WebhookPc.target : WebhookPc → Option RowChange
  | updateOtpRequest record status => some (.write record status)
  | _ => none

def Thread.target (env : Env) (w : World) : Thread → Option RowChange
  | send c => c.target env w
  | verify _ c => c.pc.target
  | resend c => c.pc.target
  | status _ c => c.pc.target
  | sendOtpJob c => c.target
  | webhook c => c.pc.target
  | authenticating .. | dashboard _ | register _ => none

section Calls

variable {env : Env} {w w' : World} {a : Answer} {ok : Bool}

theorem SendCall.step_rows {c c' : SendCall} (h : c.step env w a = some (w', c')) :
    RowsTo w w' (c.target env w) := by
  have move := (step_move h).1
  unfold target
  generalize c.pc = pc at move
  generalize c'.pc = pc' at move
  cases move with
  | refuse before same | check before same | setCooldown d same => exact .of_core same
  | create otpCode requestId expiresAt db created =>
    unfold Database.createOtpRequest at created
    split at created
    next conditions =>
      cases created
      exact ⟨_, .create _ rfl conditions.1 rfl, fun _ member => member⟩
    · cases created
  | store d => exact .of_storeOtp
  | markSent d => exact .setStatus d.record .sent
  | markFailed d reason => exact .setStatus d.record .failed
  | saveCache d key =>
    unfold cacheResponse
    dsimp only
    split <;> exact .same rfl (le_refl _)
  | saveRecord d key =>
    unfold recordResponse
    split <;> exact .same rfl (le_refl _)
  | enqueue d => exact .same rfl (Nat.le_succ _)
  | _ => exact .same rfl (le_refl _)

theorem ResendCall.step_rows {c c' : ResendCall} (h : c.step env w a = some (w', c')) :
    RowsTo w w' c.pc.target := by
  have move := (step_move h).1
  generalize c.pc = pc at move
  generalize c'.pc = pc' at move
  cases move with
  | setCooldown d same => exact .of_core same
  | expire record => exact .setStatus record .expired
  | update d => exact .edit _ _ (fun _ => ⟨rfl, rfl, rfl, rfl, rfl⟩) (fun _ => rfl)
  | store d => exact .of_storeOtp
  | markSent d => exact .setStatus d.record.id .sent
  | enqueue d => exact .same rfl (Nat.le_succ _)
  | _ => exact .same rfl (le_refl _)

theorem VerifyCall.step_rows {c c' : VerifyCall} (h : c.step env w ok = some (w', c')) :
    RowsTo w w' c.pc.target := by
  cases pc : c.pc with
  | lookup =>
    simp only [step, pc] at h
    split at h <;> cases h <;> exact .same rfl (le_refl _)
  | findRecord f =>
    simp only [step, pc] at h
    split at h
    · split at h <;> cases h
      · exact .same rfl (le_refl _)
      · unfold mutate
        split <;> exact .same rfl (le_refl _)
    · cases h
      exact .same rfl (le_refl _)
  | incorrectAttempts f record =>
    simp only [step, pc] at h
    split at h <;> cases h
    · exact .edit record _ (fun _ => ⟨rfl, rfl, rfl, rfl, rfl⟩) (fun _ => rfl)
    · exact .same rfl (le_refl _)
  | maxStatus f record =>
    simp only [step, pc] at h
    split at h <;> cases h
    · exact .setStatus record .expired
    · exact .same rfl (le_refl _)
  | maxBlock f =>
    simp only [step, pc] at h
    cases h
    exact .of_core (blockPhoneNumber_sameCore ..)
  | maxDelete f =>
    simp only [step, pc] at h
    cases h
    cases ok <;> exact .same rfl (le_refl _)
  | ttl f =>
    simp only [step, pc] at h
    split at h <;> cases h <;> exact .same rfl (le_refl _)
  | writeBack f seconds =>
    simp only [step, pc] at h
    split at h <;> cases h <;> exact .same rfl (le_refl _)
  | delete f record =>
    simp only [step, pc] at h
    cases record <;> cases h <;> cases ok <;> exact .same rfl (le_refl _)
  | verifiedStatus f record verifiedTime =>
    simp only [step, pc] at h
    split at h <;> cases h
    · exact ⟨_, .write record .verified _ (fun _ => ⟨rfl, rfl, rfl, rfl, rfl⟩) (fun _ => rfl),
        fun _ member => member⟩
    · exact .same rfl (le_refl _)
  | incorrectVerification f record =>
    simp only [step, pc] at h
    split at h <;> cases h <;> exact .same rfl (le_refl _)
  | correctVerification f record verifiedTime =>
    simp only [step, pc] at h
    split at h <;> cases h <;> exact .same rfl (le_refl _)
  | verified | rejected | internalError => simp [step, pc] at h

theorem StatusCall.step_rows {c c' : StatusCall} (h : c.step w ok = some (w', c')) :
    RowsTo w w' c.pc.target := by
  cases pc : c.pc with
  | findRecord =>
    simp only [step, pc] at h
    split at h
    · split at h
      · cases h
        exact .same rfl (le_refl _)
      · split at h <;> cases h <;> exact .same rfl (le_refl _)
    · cases h
      exact .same rfl (le_refl _)
  | expire record =>
    simp only [step, pc] at h
    split at h <;> cases h
    · exact .setStatus record.id .expired
    · exact .same rfl (le_refl _)
  | answered | rejected | internalError => simp [step, pc] at h

theorem JobCall.refunded_rows {c : JobCall} {reason : String}
    (granted : refunded w c reason = .ok w') :
    w'.db.otpRequests = w.db.otpRequests ∧ w'.nextId = w.nextId := by
  unfold refunded at granted
  split at granted <;> cases granted
  exact ⟨rfl, rfl⟩

theorem JobCall.step_rows {c c' : JobCall} (h : c.step w a = some (w', c')) :
    RowsTo w w' c.target := by
  unfold target
  cases pc : c.pc with
  | send =>
    simp only [step, pc] at h
    split at h <;> cases h <;> exact .same rfl (le_refl _)
  | createMessage res =>
    simp only [step, pc] at h
    split at h <;> cases h
    · exact .same rfl (Nat.le_succ _)
    · exact .same rfl (le_refl _)
  | createEvent res message =>
    simp only [step, pc] at h
    split at h
    · split at h
      · cases h
        exact .same rfl (le_refl _)
      · split at h <;> cases h <;> exact .same rfl (le_refl _)
    · cases h
      exact .same rfl (le_refl _)
  | markSent =>
    simp only [step, pc] at h
    split at h <;> cases h
    · exact .setStatus _ .sent
    · exact .same rfl (le_refl _)
  | markFailed res =>
    simp only [step, pc] at h
    split at h <;> cases h
    · exact .setStatus _ .failed
    · exact .same rfl (le_refl _)
  | refund res =>
    simp only [step, pc] at h
    split at h
    · split at h <;> cases h
      next granted =>
        obtain ⟨rows, next⟩ := refunded_rows granted
        exact .same rows (next ▸ le_refl _)
      · exact .same rfl (le_refl _)
    · cases h
      exact .same rfl (le_refl _)
  | deadLetter res =>
    simp only [step, pc] at h
    split at h <;> cases h <;> exact .same rfl (le_refl _)
  | exhaustedMark error =>
    simp only [step, pc] at h
    cases h
    split
    · exact .setStatus _ .failed
    · exact .same rfl (le_refl _)
  | exhaustedRefund error =>
    simp only [step, pc] at h
    cases h
    split
    · split
      next granted =>
        obtain ⟨rows, next⟩ := refunded_rows granted
        exact .same rows (next ▸ le_refl _)
      · exact .same rfl (le_refl _)
    · exact .same rfl (le_refl _)
  | exhaustedDeadLetter error =>
    simp only [step, pc] at h
    cases h
    split <;> exact .same rfl (le_refl _)
  | completed | failed => simp [step, pc] at h

theorem WebhookCall.step_rows {c c' : WebhookCall} (h : c.step w ok = some (w', c')) :
    RowsTo w w' c.pc.target := by
  cases pc : c.pc with
  | findMessage =>
    simp only [step, pc] at h
    split at h
    · split at h <;> cases h <;> exact .same rfl (le_refl _)
    · cases h
      exact .same rfl (le_refl _)
  | findEvent m =>
    simp only [step, pc] at h
    split at h
    · split at h <;> cases h <;> exact .same rfl (le_refl _)
    · cases h
      exact .same rfl (le_refl _)
  | updateMessage m | createEvent m =>
    simp only [step, pc] at h
    split at h <;> cases h <;> exact .same rfl (le_refl _)
  | findOtpRequest record =>
    simp only [step, pc] at h
    split at h
    · split at h
      · split at h
        · cases h
          exact .same rfl (le_refl _)
        · split at h <;> cases h <;> exact .same rfl (le_refl _)
      · cases h
        exact .same rfl (le_refl _)
    · cases h
      exact .same rfl (le_refl _)
  | updateOtpRequest record status =>
    simp only [step, pc] at h
    split at h <;> cases h
    · exact .setStatus record status
    · exact .same rfl (le_refl _)
  | markProcessed =>
    simp only [step, pc] at h
    cases h
    split <;> exact .same rfl (le_refl _)
  | finished | threw => simp [step, pc] at h

/-! ### Steps that write statuses only -/

/-- The rows keep all but their statuses, and no verification is recorded. -/
structure StatusesOnly (w w' : World) : Prop where
  rows : ∃ status : OtpRequest → OtpStatus,
    w'.db.otpRequests = w.db.otpRequests.map fun r => { r with status := status r }
  otpVerifications : w'.db.otpVerifications = w.db.otpVerifications

/-- An update that the view does not look at. -/
theorem Database.map_updateOtpRequest {β : Type} (view : OtpRequest → β) (db : Database) (id : Id)
    (data : OtpRequest → OtpRequest) (blind : ∀ r, view (data r) = view r) :
    (db.updateOtpRequest id data).otpRequests.map view = db.otpRequests.map view := by
  rw [updateOtpRequest, List.map_map]
  refine List.map_congr_left fun r _ => ?_
  rw [Function.comp_apply]
  split
  · exact blind r
  · rfl

theorem StatusesOnly.same (rows : w'.db.otpRequests = w.db.otpRequests)
    (otpVerifications : w'.db.otpVerifications = w.db.otpVerifications) : StatusesOnly w w' :=
  ⟨⟨OtpRequest.status, rows.trans (List.map_id' _).symm⟩, otpVerifications⟩

theorem StatusesOnly.setStatus (id : Id) (s : OtpStatus) :
    StatusesOnly w (w.mapDb (·.setStatus id s)) := by
  refine ⟨⟨fun r => if r.id = id then s else r.status, ?_⟩, rfl⟩
  refine List.map_congr_left fun r _ => ?_
  by_cases here : r.id = id
  · simp only [if_pos here]
  · simp only [if_neg here]

/-- What does not look at the status is the same. -/
theorem StatusesOnly.map_eq {β : Type} (same : StatusesOnly w w') (view : OtpRequest → β)
    (blind : ∀ r s, view { r with status := s } = view r) :
    w'.db.otpRequests.map view = w.db.otpRequests.map view := by
  obtain ⟨⟨status, rows⟩, -⟩ := same
  rw [rows, List.map_map]
  exact List.map_congr_left fun r _ => blind r (status r)

theorem StatusCall.step_statuses {c c' : StatusCall} (h : c.step w ok = some (w', c')) :
    StatusesOnly w w' := by
  cases pc : c.pc with
  | findRecord =>
    simp only [step, pc] at h
    split at h
    · split at h
      · cases h
        exact .same rfl rfl
      · split at h <;> cases h <;> exact .same rfl rfl
    · cases h
      exact .same rfl rfl
  | expire record =>
    simp only [step, pc] at h
    split at h <;> cases h
    · exact .setStatus ..
    · exact .same rfl rfl
  | answered | rejected | internalError => simp [step, pc] at h

theorem JobCall.refunded_statuses {c : JobCall} {reason : String}
    (granted : refunded w c reason = .ok w') : StatusesOnly w w' := by
  unfold refunded at granted
  split at granted <;> cases granted
  exact .same rfl rfl

theorem JobCall.step_statuses {c c' : JobCall} (h : c.step w a = some (w', c')) :
    StatusesOnly w w' := by
  cases pc : c.pc with
  | createEvent res message =>
    simp only [step, pc] at h
    split at h
    · split at h
      · cases h
        exact .same rfl rfl
      · split at h <;> cases h <;> exact .same rfl rfl
    · cases h
      exact .same rfl rfl
  | refund res =>
    simp only [step, pc] at h
    split at h
    · split at h <;> cases h
      next granted => exact refunded_statuses granted
      · exact .same rfl rfl
    · cases h
      exact .same rfl rfl
  | markSent | markFailed =>
    simp only [step, pc] at h
    split at h <;> cases h
    · exact .setStatus ..
    · exact .same rfl rfl
  | exhaustedMark error =>
    simp only [step, pc] at h
    cases h
    split
    · exact .setStatus ..
    · exact .same rfl rfl
  | exhaustedRefund error =>
    simp only [step, pc] at h
    cases h
    split
    · split
      next granted => exact refunded_statuses granted
      · exact .same rfl rfl
    · exact .same rfl rfl
  | exhaustedDeadLetter error =>
    simp only [step, pc] at h
    cases h
    split <;> exact .same rfl rfl
  | send | createMessage | deadLetter =>
    simp only [step, pc] at h
    split at h <;> cases h <;> exact .same rfl rfl
  | completed | failed => simp [step, pc] at h

theorem WebhookCall.step_statuses {c c' : WebhookCall} (h : c.step w ok = some (w', c')) :
    StatusesOnly w w' := by
  cases pc : c.pc with
  | findMessage | findEvent =>
    simp only [step, pc] at h
    split at h
    · split at h <;> cases h <;> exact .same rfl rfl
    · cases h
      exact .same rfl rfl
  | updateMessage | createEvent =>
    simp only [step, pc] at h
    split at h <;> cases h <;> exact .same rfl rfl
  | updateOtpRequest record status =>
    simp only [step, pc] at h
    split at h <;> cases h
    · exact .setStatus ..
    · exact .same rfl rfl
  | findOtpRequest record =>
    simp only [step, pc] at h
    split at h
    · split at h
      · split at h
        · cases h
          exact .same rfl rfl
        · split at h <;> cases h <;> exact .same rfl rfl
      · cases h
        exact .same rfl rfl
    · cases h
      exact .same rfl rfl
  | markProcessed =>
    simp only [step, pc] at h
    cases h
    split <;> exact .same rfl rfl
  | finished | threw => simp [step, pc] at h

/-- Requests, verifications, OTP entries, saved responses and the queue are untouched. -/
structure SameRequests (w w' : World) : Prop where
  rows : w'.db.otpRequests = w.db.otpRequests
  otpVerifications : w'.db.otpVerifications = w.db.otpVerifications
  idempotencyKeys : w'.db.idempotencyKeys = w.db.idempotencyKeys
  grows : w.nextId ≤ w'.nextId
  redis : w'.redis = w.redis
  memory : w'.memory = w.memory
  otpQueue : w'.otpQueue = w.otpQueue
  now : w'.now = w.now

theorem SameRequests.refl (w : World) : SameRequests w w :=
  ⟨rfl, rfl, rfl, le_refl _, rfl, rfl, rfl, rfl⟩

theorem DashboardCall.handle_sameRequests (c : DashboardCall) (customer : Customer) :
    SameRequests w (c.handle env w customer).1 := by
  cases request : c.request with
  -- the tables of accounts are others than those of requests, and new ids are taken for both
  | createApplication name =>
    simp only [handle, request, Database.createApplication]
    split
    next created =>
      split at created <;> cases created
      exact ⟨rfl, rfl, rfl, Nat.le_succ _, rfl, rfl, rfl, rfl⟩
    · exact .refl w
  | createApiKey applicationId name rawSecret =>
    simp only [handle, request, Database.createApiKey]
    split
    next created =>
      split at created <;> cases created
      exact ⟨rfl, rfl, rfl, Nat.le_succ _, rfl, rfl, rfl, rfl⟩
    · exact .refl w
  | topup amount referenceId =>
    simp only [handle, request]
    split <;> exact ⟨rfl, rfl, rfl, le_refl _, rfl, rfl, rfl, rfl⟩
  | account accountRequest =>
    cases accountRequest <;> simp only [handle, request] <;> exact ⟨rfl, rfl, rfl, le_refl _, rfl, rfl, rfl, rfl⟩
  | getApplication | deleteApplication | revokeApiKey =>
    simp only [handle, request]
    split <;> exact .refl w
  | listApplications | listApiKeys | transactions =>
    simp only [handle, request]
    exact ⟨rfl, rfl, rfl, le_refl _, rfl, rfl, rfl, rfl⟩

theorem DashboardCall.step_sameRequests {c c' : DashboardCall}
    (h : c.step env w ok = some (w', c')) : SameRequests w w' := by
  cases pc : c.pc with
  | authenticate sub jwt =>
    simp only [step, pc] at h
    split at h <;> cases h <;> exact .refl w
  | handle customer =>
    simp only [step, pc] at h
    split at h
    · have same : SameRequests w (c.handle env w customer).1 := c.handle_sameRequests customer
      rw [Option.some.inj h] at same
      exact same
    · cases h
      exact .refl w
  | deleteApplication customer app =>
    simp only [step, pc, Database.deleteApplication] at h
    split at h <;> cases h
    next deleted =>
      split at deleted
      · split at deleted <;> cases deleted
        exact ⟨rfl, rfl, rfl, le_refl _, rfl, rfl, rfl, rfl⟩
      · cases deleted
    · exact .refl w
  | revokeApiKey | readWallet | readTransactions | countVerified | countFailed =>
    simp only [step, pc] at h
    split at h <;> cases h <;> exact ⟨rfl, rfl, rfl, le_refl _, rfl, rfl, rfl, rfl⟩
  | answered | rejected | internalError => simp [step, pc] at h

theorem RegisterCall.step_sameRequests {c c' : RegisterCall} (h : c.step w ok = some (w', c')) :
    SameRequests w w' := by
  cases pc : c.pc with
  | findUser =>
    simp only [step, pc] at h
    split at h
    · split at h <;> cases h <;> exact .refl w
    · cases h
      exact .refl w
  -- user, customer and application get an id each
  | create =>
    simp only [step, pc] at h
    split at h <;> cases h
    next registered =>
      split at registered
      · unfold RegisterCall.create Database.createApplication at registered
        dsimp only at registered
        split at registered
        · split at registered <;> cases registered
          exact ⟨rfl, rfl, rfl, Nat.le_add_right _ 3, rfl, rfl, rfl, rfl⟩
        · cases registered
      · cases registered
    · exact .refl w
  | registered | rejected | internalError => simp [step, pc] at h

end Calls

/-! ### The system -/

theorem Thread.resume_rows {env : Env} {w w' : World} {t t' : Thread} {a : Answer}
    (h : Thread.resume env w t a = some (w', t')) : RowsTo w w' (t.target env w) := by
  cases t with
  | authenticating request c =>
    simp only [resume] at h
    obtain ⟨c', stepped, -⟩ := stepped_eq_some h
    exact .of_core (AuthCall.step_session stepped).1
  | send c =>
    simp only [resume] at h
    obtain ⟨c', stepped, -⟩ := stepped_eq_some h
    exact SendCall.step_rows stepped
  | verify customer c =>
    simp only [resume] at h
    obtain ⟨c', stepped, -⟩ := stepped_eq_some h
    exact VerifyCall.step_rows stepped
  | resend c =>
    simp only [resume] at h
    obtain ⟨c', stepped, -⟩ := stepped_eq_some h
    exact ResendCall.step_rows stepped
  | status customer c =>
    simp only [resume] at h
    obtain ⟨c', stepped, -⟩ := stepped_eq_some h
    exact StatusCall.step_rows stepped
  | dashboard c =>
    simp only [resume] at h
    obtain ⟨c', stepped, -⟩ := stepped_eq_some h
    have same := DashboardCall.step_sameRequests stepped
    exact .same same.rows same.grows
  | register c =>
    simp only [resume] at h
    obtain ⟨c', stepped, -⟩ := stepped_eq_some h
    have same := RegisterCall.step_sameRequests stepped
    exact .same same.rows same.grows
  | sendOtpJob c =>
    simp only [resume] at h
    obtain ⟨c', stepped, -⟩ := stepped_eq_some h
    exact JobCall.step_rows stepped
  | webhook c =>
    simp only [resume] at h
    obtain ⟨c', stepped, -⟩ := stepped_eq_some h
    exact WebhookCall.step_rows stepped

end SelfOtp
