import SelfOtp.Properties.Tenants

/-! What one step of the system can do to the messages and their events. -/
namespace SelfOtp

/-! ### The journal and the stages -/

/-- The messages with their provider ids, and the events that are recorded of them. -/
structure Journal where
  rows : List (Id × Option String)
  events : List (Id × MessageEventType)
  nextId : Id

def World.journal (w : World) : Journal where
  rows := w.db.messages.map fun m => (m.id, m.providerMessageId)
  events := w.db.messageEvents.map fun e => (e.messageId, e.eventType)
  nextId := w.nextId

/-- How far a thread is with a message. -/
inductive MessageStage where
  /-- It has nothing to do with one. -/
  | away
  /-- A send job waits for the provider. -/
  | sending
  /-- It has the provider's id, and creates the message next. -/
  | holding (wamid : Option String) (type : MessageEventType)
  /-- It has created the message, and records its own event next. -/
  | entering (message : Id) (type : MessageEventType)
  /-- A webhook job looks for its message. -/
  | lookingUp (wamid : String) (type : MessageEventType)
  | found (wamid : String) (type : MessageEventType) (message : Id)
  /-- It has seen no event of its type, and records one. -/
  | recording (wamid : String) (type : MessageEventType) (message : Id)
  | settled (wamid : String) (type : MessageEventType)
  deriving DecidableEq

/-- The type of the event that a send job records. -/
def SendMessageResult.eventType (res : SendMessageResult) : MessageEventType :=
  if res.success then .sent else .failed

def JobPc.stage : JobPc → MessageStage
  | .send => .sending
  | .createMessage res => .holding res.providerMessageId res.eventType
  | .createEvent res message => .entering message res.eventType
  | _ => .away

def WebhookCall.stage (c : WebhookCall) : MessageStage :=
  match c.pc with
  | .findMessage => .lookingUp c.wamid c.newEventType
  | .findEvent m => .found c.wamid c.newEventType m.id
  | .updateMessage m | .createEvent m => .recording c.wamid c.newEventType m.id
  | .findOtpRequest _ | .updateOtpRequest .. | .markProcessed | .finished =>
    .settled c.wamid c.newEventType
  | .threw => .away

def Thread.stage : Thread → MessageStage
  | sendOtpJob c => c.pc.stage
  | webhook c => c.stage
  | authenticating .. | send _ | verify .. | resend _ | status .. | dashboard _ | register _ => .away

namespace MessageStage

/-- Nothing is left to do, or everything is to be done anew. -/
def idle : MessageStage → Bool
  | away | sending => true
  | holding .. | entering .. | lookingUp .. | found .. | recording .. | settled .. => false

/-- A step of a thread, whose awaited call ends with `a`. -/
inductive Move (j : Journal) (a : Answer) : MessageStage → Journal → MessageStage → Prop
  | leave {stage stage' : MessageStage} {next' : Id} (idle : stage'.idle = true) (grows : j.nextId ≤ next') :
      Move j a stage { j with nextId := next' } stage'
  | sent (type : MessageEventType) (ok : a.ok = true) :
      Move j a sending j (holding a.delivery.providerMessageId type)
  | create (wamid : Option String) (type : MessageEventType) :
      Move j a (holding wamid type) ⟨j.rows ++ [(j.nextId, wamid)], j.events, j.nextId + 1⟩
        (entering j.nextId type)
  | enter (message : Id) (type : MessageEventType) {stage' : MessageStage} (idle : stage'.idle = true) :
      Move j a (entering message type) { j with events := j.events ++ [(message, type)] } stage'
  | find (wamid : String) (type : MessageEventType) (message : Id) (ok : a.ok = true)
      (row : (message, some wamid) ∈ j.rows) :
      Move j a (lookingUp wamid type) j (found wamid type message)
  | miss (wamid : String) (type : MessageEventType) (ok : a.ok = true)
      (none : ∀ row ∈ j.rows, row.2 ≠ some wamid) :
      Move j a (lookingUp wamid type) j (settled wamid type)
  | known (wamid : String) (type : MessageEventType) (message : Id)
      (present : (message, type) ∈ j.events) :
      Move j a (found wamid type message) j (settled wamid type)
  | new (wamid : String) (type : MessageEventType) (message : Id) (ok : a.ok = true)
      (absent : (message, type) ∉ j.events) :
      Move j a (found wamid type message) j (recording wamid type message)
  | update (wamid : String) (type : MessageEventType) (message : Id) :
      Move j a (recording wamid type message) j (recording wamid type message)
  | record (wamid : String) (type : MessageEventType) (message : Id) :
      Move j a (recording wamid type message) { j with events := j.events ++ [(message, type)] }
        (settled wamid type)
  | stay (wamid : String) (type : MessageEventType) :
      Move j a (settled wamid type) j (settled wamid type)

end MessageStage

section Calls

variable {env : Env} {w w' : World} {a : Answer} {ok : Bool}

/-- The messages and their events are untouched. -/
structure SameMessages (w w' : World) : Prop where
  messages : w'.db.messages = w.db.messages
  messageEvents : w'.db.messageEvents = w.db.messageEvents

theorem SameMessages.of_db (same : w'.db = w.db) : SameMessages w w' := ⟨by rw [same], by rw [same]⟩

theorem SameMessages.journal (same : SameMessages w w') :
    w'.journal = { w.journal with nextId := w'.nextId } := by
  simp only [World.journal, same.messages, same.messageEvents]

theorem SameMessages.leave (same : SameMessages w w') (grows : w.nextId ≤ w'.nextId)
    {stage stage' : MessageStage} (idle : stage'.idle = true) :
    stage.Move w.journal a w'.journal stage' := by
  rw [same.journal]
  exact .leave idle grows

theorem SameMessages.refunded {c : JobCall} {reason : String} (granted : JobCall.refunded w c reason = .ok w') :
    SameMessages w w' := by
  unfold JobCall.refunded at granted
  split at granted <;> cases granted
  exact ⟨rfl, rfl⟩

/-! ### The worker jobs -/

theorem journal_createEvent (w : World) (event : MessageEvent) :
    (w.mapDb fun db => { db with messageEvents := db.messageEvents ++ [event] }).journal =
      { w.journal with events := w.journal.events ++ [(event.messageId, event.eventType)] } := by
  simp only [World.journal, World.mapDb, List.map_append, List.map_cons, List.map_nil]

theorem JobCall.threw_idle (c : JobCall) (error : String) : (c.threw error).pc.stage.idle = true := by
  unfold threw
  split
  · rfl
  · simp only [rethrow]
    split <;> rfl

theorem JobCall.rethrow_idle (c : JobCall) : c.rethrow.pc.stage.idle = true := by
  simp only [rethrow]
  split <;> rfl

theorem JobCall.step_stage {c c' : JobCall} (h : c.step w a = some (w', c')) :
    c.pc.stage.Move w.journal a w'.journal c'.pc.stage := by
  have grows := (JobCall.step_rows h).grows
  cases pc : c.pc with
  | send =>
    simp only [step, pc] at h
    split at h <;> cases h
    next ok => exact .sent _ ok
    · exact .leave (c.threw_idle _) grows
  | createMessage res =>
    simp only [step, pc] at h
    split at h <;> cases h
    · have appended : (World.journal { w with
            db := { w.db with messages := w.db.messages ++ [c.message w res] }
            nextId := w.nextId + 1 }) =
          ⟨w.journal.rows ++ [(w.nextId, res.providerMessageId)], w.journal.events, w.nextId + 1⟩ := by
        simp only [World.journal, List.map_append, List.map_cons, List.map_nil]
        rfl
      rw [appended]
      exact .create _ _
    · exact .leave (c.threw_idle _) grows
  | createEvent res message =>
    -- the event is written before a temporary error is thrown
    have type : (if res.success = true then MessageEventType.sent else .failed) = res.eventType := rfl
    simp only [step, pc, type] at h
    split at h
    · split at h
      · cases h
        rw [journal_createEvent]
        exact .enter message _ rfl
      · split at h <;> cases h <;> rw [journal_createEvent]
        · exact .enter message _ (c.threw_idle _)
        · exact .enter message _ rfl
    · cases h
      -- a failed attempt starts again from the send, or gives up
      exact .leave (c.threw_idle _) grows
  | markSent | markFailed | deadLetter =>
    simp only [step, pc] at h
    split at h <;> cases h
    · exact .leave rfl grows
    · exact .leave (c.threw_idle _) grows
  | refund res =>
    simp only [step, pc] at h
    split at h
    · split at h <;> cases h
      next granted => exact (SameMessages.refunded granted).leave grows rfl
      · exact .leave (c.threw_idle _) grows
    · cases h
      exact .leave (c.threw_idle _) grows
  | exhaustedMark error =>
    simp only [step, pc] at h
    cases h
    exact (SameMessages.mk (by split <;> rfl) (by split <;> rfl)).leave grows rfl
  | exhaustedRefund error =>
    simp only [step, pc] at h
    cases h
    apply SameMessages.leave _ grows rfl
    split
    · split
      next granted => exact .refunded granted
      · exact .of_db rfl
    · exact .of_db rfl
  | exhaustedDeadLetter error =>
    simp only [step, pc] at h
    cases h
    apply SameMessages.leave _ grows c.rethrow_idle
    split <;> exact .of_db rfl
  | completed | failed => simp [step, pc] at h

theorem journal_updateMessage (w : World) (c : WebhookCall) (m : Message) :
    (w.mapDb fun db => { db with
        messages := db.messages.map fun r => if r.id = m.id then c.updated w.now r else r }).journal =
      w.journal := by
  simp only [World.journal, World.mapDb, List.map_map]
  congr 1
  apply List.map_congr_left
  intro r _
  simp only [Function.comp_apply]
  split <;> rfl

theorem WebhookCall.linked_stage (c : WebhookCall) (m : Message) :
    (c.goto (linked m)).stage = .settled c.wamid c.newEventType := by
  unfold linked
  split <;> rfl

theorem WebhookCall.step_stage {c c' : WebhookCall} (h : c.step w a.ok = some (w', c')) :
    c.stage.Move w.journal a w'.journal c'.stage := by
  cases pc : c.pc with
  | findMessage =>
    have here : c.stage = .lookingUp c.wamid c.newEventType := by simp only [stage, pc]
    rw [here]
    simp only [step, pc] at h
    split at h
    next ok =>
      split at h <;> cases h
      next m found =>
        refine .find _ _ _ ok ?_
        -- `findFirst` by the provider id
        have own := List.find?_some found
        rw [beq_iff_eq] at own
        exact List.mem_map.mpr ⟨m, List.mem_of_find?_eq_some found, by rw [own]⟩
      next missing =>
        refine .miss _ _ ok ?_
        intro row member
        obtain ⟨m, present, rfl⟩ := List.mem_map.mp member
        exact fun own => List.find?_eq_none.mp missing m present (beq_iff_eq.mpr own)
    · cases h
      exact .leave rfl (le_refl _)
  | findEvent m =>
    have here : c.stage = .found c.wamid c.newEventType m.id := by simp only [stage, pc]
    rw [here]
    simp only [step, pc] at h
    split at h
    next allowed =>
      have ok : a.ok = true := (Bool.and_eq_true_iff.mp allowed).1
      split at h <;> cases h
      next event found =>
        have own := List.find?_some found
        rw [Bool.and_eq_true, beq_iff_eq, beq_iff_eq] at own
        rw [linked_stage]
        apply MessageStage.Move.known
        exact List.mem_map.mpr ⟨event, List.mem_of_find?_eq_some found, Prod.ext own.1 own.2⟩
      next missing =>
        refine .new _ _ _ ok ?_
        intro member
        obtain ⟨event, present, own⟩ := List.mem_map.mp member
        obtain ⟨first, second⟩ := Prod.ext_iff.mp own
        apply List.find?_eq_none.mp missing event present
        rw [Bool.and_eq_true, beq_iff_eq, beq_iff_eq]
        exact ⟨first, second⟩
    · cases h
      exact .leave rfl (le_refl _)
  | updateMessage m =>
    have here : c.stage = .recording c.wamid c.newEventType m.id := by simp only [stage, pc]
    rw [here]
    simp only [step, pc] at h
    split at h <;> cases h
    · rw [journal_updateMessage]
      exact .update _ _ _
    · exact .leave rfl (le_refl _)
  | createEvent m =>
    have here : c.stage = .recording c.wamid c.newEventType m.id := by simp only [stage, pc]
    rw [here]
    simp only [step, pc] at h
    split at h <;> cases h
    · rw [journal_createEvent, linked_stage]
      exact .record _ _ _
    · exact .leave rfl (le_refl _)
  | findOtpRequest record =>
    have here : c.stage = .settled c.wamid c.newEventType := by simp only [stage, pc]
    rw [here]
    simp only [step, pc] at h
    split at h
    · split at h
      · split at h
        · cases h
          exact .stay _ _
        · split at h <;> cases h <;> exact .stay _ _
      · cases h
        exact .stay _ _
    · cases h
      exact .leave rfl (le_refl _)
  | updateOtpRequest record status =>
    have here : c.stage = .settled c.wamid c.newEventType := by simp only [stage, pc]
    rw [here]
    simp only [step, pc] at h
    split at h <;> cases h
    · exact .stay _ _
    · exact .leave rfl (le_refl _)
  | markProcessed =>
    have here : c.stage = .settled c.wamid c.newEventType := by simp only [stage, pc]
    rw [here]
    simp only [step, pc] at h
    cases h
    split <;> exact .stay _ _
  | finished | threw => simp [step, pc] at h

/-! ### The requests -/

theorem SameMessages.storeOtp {process : ℕ} {key : OtpKey} {data : StoredOtp} {ttlSeconds : ℚ} :
    SameMessages w (storeOtp w process key data ttlSeconds ok) := by
  unfold SelfOtp.storeOtp
  split <;> exact ⟨rfl, rfl⟩

theorem SendCall.step_sameMessages {c c' : SendCall} (h : c.step env w a = some (w', c')) :
    SameMessages w w' := by
  have move := (step_move h).1
  generalize c.pc = pc at move
  generalize c'.pc = pc' at move
  cases move with
  | refuse before same | check before same | setCooldown d same => exact .of_db same.db
  | create otpCode requestId expiresAt db created =>
    unfold Database.createOtpRequest at created
    split at created <;> cases created
    exact ⟨rfl, rfl⟩
  | store d => exact .storeOtp
  | saveCache d key =>
    unfold cacheResponse
    dsimp only
    split <;> exact ⟨rfl, rfl⟩
  | saveRecord d key =>
    unfold recordResponse
    split <;> exact ⟨rfl, rfl⟩
  | _ => exact ⟨rfl, rfl⟩

theorem ResendCall.step_sameMessages {c c' : ResendCall} (h : c.step env w a = some (w', c')) :
    SameMessages w w' := by
  have move := (step_move h).1
  generalize c.pc = pc at move
  generalize c'.pc = pc' at move
  cases move with
  | setCooldown d same => exact .of_db same.db
  | store d => exact .storeOtp
  | _ => exact ⟨rfl, rfl⟩

theorem VerifyCall.step_sameMessages {c c' : VerifyCall} (h : c.step env w ok = some (w', c')) :
    SameMessages w w' := by
  cases pc : c.pc with
  | findRecord f =>
    simp only [step, pc] at h
    split at h
    · split at h <;> cases h
      · exact ⟨rfl, rfl⟩
      · unfold mutate
        split <;> exact ⟨rfl, rfl⟩
    · cases h
      exact ⟨rfl, rfl⟩
  | maxBlock f =>
    simp only [step, pc] at h
    cases h
    exact .of_db (blockPhoneNumber_sameCore ..).db
  | maxDelete f =>
    simp only [step, pc] at h
    cases h
    cases ok <;> exact ⟨rfl, rfl⟩
  | delete f record =>
    simp only [step, pc] at h
    cases record <;> cases h <;> cases ok <;> exact ⟨rfl, rfl⟩
  | lookup | incorrectVerification | correctVerification | incorrectAttempts | maxStatus
  | verifiedStatus | ttl | writeBack =>
    simp only [step, pc] at h
    split at h <;> cases h <;> exact ⟨rfl, rfl⟩
  | verified | rejected | internalError => simp [step, pc] at h

theorem StatusCall.step_sameMessages {c c' : StatusCall} (h : c.step w ok = some (w', c')) :
    SameMessages w w' := by
  cases pc : c.pc with
  | findRecord =>
    simp only [step, pc] at h
    split at h
    · split at h
      · cases h
        exact ⟨rfl, rfl⟩
      · split at h <;> cases h <;> exact ⟨rfl, rfl⟩
    · cases h
      exact ⟨rfl, rfl⟩
  | expire record =>
    simp only [step, pc] at h
    split at h <;> cases h <;> exact ⟨rfl, rfl⟩
  | answered | rejected | internalError => simp [step, pc] at h

theorem DashboardCall.handle_sameMessages (c : DashboardCall) (customer : Customer) :
    SameMessages w (c.handle env w customer).1 := by
  cases request : c.request with
  | createApplication name =>
    simp only [handle, request, Database.createApplication]
    split
    next created =>
      split at created <;> cases created
      exact ⟨rfl, rfl⟩
    · exact ⟨rfl, rfl⟩
  | createApiKey applicationId name rawSecret =>
    simp only [handle, request, Database.createApiKey]
    split
    next created =>
      split at created <;> cases created
      exact ⟨rfl, rfl⟩
    · exact ⟨rfl, rfl⟩
  | account accountRequest =>
    cases accountRequest <;> simp only [handle, request] <;> exact ⟨rfl, rfl⟩
  | getApplication | deleteApplication | revokeApiKey | topup =>
    simp only [handle, request]
    split <;> exact ⟨rfl, rfl⟩
  | listApplications | listApiKeys | transactions =>
    simp only [handle, request]
    exact ⟨rfl, rfl⟩

theorem DashboardCall.step_sameMessages {c c' : DashboardCall}
    (h : c.step env w ok = some (w', c')) : SameMessages w w' := by
  cases pc : c.pc with
  | handle customer =>
    simp only [step, pc] at h
    split at h
    · have same : SameMessages w (c.handle env w customer).1 := c.handle_sameMessages customer
      rw [Option.some.inj h] at same
      exact same
    · cases h
      exact ⟨rfl, rfl⟩
  | deleteApplication customer app =>
    simp only [step, pc, Database.deleteApplication] at h
    split at h <;> cases h
    next deleted =>
      split at deleted
      · split at deleted <;> cases deleted
        exact ⟨rfl, rfl⟩
      · cases deleted
    · exact ⟨rfl, rfl⟩
  | authenticate | revokeApiKey | readWallet | readTransactions | countVerified | countFailed =>
    simp only [step, pc] at h
    split at h <;> cases h <;> exact ⟨rfl, rfl⟩
  | answered | rejected | internalError => simp [step, pc] at h

theorem RegisterCall.step_sameMessages {c c' : RegisterCall} (h : c.step w ok = some (w', c')) :
    SameMessages w w' := by
  cases pc : c.pc with
  | findUser =>
    simp only [step, pc] at h
    split at h
    · split at h <;> cases h <;> exact ⟨rfl, rfl⟩
    · cases h
      exact ⟨rfl, rfl⟩
  | create =>
    simp only [step, pc] at h
    split at h <;> cases h
    next registered =>
      split at registered
      · unfold RegisterCall.create Database.createApplication at registered
        dsimp only at registered
        split at registered
        · split at registered <;> cases registered
          exact ⟨rfl, rfl⟩
        · cases registered
      · cases registered
    · exact ⟨rfl, rfl⟩
  | registered | rejected | internalError => simp [step, pc] at h

end Calls

/-! ### The system -/

theorem Thread.handler_stage (s : Session) (request : ApiRequest) :
    (handler s request).stage = .away := by
  unfold handler
  split <;> rfl

/-- Every step of a thread is a move of its stage. -/
theorem Thread.resume_stage {env : Env} {w w' : World} {t t' : Thread} {a : Answer}
    (h : Thread.resume env w t a = some (w', t')) :
    t.stage.Move w.journal a w'.journal t'.stage := by
  have grows := (Thread.resume_rows h).grows
  cases t with
  | authenticating request c =>
    simp only [resume] at h
    obtain ⟨c', stepped, rfl⟩ := stepped_eq_some h
    apply (SameMessages.of_db (AuthCall.step_session stepped).1.db).leave grows
    split
    · rw [handler_stage]
      rfl
    · rfl
  | send c =>
    simp only [resume] at h
    obtain ⟨c', stepped, rfl⟩ := stepped_eq_some h
    exact (SendCall.step_sameMessages stepped).leave grows rfl
  | verify customer c =>
    simp only [resume] at h
    obtain ⟨c', stepped, rfl⟩ := stepped_eq_some h
    exact (VerifyCall.step_sameMessages stepped).leave grows rfl
  | resend c =>
    simp only [resume] at h
    obtain ⟨c', stepped, rfl⟩ := stepped_eq_some h
    exact (ResendCall.step_sameMessages stepped).leave grows rfl
  | status customer c =>
    simp only [resume] at h
    obtain ⟨c', stepped, rfl⟩ := stepped_eq_some h
    exact (StatusCall.step_sameMessages stepped).leave grows rfl
  | dashboard c =>
    simp only [resume] at h
    obtain ⟨c', stepped, rfl⟩ := stepped_eq_some h
    exact (DashboardCall.step_sameMessages stepped).leave grows rfl
  | register c =>
    simp only [resume] at h
    obtain ⟨c', stepped, rfl⟩ := stepped_eq_some h
    exact (RegisterCall.step_sameMessages stepped).leave grows rfl
  | sendOtpJob c =>
    simp only [resume] at h
    obtain ⟨c', stepped, rfl⟩ := stepped_eq_some h
    exact JobCall.step_stage stepped
  | webhook c =>
    simp only [resume] at h
    obtain ⟨c', stepped, rfl⟩ := stepped_eq_some h
    exact WebhookCall.step_stage stepped

/-- What starts a thread leaves the journal alone; the thread has not looked for a message yet. -/
theorem Thread.external_stage {w w' : World} {event : SystemEvent} {born : List Thread}
    (h : Thread.external w event = some (w', born)) :
    w'.journal = w.journal ∧
      ∀ t ∈ born, t.stage.idle = true ∨ ∃ wamid type, t.stage = .lookingUp wamid type := by
  cases event with
  | takeSendOtpJob i =>
    simp only [external] at h
    split at h <;> cases h
    refine ⟨rfl, fun t member => ?_⟩
    obtain rfl := List.mem_singleton.mp member
    exact .inl rfl
  | processWebhook eventId wamid statusStr =>
    cases h
    refine ⟨rfl, fun t member => ?_⟩
    obtain rfl := List.mem_singleton.mp member
    exact .inr ⟨_, _, rfl⟩
  | tick d =>
    cases h
    refine ⟨rfl, fun t member => ?_⟩
    cases member
  | api | dashboard | register =>
    cases h
    refine ⟨rfl, fun t member => ?_⟩
    obtain rfl := List.mem_singleton.mp member
    exact .inl rfl

end SelfOtp
