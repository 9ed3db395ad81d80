import Mathlib.Data.List.Nodup
import SelfOtp.Properties.MessageRecording
import SelfOtp.Properties.StatusOrder

/-! What a webhook job does when it is executed once more. -/
namespace SelfOtp

open Pool Transition

/-! ### One execution -/

/-- The rows of these three tables are the same. -/
structure SameRows (w w' : World) : Prop where
  messages : w'.db.messages = w.db.messages
  messageEvents : w'.db.messageEvents = w.db.messageEvents
  otpRequests : w'.db.otpRequests = w.db.otpRequests

/-- The message of the job. -/
def World.messageOf (w : World) (wamid : String) : Option Message :=
  w.db.messages.find? fun m => m.providerMessageId == some wamid

/-- The OTP request linked to the job's message is verified or has the job's status already, or the status
says nothing of it. -/
def StatusKept (w : World) (data : WebhookCall.Data) : Prop :=
  ∀ m ∈ w.messageOf data.wamid, ∀ record ∈ m.otpRequestId,
    ∀ r ∈ w.db.otpRequests.find? (fun r => r.id == record), r.status = .verified ∨
      ∀ status ∈ otpStatusMap (WebhookCall.start data).normalizedStatus, r.status = status

section Execution

variable {w : World} {c : WebhookCall} {m : Message} {record : Id} {status : OtpStatus} {n : ℕ}

/-- Within `n` steps the execution ends, with these rows. -/
def Ends (n : ℕ) (w : World) (c : WebhookCall) (w' : World) : Prop :=
  ∃ s, Passes WebhookCall.next n (w, c) s ∧ WebhookCall.next s = none ∧ SameRows w' s.1

theorem SameRows.refl (w : World) : SameRows w w := ⟨rfl, rfl, rfl⟩

theorem SameRows.symm {w w' : World} (same : SameRows w w') : SameRows w' w :=
  ⟨same.messages.symm, same.messageEvents.symm, same.otpRequests.symm⟩

theorem SameRows.trans {w w' w'' : World} (same : SameRows w w') (also : SameRows w' w'') : SameRows w w'' :=
  ⟨also.messages.trans same.messages, also.messageEvents.trans same.messageEvents,
    also.otpRequests.trans same.otpRequests⟩

theorem ends_markProcessed (w : World) (c : WebhookCall) : Ends 1 w (c.goto .markProcessed) w :=
  ⟨_, .step rfl .here, rfl, rfl, rfl, rfl⟩

theorem Ends.step {w' w'' : World} {c' : WebhookCall} (taken : WebhookCall.next (w, c) = some (w', c'))
    (later : Ends n w' c' w'') : Ends (n + 1) w c w'' := by
  obtain ⟨s, passes, rest⟩ := later
  exact ⟨s, .step taken passes, rest⟩

theorem Ends.mono {m : ℕ} {w' : World} (ends : Ends m w c w') (le : m ≤ n) : Ends n w c w' := by
  obtain ⟨s, passes, rest⟩ := ends
  exact ⟨s, passes.mono le, rest⟩

/-- What the last part of an execution writes to the request that is linked to the message. -/
def WebhookCall.writeLinked (w : World) (c : WebhookCall) (m : Message) : World :=
  match m.otpRequestId.bind fun record => w.db.otpRequests.find? fun r => r.id == record with
  | none => w
  | some r =>
    if r.status = .verified then w
    else match otpStatusMap c.normalizedStatus with
      | none => w
      | some status => w.mapDb (·.setStatus r.id status)

theorem ends_linked (w : World) (c : WebhookCall) (m : Message) :
    Ends 3 w (c.goto (WebhookCall.linked m)) (c.writeLinked w m) := by
  unfold WebhookCall.linked WebhookCall.writeLinked
  -- four ends: no linked request, no such row, a verified one, or a status to write
  cases m.otpRequestId with
  | none => exact (ends_markProcessed w c).mono (by decide)
  | some record =>
    have taken := next_findOtpRequest w c record
    rw [Option.bind_some]
    cases found : w.db.otpRequests.find? fun r => r.id == record with
    | none =>
      rw [found] at taken
      exact (Ends.step taken (ends_markProcessed w c)).mono (by decide)
    | some r =>
      rw [found] at taken
      by_cases verified : r.status = .verified
      · simp only [verified, if_true] at taken ⊢
        exact (Ends.step taken (ends_markProcessed w c)).mono (by decide)
      · simp only [verified, if_false] at taken ⊢
        cases mapped : otpStatusMap c.normalizedStatus with
        | none =>
          rw [mapped] at taken
          exact (Ends.step taken (ends_markProcessed w c)).mono (by decide)
        | some status =>
          have here : r.id = record := by simpa using List.find?_some found
          rw [mapped] at taken
          rw [here]
          exact .step taken (.step rfl (ends_markProcessed _ c))

theorem writeLinked_unmapped (unmapped : otpStatusMap c.normalizedStatus = none) : c.writeLinked w m = w := by
  unfold WebhookCall.writeLinked
  split
  · rfl
  · split
    · rfl
    · rw [unmapped]

/-- An execution whose event is there already comes to its last part at once. -/
theorem processWebhookJob_rows {data : WebhookCall.Data}
    (recorded : ∀ m ∈ w.messageOf data.wamid,
      w.board.logged (m.id, (WebhookCall.start data).newEventType) = true) :
    SameRows (match w.messageOf data.wamid with
      | none => w
      | some m => (WebhookCall.start data).writeLinked w m) (processWebhookJob w data) := by
  have ends : Ends 7 w (.start data) (match w.messageOf data.wamid with
      | none => w
      | some m => (WebhookCall.start data).writeLinked w m) := by
    cases found : w.messageOf data.wamid with
    | none => exact (Ends.step (next_missed found) (ends_markProcessed w _)).mono (by decide)
    | some m =>
      cases named : inheritedNames.contains (WebhookCall.start data).normalizedStatus with
      | true =>
        -- the query throws, and the name is no status of a request either
        have unmapped : otpStatusMap (WebhookCall.start data).normalizedStatus = none := by
          have inherited : (WebhookCall.start data).normalizedStatus ∈ inheritedNames := by simpa using named
          have nothing : ∀ name ∈ inheritedNames, otpStatusMap name = none := by decide
          exact nothing _ inherited
        simp only [writeLinked_unmapped unmapped]
        exact (Ends.step (next_looked found) ⟨_, .step (next_inherited named) .here, rfl, .refl w⟩).mono
          (by decide)
      | false =>
        have known := next_findEvent w (.start data) m named
        rw [recorded m found, if_pos rfl] at known
        exact (Ends.step (next_looked found) (Ends.step known (ends_linked w _ m))).mono (by decide)
  obtain ⟨s, passes, stopped, rows⟩ := ends
  rwa [processWebhookJob, passes.stopped stopped]

/-- Writing a status to a row changes nothing when it is the status of the row. -/
theorem setStatus_same_iff {rows : List OtpRequest} (primary : (rows.map (·.id)).Nodup) {r : OtpRequest}
    (there : r ∈ rows) (status : OtpStatus) :
    (rows.map fun s => if s.id = r.id then { s with status := status } else s) = rows ↔ r.status = status := by
  have pointwise := List.map_inj_left (l := rows) (g := id)
    (f := fun s => if s.id = r.id then { s with status := status } else s)
  rw [List.map_id] at pointwise
  rw [pointwise]
  constructor
  · intro same
    have own := same r there
    rw [if_pos rfl] at own
    exact (congrArg OtpRequest.status own).symm
  · rintro rfl s member
    by_cases here : s.id = r.id
    · rw [if_pos here, List.inj_on_of_nodup_map primary member there here]
      rfl
    · rw [if_neg here]
      rfl

theorem writeLinked_same_iff (primary : (w.db.otpRequests.map (·.id)).Nodup) {data : WebhookCall.Data}
    (found : w.messageOf data.wamid = some m) :
    SameRows w ((WebhookCall.start data).writeLinked w m) ↔ StatusKept w data := by
  unfold StatusKept WebhookCall.writeLinked
  rw [found]
  cases link : m.otpRequestId with
  | none => simp [link, SameRows.refl]
  | some record =>
    rw [Option.bind_some]
    cases row : w.db.otpRequests.find? fun r => r.id == record with
    | none => simp [link, row, SameRows.refl]
    | some r =>
      by_cases verified : r.status = .verified
      · simp [link, row, verified, SameRows.refl]
      · cases mapped : otpStatusMap (WebhookCall.start data).normalizedStatus with
        | none => simp [SameRows.refl]
        | some status =>
          have written := setStatus_same_iff primary (List.mem_of_find?_eq_some row) status
          have rows : SameRows w (w.mapDb (·.setStatus r.id status)) ↔ r.status = status :=
            ⟨fun same => written.mp same.otpRequests, fun same => ⟨rfl, rfl, written.mpr same⟩⟩
          simp [link, row, verified, rows]

end Execution

/-! ### Executions before -/

/-- No message row with this provider id is created. -/
def CreatesNone (wamid : String) (p : System) : SystemLabel → Prop
  | .resume i _ => ∀ t ∈ p.threads[i]?, t.stage.holds wamid = false
  | .external _ => True

instance (wamid : String) (p : System) : ∀ l, Decidable (CreatesNone wamid p l)
  | .resume i _ => inferInstanceAs (Decidable (∀ t ∈ p.threads[i]?, t.stage.holds wamid = false))
  | .external _ => isTrue trivial

/-- Nothing but webhook jobs runs. -/
def WebhookJobs (p : System) : SystemLabel → Prop
  | .resume i _ => (p.threads[i]?.bind Thread.execution).isSome = true
  | .external (.processWebhook ..) | .external (.tick _) => True
  | .external (.api ..) | .external (.dashboard ..) | .external (.register ..)
  | .external (.takeSendOtpJob _) => False

instance (p : System) : ∀ l, Decidable (WebhookJobs p l)
  | .resume i _ => inferInstanceAs (Decidable ((p.threads[i]?.bind Thread.execution).isSome = true))
  | .external (.processWebhook ..) | .external (.tick _) => isTrue trivial
  | .external (.api ..) | .external (.dashboard ..) | .external (.register ..)
  | .external (.takeSendOtpJob _) => isFalse id

theorem execution_holds {t : Thread} {c : WebhookCall} (execution : t.execution = some c) (wamid : String) :
    t.stage.holds wamid = false := by
  cases t with
  | webhook d =>
    simp only [Thread.stage, WebhookCall.stage]
    split <;> rfl
  | _ => cases execution

/-- Webhook jobs create no messages. -/
theorem WebhookJobs.creates_none {p : System} {l : SystemLabel} (jobs : WebhookJobs p l) (wamid : String) :
    CreatesNone wamid p l := by
  cases l with
  | external event => trivial
  | resume i a =>
    intro t there
    obtain ⟨c, execution⟩ := Option.isSome_iff_exists.mp jobs
    rw [there, Option.bind_some] at execution
    exact execution_holds execution wamid

/-- The id of the message with this provider id. -/
def Journal.messageId (j : Journal) (wamid : String) : Option Id :=
  (j.rows.find? fun row => row.2 == some wamid).map (·.1)

/-- What an execution has found is its message, and what it has passed is recorded. -/
def WebhookCall.Known (j : Journal) (c : WebhookCall) : Prop :=
  match c.pc with
  | .findMessage | .threw => True
  | .findEvent m | .updateMessage m | .createEvent m => j.messageId c.wamid = some m.id
  | .findOtpRequest _ | .updateOtpRequest .. | .markProcessed | .finished =>
    ∀ id ∈ j.messageId c.wamid, (id, c.newEventType) ∈ j.events

section Runs

variable {env : Env} {p q : System} {w w' : World} {j j' : Journal} {c c' : WebhookCall} {wamid : String}
  {a : Answer} {stage stage' : MessageStage}

theorem messageId_journal (w : World) (wamid : String) :
    w.journal.messageId wamid = (w.messageOf wamid).map (·.id) := by
  simp only [Journal.messageId, World.journal, World.messageOf, List.find?_map, Option.map_map]
  rfl

/-- A step that creates no message of this id leaves its message, and all events. -/
theorem MessageStage.Move.keeps (move : stage.Move j a j' stage') (creates_none : stage.holds wamid = false) :
    j'.messageId wamid = j.messageId wamid ∧ ∀ event ∈ j.events, event ∈ j'.events := by
  cases move with
  -- the new row may only be the first of the id when it has another id
  | create other type =>
    have apart : (other == some wamid) = false := by
      cases other with
      | none => rfl
      | some other => simpa [MessageStage.holds] using creates_none
    refine ⟨?_, fun event there => there⟩
    simp [Journal.messageId, List.find?_append, apart]
  | enter message type idle => exact ⟨rfl, fun event there => List.mem_append_left _ there⟩
  | record other type message => exact ⟨rfl, fun event there => List.mem_append_left _ there⟩
  | _ => exact ⟨rfl, fun event there => there⟩

theorem WebhookCall.known_mono (known : c.Known j) (message : j'.messageId c.wamid = j.messageId c.wamid)
    (events : ∀ event ∈ j.events, event ∈ j'.events) : c.Known j' := by
  unfold Known at known ⊢
  rw [message]
  split at known
  · trivial
  · trivial
  · exact known
  · exact known
  · exact known
  · exact fun id there => events _ (known id there)
  · exact fun id there => events _ (known id there)
  · exact fun id there => events _ (known id there)
  · exact fun id there => events _ (known id there)

/-- Once the event is there, the rest of an execution has passed it. -/
theorem WebhookCall.known_linked {m : Message} (message : j.messageId c.wamid = some m.id)
    (recorded : (m.id, c.newEventType) ∈ j.events) : (c.goto (linked m)).Known j := by
  have passed : ∀ id ∈ j.messageId c.wamid, (id, c.newEventType) ∈ j.events := by
    intro id there
    rw [message] at there
    cases there
    exact recorded
  unfold linked
  cases m.otpRequestId <;> exact passed

theorem WebhookCall.known_step {ok : Bool} (known : c.Known w.journal) (h : c.step w ok = some (w', c')) :
    (∃ pc, c' = c.goto pc) ∧ c'.Known w'.journal := by
  have answered : c.step w (Answer.mk ok "" ⟨true, none, false, none⟩).ok = some (w', c') := h
  have kept : w'.journal.messageId c.wamid = w.journal.messageId c.wamid ∧
      ∀ event ∈ w.journal.events, event ∈ w'.journal.events :=
    (step_stage answered).keeps (@execution_holds (.webhook c) c rfl c.wamid)
  cases pc : c.pc with
  | findMessage =>
    simp only [step, pc] at h
    split at h
    · split at h <;> cases h
      next m found =>
        refine ⟨⟨_, rfl⟩, ?_⟩
        have here : w.messageOf c.wamid = some m := found
        simp only [Known, goto, messageId_journal, here, Option.map_some]
      next missing =>
        refine ⟨⟨_, rfl⟩, fun id there => ?_⟩
        have nowhere : w.messageOf c.wamid = none := missing
        simp only [goto, messageId_journal, nowhere, Option.map_none] at there
        cases there
    · cases h
      exact ⟨⟨_, rfl⟩, trivial⟩
  | findEvent m =>
    have message : w.journal.messageId c.wamid = some m.id := by simpa only [Known, pc] using known
    simp only [step, pc] at h
    split at h
    · split at h <;> cases h
      next event found =>
        have own := List.find?_some found
        rw [Bool.and_eq_true, beq_iff_eq, beq_iff_eq] at own
        exact ⟨⟨_, rfl⟩, known_linked message
          (List.mem_map.mpr ⟨event, List.mem_of_find?_eq_some found, Prod.ext own.1 own.2⟩)⟩
      next missing => exact ⟨⟨_, rfl⟩, message⟩
    · cases h
      exact ⟨⟨_, rfl⟩, trivial⟩
  | updateMessage m =>
    have message : w.journal.messageId c.wamid = some m.id := by simpa only [Known, pc] using known
    simp only [step, pc] at h
    split at h <;> cases h
    · exact ⟨⟨_, rfl⟩, kept.1.trans message⟩
    · exact ⟨⟨_, rfl⟩, trivial⟩
  | createEvent m =>
    have message : w.journal.messageId c.wamid = some m.id := by simpa only [Known, pc] using known
    simp only [step, pc] at h
    split at h <;> cases h
    · refine ⟨⟨_, rfl⟩, known_linked (kept.1.trans message) ?_⟩
      rw [journal_createEvent]
      exact List.mem_append_right _ (List.mem_singleton_self _)
    · exact ⟨⟨_, rfl⟩, trivial⟩
  | findOtpRequest record =>
    have passed : ∀ id ∈ w.journal.messageId c.wamid, (id, c.newEventType) ∈ w.journal.events := by
      simpa only [Known, pc] using known
    simp only [step, pc] at h
    split at h
    · split at h
      · split at h
        · cases h
          exact ⟨⟨_, rfl⟩, passed⟩
        · split at h <;> cases h <;> exact ⟨⟨_, rfl⟩, passed⟩
      · cases h
        exact ⟨⟨_, rfl⟩, passed⟩
    · cases h
      exact ⟨⟨_, rfl⟩, trivial⟩
  | updateOtpRequest record status =>
    have passed : ∀ id ∈ w.journal.messageId c.wamid, (id, c.newEventType) ∈ w.journal.events := by
      simpa only [Known, pc] using known
    simp only [step, pc] at h
    split at h <;> cases h
    · exact ⟨⟨_, rfl⟩, passed⟩
    · exact ⟨⟨_, rfl⟩, trivial⟩
  | markProcessed =>
    have passed : ∀ id ∈ w.journal.messageId c.wamid, (id, c.newEventType) ∈ w.journal.events := by
      simpa only [Known, pc] using known
    simp only [step, pc] at h
    cases h
    refine ⟨⟨_, rfl⟩, ?_⟩
    split <;> exact passed
  | finished | threw => simp [step, pc] at h

/-- The thread executes the job, and has come this far with it. -/
def Executing (i : ℕ) (data : WebhookCall.Data) (p : System) : Prop :=
  ∃ pc, p.threads[i]?.bind Thread.execution = some ((WebhookCall.start data).goto pc) ∧
    ((WebhookCall.start data).goto pc).Known p.shared.journal

theorem Executing.step {i : ℕ} {data : WebhookCall.Data} {l : SystemLabel} (executing : Executing i data p)
    (creates_none : CreatesNone data.wamid p l) (taken : Pool.step (systemProgram env) p l = some q) :
    Executing i data q := by
  obtain ⟨pc, here, known⟩ := executing
  obtain ⟨t, found, execution⟩ := Option.bind_eq_some_iff.mp here
  cases l with
  | external event =>
    obtain ⟨s, born, acted, rfl⟩ := step_external taken
    obtain ⟨same, -⟩ := Thread.external_stage acted
    refine ⟨pc, ?_, ?_⟩
    · dsimp only
      rw [List.getElem?_append_left (List.getElem?_eq_some_iff.mp found).1]
      exact here
    · dsimp only
      rwa [same]
  | resume k a =>
    obtain ⟨u, s, u', at_k, resumed, rfl⟩ := step_resume taken
    -- the thread itself goes on, or another one steps beside it
    by_cases own : k = i
    · subst own
      rw [found] at at_k
      cases at_k
      cases t with
      | webhook c =>
        cases execution
        obtain ⟨⟨s', c'⟩, stepped, same⟩ := Option.map_eq_some_iff.mp resumed
        cases same
        obtain ⟨⟨pc', rfl⟩, still⟩ := WebhookCall.known_step known stepped
        refine ⟨pc', ?_, still⟩
        dsimp only
        rw [List.getElem?_set_self (List.getElem?_eq_some_iff.mp found).1]
        rfl
      | _ => cases execution
    · obtain ⟨message, events⟩ := (Thread.resume_stage resumed).keeps (creates_none u at_k)
      refine ⟨pc, ?_, WebhookCall.known_mono known message events⟩
      dsimp only
      rw [List.getElem?_set_ne own]
      exact here

/-- A job has been executed to its end, and other jobs before, meanwhile and after; its message was there
already. One more execution leaves messages, message events and OTP requests as they are exactly when the
linked request is verified, or has the status of the job already, or the status says nothing of it. -/
theorem reprocess_same_iff (env : Env) {p q : System} (labels : List SystemLabel) {i : ℕ}
    (data : WebhookCall.Data) (starts : p.threads[i]?.bind Thread.execution = some (.start data))
    (creates_none : Respects (Pool.step (systemProgram env)) (CreatesNone data.wamid) p labels)
    (returned : run (Pool.step (systemProgram env)) p labels = some q)
    (completed : q.threads[i]?.bind Thread.execution = some ((WebhookCall.start data).goto .finished))
    (primary : (q.shared.db.otpRequests.map (·.id)).Nodup) :
    SameRows q.shared (processWebhookJob q.shared data) ↔ StatusKept q.shared data := by
  obtain ⟨pc, there, known⟩ := run_invariant_of_respects (Executing i data)
    (fun _ _ _ executing creates_none taken => executing.step creates_none taken)
    ⟨.findMessage, starts, trivial⟩ creates_none returned
  -- the execution is at its end, so its event is recorded
  rw [completed, Option.some.injEq] at there
  obtain rfl : WebhookPc.finished = pc := congrArg WebhookCall.pc there
  have recorded : ∀ m ∈ q.shared.messageOf data.wamid,
      q.shared.board.logged (m.id, (WebhookCall.start data).newEventType) = true := by
    intro m found
    have message : q.shared.journal.messageId data.wamid = some m.id := by
      rw [messageId_journal, found]
      rfl
    obtain ⟨event, present, own⟩ := List.mem_map.mp (known m.id message)
    obtain ⟨first, second⟩ := Prod.ext_iff.mp own
    refine List.any_eq_true.mpr ⟨event, present, ?_⟩
    rw [Bool.and_eq_true, beq_iff_eq, beq_iff_eq]
    exact ⟨first, second⟩
  have rows := processWebhookJob_rows recorded
  -- without its message the job ends at once, also the second time
  cases found : q.shared.messageOf data.wamid with
  | none =>
    rw [found] at rows
    have kept : StatusKept q.shared data := by simp [StatusKept, found]
    exact ⟨fun _ => kept, fun _ => rows⟩
  | some m =>
    rw [found] at rows
    rw [← writeLinked_same_iff primary found]
    exact ⟨fun same => same.trans rows.symm, fun same => same.trans rows⟩

end Runs

/-- The job of `sent`, on the message of the accepted request. -/
def sampleSent : WebhookCall.Data := ⟨20, "wamid.1", "sent"⟩

/-- The job is executed, and then the one of `delivered`. -/
def sampleDeliveredLater : List SystemLabel :=
  resolve 2 5 ++ .external (.processWebhook 21 "wamid.1" "delivered") :: resolve 3 7

def sampleTaken : List SystemLabel := sampleAccepted ++ [.external (.processWebhook 20 "wamid.1" "sent")]

theorem reprocess_same_iff_of_sent :
    ∃ p q, run (Pool.step (systemProgram OtpPool.sampleEnv)) sampleSystem sampleTaken = some p ∧
      run (Pool.step (systemProgram OtpPool.sampleEnv)) p sampleDeliveredLater = some q ∧
      (SameRows q.shared (processWebhookJob q.shared sampleSent) ↔ StatusKept q.shared sampleSent) := by
  refine ⟨_, _, (Option.some_get (by decide +kernel)).symm, (Option.some_get (by decide +kernel)).symm, ?_⟩
  exact reprocess_same_iff OtpPool.sampleEnv sampleDeliveredLater (i := 2) sampleSent
    (by decide +kernel) (by decide +kernel) (Option.some_get (by decide +kernel)).symm (by decide +kernel)
    (by decide +kernel)

/-- `sent`, once more after `delivered`, takes the OTP request back to `sent`. -/
theorem reprocess_resets :
    ¬∀ (schedule : List SystemLabel) (p q : System) (labels : List SystemLabel) (i : ℕ) (data : WebhookCall.Data),
      run (Pool.step (systemProgram OtpPool.sampleEnv)) sampleSystem schedule = some p →
        p.threads[i]?.bind Thread.execution = some (.start data) →
          Respects (Pool.step (systemProgram OtpPool.sampleEnv)) WebhookJobs p labels →
            run (Pool.step (systemProgram OtpPool.sampleEnv)) p labels = some q →
              q.threads[i]?.bind Thread.execution = some ((WebhookCall.start data).goto .finished) →
                SameRows q.shared (processWebhookJob q.shared data) := by
  intro idempotent
  have same := (idempotent sampleTaken _ _ sampleDeliveredLater 2 sampleSent
    (Option.some_get (by decide +kernel)).symm (by decide +kernel) (by decide +kernel)
    (Option.some_get (by decide +kernel)).symm (by decide +kernel)).otpRequests
  have statuses := congrArg (List.map (·.status)) same
  revert statuses
  decide +kernel

end SelfOtp
