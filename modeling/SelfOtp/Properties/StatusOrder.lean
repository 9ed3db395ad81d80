import SelfOtp.Lib.Registers
import SelfOtp.Model.System
import SelfOtp.Properties.OtpPool

/-! What is left of message and OTP statuses when webhook jobs run in one order or another. -/
namespace SelfOtp

open Transition Registers

/-! ### The board -/

/-- What webhook jobs read and write, by primary key. -/
structure Board where
  logged : Id × MessageEventType → Bool
  message : Id → Option MessageStatus
  otpRequest : Id → Option OtpStatus

/-- A status reported on a message, and what it says of an OTP request. -/
structure Report where
  message : Id
  eventType : MessageEventType
  status : MessageStatus
  otpStatus : Option (Id × OtpStatus)
  unverified : ∀ w ∈ otpStatus, w.2 ≠ .verified

namespace Report

def key (r : Report) : Id × MessageEventType := (r.message, r.eventType)

def write (r : Report) : Id × MessageStatus := (r.message, r.status)

end Report

namespace Board

/-- A status that is not `verified` is overwritten. -/
def overwrite (status old : OtpStatus) : OtpStatus := if old = .verified then old else status

def writeOtp (b : Board) : Option (Id × OtpStatus) → Board
  | none => b
  | some (id, status) =>
    { b with otpRequest :=
        Function.update b.otpRequest id ((b.otpRequest id).map (overwrite status)) }

def writeMessage (b : Board) (r : Report) : Board :=
  if b.logged r.key then b
  else
    { b with
      logged := Function.update b.logged r.key true
      message := Function.update b.message r.message ((b.message r.message).map fun _ => r.status) }

def take (b : Board) (r : Report) : Board := (b.writeMessage r).writeOtp r.otpStatus

@[simp] theorem writeOtp_logged (b : Board) (write : Option (Id × OtpStatus)) :
    (b.writeOtp write).logged = b.logged := by
  cases write <;> rfl

@[simp] theorem writeOtp_message (b : Board) (write : Option (Id × OtpStatus)) :
    (b.writeOtp write).message = b.message := by
  cases write <;> rfl

@[simp] theorem writeMessage_otpRequest (b : Board) (r : Report) :
    (b.writeMessage r).otpRequest = b.otpRequest := by
  unfold writeMessage
  split <;> rfl

def takeAll (b : Board) (reports : List Report) : Board := reports.foldl take b

/-- The status of the last report that is the first of its type on the message. -/
def lastNew (b : Board) (reports : List Report) (message : Id) : Option MessageStatus :=
  lastWrite message ((fresh Report.key b.logged reports).map Report.write)

def lastOtp (reports : List Report) (record : Id) : Option OtpStatus :=
  lastWrite record (reports.filterMap (·.otpStatus))

theorem takeAll_message (b : Board) (reports : List Report) (message : Id) :
    (b.takeAll reports).message message =
      (b.message message).map fun old => (b.lastNew reports message).getD old := by
  induction reports generalizing b with
  | nil => simp [takeAll, lastNew, fresh, lastWrite]
  | cons r reports ih =>
    have rest := ih (b.take r)
    cases before : b.logged r.key with
    | true =>
      -- the type is in the log already
      have same : b.writeMessage r = b := if_pos before
      have new : b.lastNew (r :: reports) message = (b.take r).lastNew reports message := by
        simp only [lastNew, fresh_seen before, take, same, writeOtp_logged]
      have kept : (b.take r).message message = b.message message := by
        simp only [take, same, writeOtp_message]
      show ((b.take r).takeAll reports).message message = _
      rw [rest, kept, new]
    | false =>
      have written : b.writeMessage r = { b with
          logged := Function.update b.logged r.key true
          message := Function.update b.message r.message
            ((b.message r.message).map fun _ => r.status) } := if_neg (by simp [before])
      have later (old : MessageStatus) : (b.lastNew (r :: reports) message).getD old =
          ((b.take r).lastNew reports message).getD (if r.message = message then r.status else old) := by
        simp only [lastNew, fresh_new before, take, written, writeOtp_logged, List.map_cons]
        exact (lastWrite_getD r.write _ old).symm
      simp only [later]
      show ((b.take r).takeAll reports).message message = _
      rw [rest]
      simp only [take, writeOtp_message, written]
      by_cases own : r.message = message
      · subst own
        simp [Function.comp_def]
      · simp [Function.update_of_ne (Ne.symm own), own]

theorem takeAll_otpRequest (b : Board) (reports : List Report) (record : Id) :
    (b.takeAll reports).otpRequest record =
      (b.otpRequest record).map fun old =>
        if old = .verified then old else (lastOtp reports record).getD old := by
  induction reports generalizing b with
  | nil => simp [takeAll, lastOtp, lastWrite]
  | cons r reports ih =>
    show ((b.take r).takeAll reports).otpRequest record = _
    rw [ih]
    cases write : r.otpStatus with
    | none =>
      have same : lastOtp (r :: reports) record = lastOtp reports record := by
        simp only [lastOtp, List.filterMap_cons, write]
      rw [same]
      simp only [take, write, writeOtp, writeMessage_otpRequest]
    | some w =>
      have later (old : OtpStatus) : (lastOtp (r :: reports) record).getD old =
          (lastOtp reports record).getD (if w.1 = record then w.2 else old) := by
        simp only [lastOtp, List.filterMap_cons, write]
        exact (lastWrite_getD w _ old).symm
      simp only [later, take, write, writeOtp, writeMessage_otpRequest]
      by_cases own : w.1 = record
      · subst own
        rw [Function.update_self, Option.map_map]
        congr 1
        funext old
        by_cases verified : old = .verified
        · simp [overwrite, verified]
        · simp [overwrite, verified, r.unverified w write]
      · rw [Function.update_of_ne (Ne.symm own)]
        simp only [own, if_false]

end Board

/-! ### The board of a world -/

namespace World

def board (w : World) : Board where
  logged key := w.db.messageEvents.any fun e => e.messageId == key.1 && e.eventType == key.2
  message id := (w.db.messages.find? (·.id == id)).map (·.status)
  otpRequest id := (w.db.otpRequests.find? (·.id == id)).map (·.status)

/-- The message of a provider id, and the OTP request that it is linked to. -/
def linkOf (w : World) (wamid : String) : Option (Id × Option Id) :=
  (w.db.messages.find? fun m => m.providerMessageId == some wamid).map fun m =>
    (m.id, m.otpRequestId)

end World

theorem find?_map_keep {α : Type} {p : α → Bool} {f : α → α} (keeps : ∀ a, p (f a) = p a)
    (l : List α) : (l.map f).find? p = (l.find? p).map f := by
  rw [List.find?_map]
  congr 2
  funext a
  exact keeps a

/-- Writing to the rows of an id changes the column of that id. -/
theorem find?_update {α ν : Type} (id : α → Id) (column : α → ν) (f : α → α) (k : Id) (v : ν)
    (keeps : ∀ a, id (f a) = id a) (writes : ∀ a, column (f a) = v) (l : List α) :
    (fun i => ((l.map fun a => if id a = k then f a else a).find? (id · == i)).map column) =
      Function.update (fun i => (l.find? (id · == i)).map column) k
        (((l.find? (id · == k)).map column).map fun _ => v) := by
  funext i
  rw [find?_map_keep (by intro a; split <;> simp [keeps])]
  by_cases own : i = k
  · subst own
    rw [Function.update_self]
    cases found : l.find? (id · == i) with
    | none => rfl
    | some a =>
      have here : id a = i := by simpa using List.find?_some found
      simp [here, writes]
  · rw [Function.update_of_ne own]
    cases found : l.find? (id · == i) with
    | none => rfl
    | some a =>
      have here : id a = i := by simpa using List.find?_some found
      simp [here, own]

section Effects

variable (w : World) (c : WebhookCall)

theorem board_setStatus (record : Id) (status : OtpStatus) :
    (w.mapDb (·.setStatus record status)).board =
      { w.board with
        otpRequest := Function.update w.board.otpRequest record
          ((w.board.otpRequest record).map fun _ => status) } := by
  have rows := find?_update OtpRequest.id OtpRequest.status
    (fun r => { r with status := status }) record status (fun _ => rfl) (fun _ => rfl) w.db.otpRequests
  simp only [World.board, World.mapDb, Database.setStatus, Database.updateOtpRequest, rows]

/-- `messages.update` of the handler. -/
def updateMessage (m : Message) : World :=
  w.mapDb fun db =>
    { db with messages := db.messages.map fun r => if r.id = m.id then c.updated w.now r else r }

theorem board_updateMessage (m : Message) :
    (updateMessage w c m).board =
      { w.board with
        message := Function.update w.board.message m.id
          ((w.board.message m.id).map fun _ => c.newStatus) } := by
  have rows := find?_update Message.id Message.status (c.updated w.now) m.id c.newStatus
    (fun _ => rfl) (fun _ => rfl) w.db.messages
  simp only [World.board, updateMessage, World.mapDb, rows]

theorem linkOf_updateMessage (m : Message) : (updateMessage w c m).linkOf = w.linkOf := by
  funext wamid
  simp only [World.linkOf, updateMessage, World.mapDb]
  rw [find?_map_keep (by intro r; split <;> rfl), Option.map_map]
  congr 1
  funext r
  simp only [Function.comp_apply]
  split <;> rfl

/-- `message_events.create` of the handler. -/
def createEvent (m : Message) : World :=
  w.mapDb fun db =>
    { db with messageEvents := db.messageEvents ++ [⟨m.id, c.newEventType, some c.wamid⟩] }

theorem board_createEvent (m : Message) :
    (createEvent w c m).board =
      { w.board with logged := Function.update w.board.logged (m.id, c.newEventType) true } := by
  simp only [World.board, createEvent, World.mapDb]
  congr 1
  funext key
  rw [List.any_append]
  by_cases own : key = (m.id, c.newEventType)
  · subst own
    simp
  · rw [Function.update_of_ne own]
    have apart : (m.id == key.1 && c.newEventType == key.2) = false := by
      rw [Bool.and_eq_false_iff, beq_eq_false_iff_ne, beq_eq_false_iff_ne, ← not_and_or]
      rintro ⟨first, second⟩
      exact own (Prod.ext first.symm second.symm)
    simp [apart]

end Effects

/-! ### An execution -/

theorem otpStatusMap_unverified {name : String} {status : OtpStatus}
    (mapped : otpStatusMap name = some status) : status ≠ .verified := by
  unfold otpStatusMap at mapped
  split at mapped <;> cases mapped <;> decide

/-- What a job reports on a message, with the OTP request that this is linked to. -/
def WebhookCall.reportOn (c : WebhookCall) (link : Id × Option Id) : Report where
  message := link.1
  eventType := c.newEventType
  status := c.newStatus
  otpStatus := link.2.bind fun record => (otpStatusMap c.normalizedStatus).map (record, ·)
  unverified := by
    intro w reported
    obtain ⟨record, -, mapped⟩ := Option.bind_eq_some_iff.mp reported
    obtain ⟨status, here, rfl⟩ := Option.map_eq_some_iff.mp mapped
    exact otpStatusMap_unverified here

/-- A job reports nothing without its message, or with a status that makes a query throw. -/
def World.report (w : World) (data : WebhookCall.Data) : Option Report :=
  if inheritedNames.contains (WebhookCall.start data).normalizedStatus then none
  else (w.linkOf data.wamid).map (WebhookCall.start data).reportOn

/-- Within `n` steps the call ends, with this board and the same messages. -/
def Outcome (n : ℕ) (w : World) (c : WebhookCall) (b : Board) (links : String → Option (Id × Option Id)) :
    Prop :=
  ∃ s, Passes WebhookCall.next n (w, c) s ∧ WebhookCall.next s = none ∧ s.1.board = b ∧ s.1.linkOf = links

section Steps

variable {w w' : World} {c c' : WebhookCall} {b : Board} {links : String → Option (Id × Option Id)} {n : ℕ}

theorem Outcome.step (taken : WebhookCall.next (w, c) = some (w', c'))
    (later : Outcome n w' c' b links) : Outcome (n + 1) w c b links := by
  obtain ⟨s, passes, rest⟩ := later
  exact ⟨s, .step taken passes, rest⟩

theorem Outcome.mono {m : ℕ} (outcome : Outcome m w c b links) (le : m ≤ n) :
    Outcome n w c b links := by
  obtain ⟨s, passes, rest⟩ := outcome
  exact ⟨s, passes.mono le, rest⟩

theorem outcome_stopped (stopped : WebhookCall.next (w, c) = none) :
    Outcome 0 w c w.board w.linkOf := ⟨(w, c), .here, stopped, rfl, rfl⟩

theorem outcome_markProcessed (w : World) (c : WebhookCall) :
    Outcome 1 w (c.goto .markProcessed) w.board w.linkOf := .step rfl (outcome_stopped rfl)

/-- Where an execution goes from its query for the OTP request. -/
theorem next_findOtpRequest (w : World) (c : WebhookCall) (record : Id) :
    WebhookCall.next (w, c.goto (.findOtpRequest record)) =
      some (w, c.goto (match w.db.otpRequests.find? fun r => r.id == record with
        | none => .markProcessed
        | some r =>
          if r.status = .verified then .markProcessed
          else match otpStatusMap c.normalizedStatus with
            | some status => .updateOtpRequest record status
            | none => .markProcessed)) := by
  have same_status : (c.goto (.findOtpRequest record)).normalizedStatus = c.normalizedStatus := rfl
  simp only [WebhookCall.next, WebhookCall.step, same_status, if_true]
  simp only [WebhookCall.goto]
  cases w.db.otpRequests.find? fun r => r.id == record with
  | none => rfl
  | some r =>
    by_cases verified : r.status = .verified
    · simp only [verified, if_true]
    · simp only [verified, if_false]
      cases otpStatusMap c.normalizedStatus <;> rfl

theorem outcome_updateOtpRequest (w : World) (c : WebhookCall) (record : Id) (status : OtpStatus) :
    Outcome 2 w (c.goto (.updateOtpRequest record status))
      { w.board with
        otpRequest := Function.update w.board.otpRequest record
          ((w.board.otpRequest record).map fun _ => status) } w.linkOf := by
  rw [← board_setStatus]
  exact .step rfl (outcome_markProcessed _ c)

theorem outcome_findOtpRequest (w : World) (c : WebhookCall) (record : Id) :
    Outcome 3 w (c.goto (.findOtpRequest record))
      (w.board.writeOtp ((otpStatusMap c.normalizedStatus).map (record, ·))) w.linkOf := by
  -- no row, a verified row, or a status that says nothing of the request: nothing is written
  have skipped (kept : ∀ status ∈ otpStatusMap c.normalizedStatus,
        (w.board.otpRequest record).map (Board.overwrite status) = w.board.otpRequest record)
      (taken : WebhookCall.next (w, c.goto (.findOtpRequest record)) =
        some (w, c.goto .markProcessed)) :
      Outcome 3 w (c.goto (.findOtpRequest record))
        (w.board.writeOtp ((otpStatusMap c.normalizedStatus).map (record, ·))) w.linkOf := by
    have same : w.board.writeOtp ((otpStatusMap c.normalizedStatus).map (record, ·)) = w.board := by
      cases mapped : otpStatusMap c.normalizedStatus with
      | none => rfl
      | some status =>
        simp only [Option.map_some, Board.writeOtp, kept status mapped, Function.update_eq_self]
    rw [same]
    exact (Outcome.step taken (outcome_markProcessed w c)).mono (by decide)
  have row : w.board.otpRequest record = (w.db.otpRequests.find? (·.id == record)).map (·.status) := rfl
  have taken := next_findOtpRequest w c record
  cases found : w.db.otpRequests.find? (·.id == record) with
  | none =>
    rw [found] at taken
    apply skipped _ taken
    intro status _
    rw [row, found]
    rfl
  | some r =>
    rw [found] at taken
    by_cases verified : r.status = .verified
    · simp only [verified, if_true] at taken
      apply skipped _ taken
      intro status _
      rw [row, found]
      simp [Board.overwrite, verified]
    · simp only [verified, if_false] at taken
      cases mapped : otpStatusMap c.normalizedStatus with
      | none =>
        rw [mapped] at taken
        rw [← mapped]
        apply skipped _ taken
        intro status some
        rw [mapped] at some
        cases some
      | some status =>
        have written : w.board.writeOtp (some (record, status)) = { w.board with
            otpRequest := Function.update w.board.otpRequest record
              ((w.board.otpRequest record).map fun _ => status) } := by
          simp only [Board.writeOtp, row, found, Option.map_some, Board.overwrite, verified, if_false]
        rw [mapped] at taken
        rw [Option.map_some, written]
        exact .step taken (outcome_updateOtpRequest w c record status)

theorem outcome_linked (w : World) (c : WebhookCall) (m : Message) :
    Outcome 3 w (c.goto (WebhookCall.linked m))
      (w.board.writeOtp (m.otpRequestId.bind fun record =>
        (otpStatusMap c.normalizedStatus).map (record, ·))) w.linkOf := by
  unfold WebhookCall.linked
  cases m.otpRequestId with
  | none => exact (outcome_markProcessed w c).mono (by decide)
  | some record => exact outcome_findOtpRequest w c record

theorem outcome_updateMessage (w : World) (c : WebhookCall) (m : Message)
    (new : w.board.logged (m.id, c.newEventType) = false) :
    Outcome 5 w (c.goto (.updateMessage m)) (w.board.take (c.reportOn (m.id, m.otpRequestId)))
      w.linkOf := by
  let report := c.reportOn (m.id, m.otpRequestId)
  let w' := updateMessage w c m
  have written : w.board.writeMessage report = (createEvent w' c m).board := by
    rw [board_createEvent, board_updateMessage]
    exact if_neg (Bool.eq_false_iff.mp new)
  have links : (createEvent w' c m).linkOf = w.linkOf := linkOf_updateMessage w c m
  have ends := outcome_linked (createEvent w' c m) c m
  rw [← written, links] at ends
  have created : WebhookCall.next (w', c.goto (.createEvent m)) =
      some (createEvent w' c m, c.goto (WebhookCall.linked m)) := rfl
  have updated : WebhookCall.next (w, c.goto (.updateMessage m)) =
      some (w', c.goto (.createEvent m)) := rfl
  exact .step updated (.step created ends)

theorem next_findEvent (w : World) (c : WebhookCall) (m : Message)
    (named : inheritedNames.contains c.normalizedStatus = false) :
    WebhookCall.next (w, c.goto (.findEvent m)) =
      some (w, c.goto (if w.board.logged (m.id, c.newEventType) then WebhookCall.linked m
        else .updateMessage m)) := by
  have allowed : (true && !inheritedNames.contains c.normalizedStatus) = true := by rw [named]; rfl
  let recorded (e : MessageEvent) : Bool := e.messageId == m.id && e.eventType == c.newEventType
  have looked : (w.db.messageEvents.find? recorded).isSome = w.board.logged (m.id, c.newEventType) :=
    List.isSome_find?
  rw [← looked]
  refine (if_pos allowed).trans ?_
  split
  next event found =>
    have here : w.db.messageEvents.find? recorded = some event := found
    rw [here]
    rfl
  next found =>
    have nowhere : w.db.messageEvents.find? recorded = none := found
    rw [nowhere]
    rfl

theorem outcome_findEvent (w : World) (c : WebhookCall) (m : Message)
    (named : inheritedNames.contains c.normalizedStatus = false) :
    Outcome 6 w (c.goto (.findEvent m)) (w.board.take (c.reportOn (m.id, m.otpRequestId)))
      w.linkOf := by
  have taken := next_findEvent w c m named
  cases recorded : w.board.logged (m.id, c.newEventType) with
  | true =>
    -- an event of the type is there: only the OTP request may still change
    have same : w.board.writeMessage (c.reportOn (m.id, m.otpRequestId)) = w.board := if_pos recorded
    rw [recorded] at taken
    rw [Board.take, same]
    exact (Outcome.step taken (outcome_linked w c m)).mono (by decide)
  | false =>
    rw [recorded] at taken
    exact .step taken (outcome_updateMessage w c m recorded)

theorem next_missed {data : WebhookCall.Data}
    (missing : (w.db.messages.find? fun m => m.providerMessageId == some data.wamid) = none) :
    WebhookCall.next (w, .start data) = some (w, (WebhookCall.start data).goto .markProcessed) := by
  simp only [WebhookCall.next, WebhookCall.step, WebhookCall.start, missing, if_true]

theorem next_looked {data : WebhookCall.Data} {m : Message}
    (found : (w.db.messages.find? fun m => m.providerMessageId == some data.wamid) = some m) :
    WebhookCall.next (w, .start data) = some (w, (WebhookCall.start data).goto (.findEvent m)) := by
  simp only [WebhookCall.next, WebhookCall.step, WebhookCall.start, found, if_true]

/-- The query for the event throws. -/
theorem next_inherited {m : Message} (named : inheritedNames.contains c.normalizedStatus = true) :
    WebhookCall.next (w, c.goto (.findEvent m)) = some (w, c.goto .threw) := by
  have refused : ¬(true && !inheritedNames.contains c.normalizedStatus) = true := by
    rw [named]
    decide
  exact if_neg refused

theorem outcome_findMessage (w : World) (data : WebhookCall.Data) :
    Outcome 7 w (.start data)
      (match w.report data with | some r => w.board.take r | none => w.board) w.linkOf := by
  cases found : w.db.messages.find? fun m => m.providerMessageId == some data.wamid with
  | none =>
    have link : w.linkOf data.wamid = none := by rw [World.linkOf, found]; rfl
    have none : w.report data = none := by
      unfold World.report
      split
      · rfl
      · rw [link]; rfl
    rw [none]
    exact (Outcome.step (next_missed found) (outcome_markProcessed w _)).mono (by decide)
  | some m =>
    have link : w.linkOf data.wamid = some (m.id, m.otpRequestId) := by rw [World.linkOf, found]; rfl
    cases named : inheritedNames.contains (WebhookCall.start data).normalizedStatus with
    | true =>
      have nothing : w.report data = none := if_pos named
      rw [nothing]
      exact (Outcome.step (next_looked found) (.step (next_inherited named) (outcome_stopped rfl))).mono
        (by decide)
    | false =>
      have reported : w.report data = some ((WebhookCall.start data).reportOn (m.id, m.otpRequestId)) := by
        rw [World.report, if_neg (Bool.eq_false_iff.mp named), link]
        rfl
      rw [reported]
      exact .step (next_looked found) (outcome_findEvent w _ m named)

end Steps

/-- An execution ends, and takes its report to the board. -/
theorem board_processWebhookJob (w : World) (data : WebhookCall.Data) :
    (processWebhookJob w data).board =
        (match w.report data with | some r => w.board.take r | none => w.board) ∧
      (processWebhookJob w data).linkOf = w.linkOf := by
  obtain ⟨s, passes, stopped, same⟩ := outcome_findMessage w data
  rw [processWebhookJob, passes.stopped stopped]
  exact same

/-! ### Sequences of executions -/

/-- An execution, and the time that passes before it. -/
structure Execution where
  delay : Millis
  data : WebhookCall.Data

def executeAll (w : World) (executions : List Execution) : World :=
  executions.foldl (fun w e => processWebhookJob (w.tick e.delay) e.data) w

def World.reports (w : World) (executions : List Execution) : List Report :=
  executions.filterMap fun e => w.report e.data

theorem board_executeAll (w : World) (executions : List Execution) :
    (executeAll w executions).board = w.board.takeAll (w.reports executions) := by
  induction executions generalizing w with
  | nil => rfl
  | cons e executions ih =>
    obtain ⟨board, links⟩ := board_processWebhookJob (w.tick e.delay) e.data
    -- the messages and their links stay the same, and with them what the others report
    have same (data : WebhookCall.Data) :
        (processWebhookJob (w.tick e.delay) e.data).report data = w.report data := by
      unfold World.report
      rw [links]
      rfl
    have later : (processWebhookJob (w.tick e.delay) e.data).reports executions =
        w.reports executions := by
      simp only [World.reports, same]
    show (executeAll (processWebhookJob (w.tick e.delay) e.data) executions).board = _
    rw [ih, board, later, World.reports, World.reports, List.filterMap_cons]
    show Board.takeAll (match w.report e.data with | some r => w.board.take r | none => w.board) _ = _
    cases w.report e.data with
    | none => rfl
    | some r => rfl

/-- Every message and every OTP request has the same status. -/
structure SameStatuses (w w' : World) : Prop where
  messages : ∀ id, w.board.message id = w'.board.message id
  otpRequests : ∀ id, w.board.otpRequest id = w'.board.otpRequest id

/-- For each message, the last report of a type that its log does not have yet is of the same status
in both sequences, and so is for each OTP request that is not verified the last one that says
something of it. -/
structure SameLast (w : World) (first second : List Execution) : Prop where
  messages : ∀ id, (w.board.message id).isSome →
    w.board.lastNew (w.reports first) id = w.board.lastNew (w.reports second) id
  otpRequests : ∀ id status, w.board.otpRequest id = some status → status ≠ .verified →
    Board.lastOtp (w.reports first) id = Board.lastOtp (w.reports second) id

theorem Board.lastNew_isSome {b : Board} {reports : List Report} {message : Id} :
    (b.lastNew reports message).isSome ↔ ∃ r ∈ reports, b.logged r.key = false ∧ r.message = message := by
  have keys : (∃ r ∈ fresh Report.key b.logged reports, r.key.1 = message) ↔
      ∃ r ∈ reports, b.logged r.key = false ∧ r.key.1 = message :=
    exists_fresh (P := fun key : Id × MessageEventType => key.1 = message)
  rw [Board.lastNew, lastWrite_isSome]
  simp only [List.mem_map, exists_exists_and_eq_and]
  exact keys

theorem Board.lastOtp_isSome {reports : List Report} {record : Id} :
    (Board.lastOtp reports record).isSome ↔ ∃ r ∈ reports, ∃ w ∈ r.otpStatus, w.1 = record := by
  rw [Board.lastOtp, lastWrite_isSome]
  simp only [List.mem_filterMap]
  constructor
  · rintro ⟨w, ⟨r, member, reported⟩, own⟩
    exact ⟨r, member, w, reported, own⟩
  · rintro ⟨r, member, w, reported, own⟩
    exact ⟨w, ⟨r, member, reported⟩, own⟩

theorem eq_of_getD_eq {ν : Type} {a b : Option ν} {old : ν} (both : a.isSome ↔ b.isSome)
    (same : a.getD old = b.getD old) : a = b := by
  cases a with
  | none =>
    cases b with
    | none => rfl
    | some v => simp at both
  | some u =>
    cases b with
    | none => simp at both
    | some v => exact congrArg some same

/-- Two orders of the same executions leave the same statuses exactly when they agree on the last
reports that count. -/
theorem sameStatuses_iff_sameLast (w : World) {first second : List Execution}
    (perm : (first.map (·.data)).Perm (second.map (·.data))) :
    SameStatuses (executeAll w first) (executeAll w second) ↔ SameLast w first second := by
  -- both sequences report the same, in another order
  have reports : (w.reports first).Perm (w.reports second) := by
    have mapped (executions : List Execution) :
        w.reports executions = (executions.map (·.data)).filterMap w.report := by
      rw [List.filterMap_map]
      rfl
    rw [mapped, mapped]
    exact perm.filterMap w.report
  have member (r : Report) : r ∈ w.reports first ↔ r ∈ w.reports second := reports.mem_iff
  constructor
  · intro same
    constructor
    · intro id there
      obtain ⟨old, here⟩ := Option.isSome_iff_exists.mp there
      have statuses := same.messages id
      simp only [board_executeAll, Board.takeAll_message, here, Option.map_some,
        Option.some.injEq] at statuses
      -- both orders have a last report on the row, or neither has
      apply eq_of_getD_eq _ statuses
      simp only [Board.lastNew_isSome, member]
    · intro id old here unverified
      have statuses := same.otpRequests id
      simp only [board_executeAll, Board.takeAll_otpRequest, here, Option.map_some,
        Option.some.injEq, unverified, if_false] at statuses
      apply eq_of_getD_eq _ statuses
      simp only [Board.lastOtp_isSome, member]
  · intro last
    constructor
    · intro id
      simp only [board_executeAll, Board.takeAll_message]
      cases here : w.board.message id with
      | none => rfl
      | some old =>
        have same := last.messages id (by rw [here]; rfl)
        rw [same]
    · intro id
      simp only [board_executeAll, Board.takeAll_otpRequest]
      cases here : w.board.otpRequest id with
      | none => rfl
      | some old =>
        by_cases verified : old = .verified
        · simp only [Option.map_some, verified, if_true]
        · simp only [Option.map_some, verified, if_false]
          rw [last.otpRequests id old here verified]

/-! ### Delivered and read -/

/-- A request whose job the provider has accepted as `wamid.1`. -/
def sampleAccepted : List SystemLabel :=
  sampleCustomSend ++ .external (.takeSendOtpJob 0) :: .resume 1 (.accepted "wamid.1") :: resolve 1 3

def sampleReports : List Execution :=
  [⟨0, 20, "wamid.1", "sent"⟩, ⟨5, 21, "wamid.1", "delivered"⟩, ⟨9, 22, "wamid.1", "read"⟩]

theorem sameStatuses_sent_late :
    ∃ q, run (Pool.step (systemProgram OtpPool.sampleEnv)) sampleSystem sampleAccepted = some q ∧
      (SameStatuses (executeAll q.shared sampleReports) (executeAll q.shared sampleReports.reverse) ↔
        SameLast q.shared sampleReports sampleReports.reverse) :=
  ⟨_, (Option.some_get (by decide +kernel)).symm, sameStatuses_iff_sameLast _ (by decide)⟩

/-- `delivered` after `read` takes the message back to `delivered`. -/
theorem order_matters :
    ¬∀ (schedule : List SystemLabel) (q : System),
      run (Pool.step (systemProgram OtpPool.sampleEnv)) sampleSystem schedule = some q →
        ∀ first second : List Execution, (first.map (·.data)).Perm (second.map (·.data)) →
          SameStatuses (executeAll q.shared first) (executeAll q.shared second) := by
  intro independent
  have same := (independent sampleAccepted _ (Option.some_get (by decide +kernel)).symm sampleReports
    sampleReports.reverse (by decide)).messages 12
  revert same
  decide +kernel

end SelfOtp
