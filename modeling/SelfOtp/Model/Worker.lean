import SelfOtp.Model.World

/-! The queue workers: `processSendOtpJob` (`otp.worker.ts`), retried by the queue up to its
attempts, and `processWebhookJob` (`webhook.worker.ts`). -/
namespace SelfOtp

open Transition

/-! ### processSendOtpJob -/

inductive JobPc where
  | send
  | createMessage (res : SendMessageResult)
  | createEvent (res : SendMessageResult) (message : Id)
  | markSent
  | markFailed (res : SendMessageResult)
  | refund (res : SendMessageResult)
  | deadLetter (res : SendMessageResult)
  | exhaustedMark (error : String)
  | exhaustedRefund (error : String)
  | exhaustedDeadLetter (error : String)
  /-- It returned, with `success`. -/
  | completed (success : Bool)
  /-- Its last attempt threw. -/
  | failed
  deriving DecidableEq

structure JobCall where
  job : SendOtpJob
  attemptsMade : ℕ
  pc : JobPc
  deriving DecidableEq

namespace JobCall

def goto (c : JobCall) (pc : JobPc) : JobCall := { c with pc := pc }

/-- `job.opts.attempts || 3`. -/
def maxRetries (c : JobCall) : ℕ := if c.job.attempts = 0 then 3 else c.job.attempts

/-- The queue counts a failed attempt, and runs the job again while attempts are left. -/
def rethrow (c : JobCall) : JobCall :=
  { c with
    attemptsMade := c.attemptsMade + 1
    pc := if c.attemptsMade + 1 < c.job.attempts then .send else .failed }

/-- The `catch` block up to its first `await`. -/
def threw (c : JobCall) (error : String) : JobCall :=
  if c.maxRetries ≤ c.attemptsMade + 1 then c.goto (.exhaustedMark error) else c.rethrow

def message (c : JobCall) (w : World) (res : SendMessageResult) : Message :=
  { id := w.nextId
    customerId := c.job.data.customerId
    otpRequestId := some c.job.data.otpRequestDbId
    phoneNumber := c.job.data.phoneNumber
    provider := "meta"
    providerMessageId := res.providerMessageId
    status := if res.success then .sent else .failed
    errorMessage := if res.success then none else some (res.reason "Delivery failed")
    sentAt := if res.success then some w.now else none
    deliveredAt := none
    readAt := none
    failedAt := if res.success then none else some w.now }

def refunded (w : World) (c : JobCall) (reason : String) : Except WalletError World :=
  match WalletService.refundCredits resolves (w.db.wallets c.job.data.customerId) c.job.data.costCredits
      "otp_request_failure" c.job.data.requestId reason with
  | .ok (_, wallet) => .ok (w.mapDb (·.setWallet c.job.data.customerId wallet))
  | .error error => .error error

def letter (c : JobCall) (name reason : String) : DeadLetter :=
  ⟨name, c.job.id, c.job.data.requestId, c.job.data.customerId, reason⟩

def step (w : World) (c : JobCall) (a : Answer) : Option (World × JobCall) :=
  let data := c.job.data
  match c.pc with
  | .send =>
    if a.ok then
      some (sendOtp w data.phoneNumber data.otpCode data.templateName data.languageCode a.delivery,
        c.goto (.createMessage a.delivery))
    else some (w, c.threw a.error)
  | .createMessage res =>
    if a.ok then
      -- the row is created whether or not the provider took the message
      some ({ w with
          db := { w.db with messages := w.db.messages ++ [c.message w res] }
          nextId := w.nextId + 1 },
        c.goto (.createEvent res w.nextId))
    else some (w, c.threw a.error)
  | .createEvent res message =>
    if a.ok then
      let w := w.mapDb fun db => { db with
        messageEvents := db.messageEvents ++
          [⟨message, if res.success then .sent else .failed, res.providerMessageId⟩] }
      if res.success then some (w, c.goto .markSent)
      -- `TemporaryDeliveryError` goes to the `catch` of the same function
      else if res.isTemporaryError then
        some (w, c.threw (res.reason "Temporary delivery failure"))
      else some (w, c.goto (.markFailed res))
    else some (w, c.threw a.error)
  | .markSent =>
    if a.ok then some (w.mapDb (·.setStatus data.otpRequestDbId .sent), c.goto (.completed true))
    else some (w, c.threw a.error)
  | .markFailed res =>
    if a.ok then
      some (w.mapDb (·.setStatus data.otpRequestDbId .failed), c.goto (.refund res))
    else some (w, c.threw a.error)
  | .refund res =>
    if a.ok then
      match refunded w c (res.reason "Permanent Meta delivery failure") with
      | .ok w => some (w, c.goto (.deadLetter res))
      -- what `refundCredits` throws is caught like any other error
      | .error error => some (w, c.threw (error.message a.error))
    else some (w, c.threw a.error)
  | .deadLetter res =>
    if a.ok then
      some (addDeadLetter w
          (c.letter "terminal_failure" (res.reason "Permanent Meta delivery rejection")),
        c.goto (.completed false))
    else some (w, c.threw a.error)
  -- the three statements of the `catch` block each ignore their own failure
  | .exhaustedMark error =>
    some (if a.ok then w.mapDb (·.setStatus data.otpRequestDbId .failed) else w,
      c.goto (.exhaustedRefund error))
  | .exhaustedRefund error =>
    let w := if a.ok then
        match refunded w c ("Max retries exceeded: " ++ error) with
        | .ok w => w
        | .error _ => w
      else w
    some (w, c.goto (.exhaustedDeadLetter error))
  | .exhaustedDeadLetter error =>
    some (if a.ok then addDeadLetter w
          (c.letter "max_retries_exceeded" ("Max retries exceeded: " ++ error)) else w,
      c.rethrow)
  | .completed _ => none
  | .failed => none

/-! A job whose awaited calls end as laid down in advance, for every attempt. -/

inductive Await where
  | send | createMessage | createEvent | markSent | markFailed | refund | deadLetter
  | exhaustedMark | exhaustedRefund | exhaustedDeadLetter
  deriving DecidableEq

/-- The answer to each awaited call of each attempt; attempts are counted from 0. -/
abbrev Fate := ℕ → Await → Answer

def await (c : JobCall) : Option Await :=
  match c.pc with
  | .send => some .send
  | .createMessage _ => some .createMessage
  | .createEvent .. => some .createEvent
  | .markSent => some .markSent
  | .markFailed _ => some .markFailed
  | .refund _ => some .refund
  | .deadLetter _ => some .deadLetter
  | .exhaustedMark _ => some .exhaustedMark
  | .exhaustedRefund _ => some .exhaustedRefund
  | .exhaustedDeadLetter _ => some .exhaustedDeadLetter
  | .completed _ | .failed => none

def next (fate : Fate) (s : World × JobCall) : Option (World × JobCall) :=
  match s.2.await with
  | some await => s.2.step s.1 (fate s.2.attemptsMade await)
  | none => none

def start (job : SendOtpJob) : JobCall := ⟨job, 0, .send⟩

end JobCall

/-! ### processWebhookJob -/

/-- The lowercase names of what an object literal inherits: looked up in the handler's maps,
they yield a value that is no status, and a query with it throws. -/
def inheritedNames : List String := ["constructor", "__proto__"]

def statusMap : String → Option MessageStatus
  | "sent" => some .sent
  | "delivered" => some .delivered
  | "read" => some .read
  | "failed" => some .failed
  | _ => none

def eventTypeMap : String → Option MessageEventType
  | "sent" => some .sent
  | "delivered" => some .delivered
  | "read" => some .read
  | "failed" => some .failed
  | _ => none

def otpStatusMap : String → Option OtpStatus
  | "sent" => some .sent
  | "delivered" => some .delivered
  | "failed" => some .failed
  | _ => none

inductive WebhookPc where
  | findMessage
  | findEvent (message : Message)
  | updateMessage (message : Message)
  | createEvent (message : Message)
  | findOtpRequest (record : Id)
  | updateOtpRequest (record : Id) (status : OtpStatus)
  | markProcessed
  | finished
  | threw
  deriving DecidableEq

/-- One execution of `processWebhookJob`. -/
structure WebhookCall where
  eventId : Id
  wamid : String
  statusStr : String
  pc : WebhookPc
  deriving DecidableEq

namespace WebhookCall

def goto (c : WebhookCall) (pc : WebhookPc) : WebhookCall := { c with pc := pc }

def normalizedStatus (c : WebhookCall) : String := c.statusStr.toLower

def newStatus (c : WebhookCall) : MessageStatus := (statusMap c.normalizedStatus).getD .sent

def newEventType (c : WebhookCall) : MessageEventType :=
  (eventTypeMap c.normalizedStatus).getD .sent

def updated (c : WebhookCall) (now : Millis) (m : Message) : Message :=
  { m with
    status := c.newStatus
    deliveredAt := if c.newStatus = .delivered then some now else m.deliveredAt
    readAt := if c.newStatus = .read then some now else m.readAt
    failedAt := if c.newStatus = .failed then some now else m.failedAt }

/-- The part of the handler after the message has been brought up to date. -/
def linked (m : Message) : WebhookPc :=
  match m.otpRequestId with
  | some record => .findOtpRequest record
  | none => .markProcessed

def step (w : World) (c : WebhookCall) (ok : Bool) : Option (World × WebhookCall) :=
  match c.pc with
  | .findMessage =>
    if ok then
      match w.db.messages.find? fun m => m.providerMessageId == some c.wamid with
      | some m => some (w, c.goto (.findEvent m))
      | none => some (w, c.goto .markProcessed)
    else some (w, c.goto .threw)
  -- an inherited name is no value of the enum: the query with it throws
  | .findEvent m =>
    if ok && !inheritedNames.contains c.normalizedStatus then
      match w.db.messageEvents.find? fun e =>
          e.messageId == m.id && e.eventType == c.newEventType with
      -- an event of this type is there: the message stays as it is
      | some _ => some (w, c.goto (linked m))
      | none => some (w, c.goto (.updateMessage m))
    else some (w, c.goto .threw)
  -- the row is found again by its id; its other columns are not looked at
  | .updateMessage m =>
    if ok then
      some (w.mapDb fun db => { db with
          messages := db.messages.map fun r => if r.id = m.id then c.updated w.now r else r },
        c.goto (.createEvent m))
    else some (w, c.goto .threw)
  | .createEvent m =>
    if ok then
      some (w.mapDb fun db => { db with
          messageEvents := db.messageEvents ++ [⟨m.id, c.newEventType, some c.wamid⟩] },
        c.goto (linked m))
    else some (w, c.goto .threw)
  | .findOtpRequest record =>
    if ok then
      match w.db.otpRequests.find? fun r => r.id == record with
      | some r =>
        -- `otpRecord.status !== "verified"` is read here and not again before the update
        if r.status = .verified then some (w, c.goto .markProcessed)
        else match otpStatusMap c.normalizedStatus with
          | some status => some (w, c.goto (.updateOtpRequest record status))
          | none => some (w, c.goto .markProcessed)
      | none => some (w, c.goto .markProcessed)
    else some (w, c.goto .threw)
  | .updateOtpRequest record status =>
    if ok then some (w.mapDb (·.setStatus record status), c.goto .markProcessed)
    else some (w, c.goto .threw)
  | .markProcessed =>
    -- `.catch(() => {})`: the execution ends well either way
    some (if ok then w.mapDb fun db => { db with
          webhookEvents := db.webhookEvents.map fun e =>
            if e.id = c.eventId then
              { e with processingStatus := .processed, processedAt := some w.now }
            else e }
        else w,
      c.goto .finished)
  | .finished => none
  | .threw => none

/-- `ProcessWebhookJobData`. -/
structure Data where
  eventId : Id
  wamid : String
  statusStr : String
  deriving DecidableEq

def start (data : Data) : WebhookCall := ⟨data.eventId, data.wamid, data.statusStr, .findMessage⟩

/-- The next step when every awaited call resolves. -/
def next (s : World × WebhookCall) : Option (World × WebhookCall) := s.2.step s.1 true

end WebhookCall

/-- An execution whose queries are all answered; it awaits seven at most. -/
def processWebhookJob (w : World) (data : WebhookCall.Data) : World :=
  (follow WebhookCall.next 7 (w, .start data)).1

end SelfOtp
