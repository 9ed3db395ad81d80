import SelfOtp.Model.EdgeSystem

/-! The Edge function `meta-webhook` (`supabase/functions/meta-webhook/index.ts`) from the parsed
payload on, and the calls of both Edge functions interleaved. No query of it rejects: one that fails
yields no data. -/
namespace SelfOtp.Edge

/-! ### The loops over the payload -/

/-- `id` and `status` of a `statusObj`. -/
structure StatusUpdate where
  id : Option Json
  status : Option Json

/-- What the nested loops come to, in order; `none` is a `TypeError`, which ends them. -/
abbrev Updates := List (Option StatusUpdate)

/-- `for (const e of iterable || []) body(e)`; the iterable is `none` when reading it throws. -/
def forOf (iterable : Option (Option Json)) (body : Json → Updates) : Updates :=
  match iterable with
  | none => [none]
  | some iterable =>
    match (Json.orElse iterable (.array [])).iterate with
    | some elements => elements.flatMap body
    | none => [none]

def statusLoop (statusObj : Json) : Updates :=
  match statusObj.get "id", statusObj.get "status" with
  | some id, some status => [some ⟨id, status⟩]
  | _, _ => [none]

/-- `change.value?.statuses`. -/
def statusesOf (change : Json) : Option (Option Json) :=
  match change.get "value" with
  | none => none
  | some none => some none
  | some (some .null) => some none
  | some (some value) => value.get "statuses"

def changeLoop (change : Json) : Updates := forOf (statusesOf change) statusLoop

def entryLoop (entry : Json) : Updates := forOf (entry.get "changes") changeLoop

def updates (payload : Json) : Updates := forOf (payload.get "entry") entryLoop

/-! ### The handler -/

inductive WebhookReply where
  | eventReceived
  /-- The loops threw, and nothing catches it. -/
  | crashed
  deriving DecidableEq

/-- An awaited query about one status; `rest` is what the loops come to after it. -/
inductive WebhookPc where
  | logEvent (messageId : JsString) (status : Option Json) (rest : Updates)
  | findMessage (messageId : JsString) (status : Option Json) (rest : Updates)
  | updateMessage (index : ℕ) (msg : Message) (status : Option Json) (rest : Updates)
  | findOtp (otpRequestId : Id) (status : Option Json) (rest : Updates)
  | updateOtp (otp : OtpRequest) (failed : Bool) (rest : Updates)
  | refund (otp : OtpRequest) (rest : Updates)
  | answered (reply : WebhookReply)

structure WebhookCall where
  pc : WebhookPc

/-- The value of the `status` column for the new status, if it has one. -/
def messageStatus (status : Option Json) : Option MessageStatus :=
  match status with
  | some (.string s) =>
    if s = js "queued" then some .queued
    else if s = js "sent" then some .sent
    else if s = js "delivered" then some .delivered
    else if s = js "read" then some .read
    else if s = js "failed" then some .failed
    else none
  | _ => none

/-- `status === text`. -/
def statusIs (status : Option Json) (text : String) : Bool :=
  match status with
  | some (.string s) => s == js text
  | _ => false

/-- The text of a status in a template literal; the outer `none` is a `TypeError`. -/
def statusText : Option Json → Option JsString
  | none => some (js "undefined")
  | some status => status.toText

namespace WebhookCall

/-- The loops up to the next awaited query. -/
def proceed (w : World) : Updates → WebhookPc
  | [] => .answered .eventReceived
  | none :: _ => .answered .crashed
  | some update :: rest =>
    let messageId :=
      Json.orElse update.id (.string (js ("wamid_unknown_" ++ toString w.now)))
    -- the line that is logged first
    match messageId.toText, statusText update.status with
    | some messageId, some _ => .logEvent messageId update.status rest
    | _, _ => .answered .crashed

def start (w : World) (payload : Json) : WebhookCall := ⟨proceed w (updates payload)⟩

/-- The amount of `// Refund 1 credit on delivery failure`. -/
def refundAmount : ℚ := 1

def step (w : World) (c : WebhookCall) (a : Answer) : Option (World × WebhookCall) :=
  match c.pc with
  -- nothing reads the table of events, and no key of it is unique
  | .logEvent messageId status rest => some (w, ⟨.findMessage messageId status rest⟩)
  | .findMessage messageId status rest =>
    let rows := w.db.messages.zipIdx.filter fun (msg, _) => msg.providerMessageId == messageId
    match (if a.ok then single rows else none) with
    | some (msg, index) => some (w, ⟨.updateMessage index msg status rest⟩)
    | none => some (w, ⟨proceed w rest⟩)
  -- a value that the column does not take is refused
  | .updateMessage index msg status rest =>
    let next : WebhookCall := ⟨.findOtp msg.otpRequestId status rest⟩
    match (if a.ok then messageStatus status else none) with
    | some newStatus =>
      some ({ w with db := { w.db with
        messages := w.db.messages.modify index fun msg => { msg with status := newStatus } } }, next)
    | none => some (w, next)
  | .findOtp otpRequestId status rest =>
    match (if a.ok then single (w.db.otpRequests.filter (·.id == otpRequestId)) else none) with
    | some otp =>
      if otp.status = .verified then some (w, ⟨proceed w rest⟩)
      else if statusIs status "delivered" then some (w, ⟨.updateOtp otp false rest⟩)
      else if statusIs status "failed" then some (w, ⟨.updateOtp otp true rest⟩)
      else some (w, ⟨proceed w rest⟩)
    | none => some (w, ⟨proceed w rest⟩)
  | .updateOtp otp failed rest =>
    let w := if a.ok then
        { w with db := w.db.setStatus otp.id (if failed then .failed else .delivered) }
      else w
    some (w, ⟨if failed then .refund otp rest else proceed w rest⟩)
  -- the call names no `p_reference_id`, and its result is not looked at
  | .refund otp rest =>
    let db := match (if a.ok then
        w.db.refundWalletCredit otp.customerId refundAmount none (js "Delivery failure refund")
      else none) with
      | some (db, _) => db
      | none => w.db
    some ({ w with db := db }, ⟨proceed w rest⟩)
  | .answered _ => none

end WebhookCall

/-! ### Both functions -/

inductive Party where
  | call (t : Thread)
  | webhook (c : WebhookCall)

inductive PartyEvent where
  | call (event : Event)
  /-- Meta reports statuses. -/
  | webhook (payload : Json)

namespace Party

def resume (env : Env) (w : World) (t : Party) (a : Answer) : Option (World × Party) :=
  match t with
  | call t => (t.resume env w a).map fun (w, t) => (w, call t)
  | webhook c => (c.step w a).map fun (w, c) => (w, webhook c)

def external (w : World) (event : PartyEvent) : Option (World × List Party) :=
  match event with
  | .call event => (Thread.external w event).map fun (w, born) => (w, born.map call)
  | .webhook payload => some (w, [webhook (.start w payload)])

end Party

abbrev PartySystem := Pool World Party

abbrev PartyLabel := Pool.Label Answer PartyEvent

def partyProgram (env : Env) : Pool.Program World Party Answer PartyEvent :=
  ⟨Party.resume env, Party.external⟩

/-- One status of one message. -/
def statusPayload (messageId status : String) : Json :=
  .object [(js "entry", .array [.object [(js "changes", .array [.object [(js "value",
    .object [(js "statuses", .array [.object [(js "id", .string (js messageId)),
      (js "status", .string (js status))]])])]])]])]

/-- The sample request has been sent with the message `wamid.1`. -/
def sampleDelivery : PartySystem :=
  let w := sampleSent.shared
  ⟨{ w with db := { w.db with messages :=
    [⟨1, 10, "meta", js "wamid.1", js "+4915112345678", "authentication", .sent⟩] } }, []⟩

/-- The next `n` queries that party `i` awaits all resolve. -/
def settle (i n : ℕ) : List PartyLabel := List.replicate n (.resume i resolved)

end SelfOtp.Edge
