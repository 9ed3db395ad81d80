import SelfOtp.Lib.Json
import SelfOtp.Model.Basic

/-! `POST /v1/webhooks/meta` (`webhooks.routes.ts`) and `verifyMetaSignature` (`crypto.ts`). -/
namespace SelfOtp

/-- A digest of HMAC-SHA256. -/
abbrev Digest := { bytes : List UInt8 // bytes.length = 32 }

structure WebhookRequest where
  contentType : Option String
  body : List UInt8
  /-- The `x-hub-signature-256` header. -/
  signature : Option String
  deriving DecidableEq

/-- One status that the payload reports, with the idempotency key of its event. -/
structure StatusItem where
  wamid : Json
  statusStr : Json
  eventIdempotencyKey : JsString
  payload : Json

/-- The configuration, and what the route takes from outside: HMAC-SHA256, Fastify's parser of
request bodies (`none` when it answers 400, `some none` when there is no body), and whether Prisma
and PostgreSQL take the values of a row (types, lengths, characters). -/
structure WebhookEnv where
  metaAppSecret : String
  hmacSha256 : String → List UInt8 → Digest
  parseBody : WebhookRequest → Option (Option Json)
  storable : StatusItem → Bool

/-! ### verifyMetaSignature -/

def hexAlphabet : List Char := "0123456789abcdef".toList

def hexByte (b : UInt8) : List Char :=
  [hexAlphabet.getD (b.toNat / 16) '0', hexAlphabet.getD (b.toNat % 16) '0']

/-- `digest("hex")`. -/
def hex (bytes : List UInt8) : List Char := bytes.flatMap hexByte

def hexValue (c : Char) : Option ℕ := hexAlphabet.idxOf? c.toLower

/-- `Buffer.from(_, "hex")`, which stops at the first pair that is not hexadecimal. -/
def bufferFromHex : List Char → List UInt8
  | a :: b :: rest =>
    match hexValue a, hexValue b with
    | some x, some y => (16 * x + y).toUInt8 :: bufferFromHex rest
    | _, _ => []
  | [_] => []
  | [] => []

/-- `crypto.timingSafeEqual`; it throws when the lengths differ. -/
def timingSafeEqual (a b : List UInt8) : Option Bool :=
  if a.length = b.length then some (a == b) else none

/-- `none` when it throws: hashing `undefined` does, and so does the comparison of buffers of
different lengths. -/
def verifyMetaSignature (env : WebhookEnv) (rawBody : Option JsString) (signatureHeader appSecret : String) :
    Option Bool :=
  let header := signatureHeader.toList
  if !("sha256=".toList.isPrefixOf header) then some false
  else
    let signature := header.drop 7
    match rawBody with
    | none => none
    | some data =>
      let expectedSignature := hex (env.hmacSha256 appSecret (JsString.utf8 data)).1
      if signature.length ≠ expectedSignature.length then some false
      else timingSafeEqual (bufferFromHex signature) (bufferFromHex expectedSignature)

/-! ### The ingestion loop -/

/-- The items that a loop comes to, and whether it ends with a `TypeError`. -/
structure Loop where
  items : List StatusItem
  threw : Bool

namespace Loop

def nothing : Loop := ⟨[], false⟩

def typeError : Loop := ⟨[], true⟩

/-- `for (const e of elements) body(e)`. -/
def each (body : Json → Loop) : List Json → Loop
  | [] => nothing
  | e :: rest =>
    let first := body e
    if first.threw then first
    else
      let others := each body rest
      ⟨first.items ++ others.items, others.threw⟩

def forOf (iterable : Json) (body : Json → Loop) : Loop :=
  match iterable.iterate with
  | some elements => each body elements
  | none => typeError

end Loop

def statusLoop (statusItem : Json) : Loop :=
  match statusItem.get "id", statusItem.get "status" with
  | some wamid, some statusStr =>
    match wamid, statusStr with
    | some wamid, some statusStr =>
      -- an item without the two is passed over, not refused
      if wamid.truthy && statusStr.truthy then
        match wamid.toText, statusStr.toText with
        | some id, some status => ⟨[⟨wamid, statusStr, id ++ js "_" ++ status, statusItem⟩], false⟩
        | _, _ => .typeError
      else .nothing
    | _, _ => .nothing
  | _, _ => .typeError

def changeLoop (change : Json) : Loop :=
  match change.get "value" with
  | some value =>
    match (Json.orElse value (.object [])).get "statuses" with
    | some statuses => .forOf (Json.orElse statuses (.array [])) statusLoop
    | none => .typeError
  | none => .typeError

def entryLoop (entry : Json) : Loop :=
  match entry.get "changes" with
  | some changes => .forOf (Json.orElse changes (.array [])) changeLoop
  | none => .typeError

inductive WebhookResponse where
  | ok
  | ignored
  /-- The body was not parsed. -/
  | badRequest
  | rejected (error : AppError)
  | internalError
  deriving DecidableEq

/-- An answer, with the items that are ingested before it is given. -/
structure Ingestion where
  response : WebhookResponse
  items : List StatusItem

/-- The route from `// 2. Parse payload` on. -/
def ingestion (body : Option Json) : Ingestion :=
  match body with
  | none => ⟨.ignored, []⟩
  | some payload =>
    match payload.get "entry" with
    | none => ⟨.ignored, []⟩
    | some none => ⟨.ignored, []⟩
    | some (some entries) =>
      if payload.truthy && entries.truthy then
        let loop := Loop.forOf entries entryLoop
        ⟨if loop.threw then .internalError else .ok, loop.items⟩
      else ⟨.ignored, []⟩

def invalidSignature : AppError := UnauthorizedError "Invalid webhook signature." "UNAUTHORIZED"

/-- The header that is checked: one is, when a secret is configured and a header was sent. -/
def signatureToCheck (env : WebhookEnv) (request : WebhookRequest) : Option String :=
  request.signature.filter fun header =>
    env.metaAppSecret ≠ "" && !("mock_".toList.isPrefixOf env.metaAppSecret.toList) && header ≠ ""

/-- No plugin sets `rawBody`: what is hashed is the body as it is serialised again. -/
def WebhookEnv.receive (env : WebhookEnv) (request : WebhookRequest) : Ingestion :=
  match env.parseBody request with
  | none => ⟨.badRequest, []⟩
  | some body =>
    match signatureToCheck env request with
    | none => ingestion body
    | some signatureHeader =>
      -- `request.rawBody || JSON.stringify(request.body)`
      match verifyMetaSignature env (body.map Json.stringify) signatureHeader env.metaAppSecret with
      | some true => ingestion body
      | some false => ⟨.rejected invalidSignature, []⟩
      | none => ⟨.internalError, []⟩

/-! ### Persisting and queueing -/

/-- A `webhook_events` row, as the route creates it. -/
structure ReceivedEvent where
  id : Id
  eventType : Json
  externalEventId : JsString
  payload : Json

/-- A `process_meta_webhook` job. -/
structure WebhookJob where
  eventId : Id
  wamid : Json
  statusStr : Json

structure WebhookStore where
  nextId : Id
  events : List ReceivedEvent
  /-- The jobs that have been added to the queue. -/
  jobs : List WebhookJob

def WebhookStore.empty : WebhookStore := ⟨0, [], []⟩

/-- Whether the two steps of an item reach the database and the queue. -/
structure Up where
  database : Bool
  queue : Bool
  deriving DecidableEq

/-- The `try` block of an item. Every error is logged and swallowed, a duplicate among them. -/
def ingest (env : WebhookEnv) (s : WebhookStore) (item : StatusItem) (up : Up) : WebhookStore :=
  if !up.database || !env.storable item then s
  -- the unique index on `external_event_id` refuses the row
  else if s.events.any (·.externalEventId == item.eventIdempotencyKey) then s
  else
    let event : ReceivedEvent :=
      ⟨s.nextId, item.statusStr, item.eventIdempotencyKey, item.payload⟩
    { nextId := s.nextId + 1
      events := s.events ++ [event]
      jobs := if up.queue then s.jobs ++ [⟨event.id, item.wamid, item.statusStr⟩] else s.jobs }

/-- The deliveries of a request's items: `up i` is what the `i`-th item meets. -/
def deliveries (env : WebhookEnv) (request : WebhookRequest) (up : ℕ → Up) : List (StatusItem × Up) :=
  (env.receive request).items.zipIdx.map fun (item, i) => (item, up i)

/-- A request: its answer, and the store after it. -/
def handle (env : WebhookEnv) (s : WebhookStore) (request : WebhookRequest) (up : ℕ → Up) :
    WebhookResponse × WebhookStore :=
  ((env.receive request).response,
    (deliveries env request up).foldl (fun s (item, up) => ingest env s item up) s)

/-! ### Samples -/

/-- The environment of a secret and one body: its payload, and its digest under the secret. -/
def sampleEnv (body : List UInt8) (payload : Json) (digest : Digest) : WebhookEnv where
  metaAppSecret := "f00dcafe"
  hmacSha256 key data :=
    if key = "f00dcafe" ∧ data = body then digest else ⟨List.replicate 32 0, rfl⟩
  parseBody request := if request.body = body then some (some payload) else none
  storable _ := true

/-- One status `delivered` of the message `wamid.1`. -/
def statusReport : Json :=
  .object [(js "entry", .array [.object [(js "changes", .array [.object [(js "value",
    .object [(js "statuses", .array [.object [(js "id", .string (js "wamid.1")),
      (js "status", .string (js "delivered"))]])])]])]])]

def statusReportEnv : WebhookEnv :=
  sampleEnv (JsString.utf8 statusReport.stringify) statusReport
    ⟨[23, 198, 96, 57, 194, 111, 179, 63, 45, 80, 122, 20, 68, 33, 76, 207, 32, 209, 15, 194, 15,
      167, 80, 141, 132, 141, 131, 143, 97, 174, 220, 31], rfl⟩

end SelfOtp
