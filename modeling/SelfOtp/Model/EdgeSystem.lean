import SelfOtp.Lib.Pool
import SelfOtp.Lib.Transition
import SelfOtp.Model.EdgeOtp

/-! Any number of calls of the Edge function `otp`, interleaved at every awaited call. -/
namespace SelfOtp.Edge

/-- What is running. -/
inductive Thread where
  | authenticating (apiKey : String) (request : Request)
  | refused (reply : Reply)
  | send (c : SendCall)
  | verify (c : VerifyCall)
  | resend (c : ResendCall)

inductive Event where
  | tick (d : Millis)
  | post (request : Request)

namespace Thread

def of {τ : Type} (thread : τ → Thread) : Except Reply τ → Thread
  | .ok c => thread c
  | .error reply => refused reply

/-- The handler once the API key has been accepted. -/
def handler (keyRecord : ApiKey) (request : Request) : Thread :=
  match request.action with
  | .send => of send (SendCall.start keyRecord request)
  | .verify => of verify (VerifyCall.start keyRecord request)
  | .resend => of resend (ResendCall.start keyRecord request)

/-- A request up to its first awaited query. -/
def start (request : Request) : Thread :=
  match request.apiKey.filter (· ≠ "") with
  | some apiKey => authenticating apiKey request
  | none => refused (errorResponse "Missing x-api-key header" "UNAUTHORIZED" 401)

/-- The thread after a step of its call. -/
def stepped {τ : Type} (thread : τ → Thread) (next : Option (World × τ)) :
    Option (World × Thread) :=
  next.map fun (w, c) => (w, thread c)

def resume (env : Env) (w : World) (t : Thread) (a : Answer) : Option (World × Thread) :=
  match t with
  | authenticating apiKey request =>
    match authenticateApiKey env w apiKey a.ok with
    | .ok keyRecord => some (w, handler keyRecord request)
    | .error reply => some (w, refused reply)
  | refused _ => none
  | send c => stepped send (c.step env w a)
  | verify c => stepped verify (c.step env w a)
  | resend c => stepped resend (c.step env w a)

def external (w : World) (event : Event) : Option (World × List Thread) :=
  match event with
  | .tick d => some ({ w with now := w.now + d }, [])
  | .post request => some (w, [start request])

/-- The reply, once the client has it. -/
def reply : Thread → Option Reply
  | authenticating .. => none
  | refused reply => some reply
  | send c =>
    match c.pc with
    | .answered reply _ => some reply
    | _ => none
  | verify c =>
    match c.pc with
    | .answered reply => some reply
    | _ => none
  | resend c =>
    match c.pc with
    | .answered reply => some reply
    | _ => none

end Thread

abbrev System := Pool World Thread

abbrev Label := Pool.Label Answer Event

def program (env : Env) : Pool.Program World Thread Answer Event := ⟨Thread.resume env, Thread.external⟩

/-! ### A small system -/

/-- The keyed hash is the text of the bytes, and the other one the text itself. -/
def sampleEnv : Env :=
  { otpExpirySeconds := 300
    otpCooldownSeconds := 60
    otpCreditCost := 1
    pepper := "pepper"
    hmac := fun bytes => String.ofList (bytes.map fun b => Char.ofNat b.toNat)
    sha256 := id }

/-- A customer with an API key and a wallet of 100. -/
def sampleSystem : System :=
  ⟨{ now := 1700000000000
     nextId := 10
     db := {
       apiKeys := [⟨3, 1, 2, "wotp_live_00:pepper", .active, none⟩]
       otpRequests := []
       wallets := Function.update (fun _ => none) 1 (some ⟨100, []⟩)
       messages := []
       idempotencyKeys := [] }
     metaCalls := [] }, []⟩

/-- A request whose code is 123456. -/
def sampleRow : OtpRequest :=
  { id := 10
    customerId := 1
    applicationId := 2
    apiKeyId := 3
    requestId := newRequestId 7
    phoneNumber := js "+4915112345678"
    otpHash := hashOtp sampleEnv (js "123456")
    status := .sent
    expiresAt := 1700000300000
    attempts := 0
    maxAttempts := 5
    verifiedAt := none
    createdAt := 1700000000000 }

/-- The request has been sent, and nothing else has happened. -/
def sampleSent : System :=
  let w := sampleSystem.shared
  ⟨{ w with nextId := 11, db := { w.db with otpRequests := [sampleRow] } }, []⟩

def resolved : Answer := ⟨true, [], ⟨true, js "wamid.1"⟩⟩

/-- The next `n` calls that thread `i` awaits all resolve. -/
def resolve (i n : ℕ) : List Label := List.replicate n (.resume i resolved)

/-- The random bytes are 1, 2, 3 and so on. -/
def samplePost (action : Action) (members : List (JsString × Json)) : Label :=
  .external (.post ⟨action, some "wotp_live_00", none, some (.object members), fun i => (i + 1).toUInt8, 7⟩)

/-- A verification of the sample request. -/
def sampleVerify (code : String) : Label :=
  samplePost .verify [(js "request_id", .string (newRequestId 7)), (js "code", .string (js code))]

end SelfOtp.Edge
