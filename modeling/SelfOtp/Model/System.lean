import SelfOtp.Model.Dashboard
import SelfOtp.Model.Resend
import SelfOtp.Model.Worker

/-! The running system: API and dashboard requests and worker jobs, interleaved at every
awaited call. -/
namespace SelfOtp

/-- A request to an endpoint behind `authenticateApiKey`. -/
inductive Endpoint where
  | send (body : SendBody) (idempotencyKey : Option String)
  | verify (phoneNumber submittedCode : String)
  | resend (requestId : String)
  | status (requestId : String)
  | account (request : AccountRequest)
  deriving DecidableEq

/-- `draw` and `bytes` are what the random generators yield for the request. -/
structure ApiRequest where
  endpoint : Endpoint
  clientIp : String
  userAgent : Option String
  draw : ℕ
  bytes : ℕ
  process : ℕ
  deriving DecidableEq

/-- What is running. A verification or a status request keeps the customer of its session. -/
inductive Thread where
  | authenticating (request : ApiRequest) (c : AuthCall)
  | send (c : SendCall)
  | verify (customer : Customer) (c : VerifyCall)
  | resend (c : ResendCall)
  | status (customer : Customer) (c : StatusCall)
  | dashboard (c : DashboardCall)
  | register (c : RegisterCall)
  | sendOtpJob (c : JobCall)
  | webhook (c : WebhookCall)

inductive SystemEvent where
  | tick (d : Millis)
  | api (rawApiKey : Option String) (request : ApiRequest)
  | dashboard (sub : Id) (request : DashboardRequest)
  | register (email companyName : String)
  /-- A worker takes the `i`-th job of `otpQueue`. -/
  | takeSendOtpJob (i : ℕ)
  /-- A worker runs a job of `webhookQueue`. -/
  | processWebhook (eventId : Id) (wamid statusStr : String)

namespace Thread

/-- The handler that runs once the API key has been authenticated. -/
def handler (s : Session) (request : ApiRequest) : Thread :=
  match request.endpoint with
  | .send body idempotencyKey =>
    send { body, apiKeyId := s.apiKey.id, applicationId := s.application.id, customer := s.customer,
           clientIp := request.clientIp, idempotencyKey, draw := request.draw,
           bytes := request.bytes, process := request.process, pc := .customerBlocked }
  | .verify phoneNumber submittedCode =>
    verify s.customer ⟨phoneNumber, submittedCode, s.application.id, some request.clientIp,
      request.userAgent, request.process, none, .lookup⟩
  | .resend requestId =>
    resend ⟨requestId, s.application.id, s.customer, request.draw, request.process, .findRecord⟩
  | .status requestId => status s.customer ⟨requestId, s.application.id, .findRecord⟩
  | .account accountRequest => dashboard ⟨.account accountRequest, .handle s.customer⟩

/-- The thread after a step of its call. -/
def stepped {τ : Type} (thread : τ → Thread) (next : Option (World × τ)) :
    Option (World × Thread) :=
  next.map fun (w, c) => (w, thread c)

def resume (env : Env) (w : World) (t : Thread) (a : Answer) : Option (World × Thread) :=
  match t with
  | authenticating request c =>
    stepped (fun c' => match c'.pc with
      | .authenticated s => handler s request
      | _ => authenticating request c') (c.step env w a.ok)
  | send c => stepped send (c.step env w a)
  | verify customer c => stepped (verify customer) (c.step env w a.ok)
  | resend c => stepped resend (c.step env w a)
  | status customer c => stepped (status customer) (c.step w a.ok)
  | dashboard c => stepped dashboard (c.step env w a.ok)
  | register c => stepped register (c.step w a.ok)
  | sendOtpJob c => stepped sendOtpJob (c.step w a)
  | webhook c => stepped webhook (c.step w a.ok)

def external (w : World) (event : SystemEvent) : Option (World × List Thread) :=
  match event with
  | .tick d => some (w.tick d, [])
  | .api rawApiKey request => some (w, [authenticating request (.start rawApiKey request.process)])
  | .dashboard sub request => some (w, [dashboard ⟨request, .authenticate sub .findUser⟩])
  | .register email companyName => some (w, [register ⟨email, companyName, .findUser⟩])
  | .takeSendOtpJob i =>
    match w.otpQueue[i]? with
    | some job => some ({ w with otpQueue := w.otpQueue.eraseIdx i }, [sendOtpJob (.start job)])
    | none => none
  | .processWebhook eventId wamid statusStr => some (w, [webhook ⟨eventId, wamid, statusStr, .findMessage⟩])

end Thread

abbrev System := Pool World Thread

abbrev SystemLabel := Pool.Label Answer SystemEvent

def systemProgram (env : Env) : Pool.Program World Thread Answer SystemEvent :=
  ⟨Thread.resume env, Thread.external⟩

/-! ### A small system -/

/-- A customer with an application and an API key. -/
def sampleSystem : System :=
  ⟨{ World.empty 1700000000000 with
      nextId := 10
      db := { Database.empty with
        customers := [⟨1, "Acme", "it@acme.test", .active⟩]
        applications := [⟨2, 1, "Acme - Default", none⟩]
        apiKeys := [⟨3, 1, 2, "server", "wotp_live_00", "wotp_live_00:pepper", .active⟩] } }, []⟩

/-- The next `n` calls that thread `i` awaits all resolve. -/
def resolve (i n : ℕ) : List SystemLabel := List.replicate n (.resume i .resolved)

def sampleRequest (endpoint : Endpoint) : SystemLabel :=
  .external (.api (some "wotp_live_00") ⟨endpoint, "198.51.100.7", none, 0, 7, 0⟩)

/-- The client sends a code of its own. -/
def sampleCustomSend : List SystemLabel :=
  sampleRequest (.send ⟨"+4915112345678", some "424242", 300, "otp_auth_v1", "en_US"⟩ none) ::
    resolve 0 29

end SelfOtp
