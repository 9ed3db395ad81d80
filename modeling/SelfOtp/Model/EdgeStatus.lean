import SelfOtp.Model.EdgeOtp

/-! `GET /status` of the Edge function `otp`: two awaited queries, `authenticateApiKey` and the one below,
that write nothing. -/
namespace SelfOtp.Edge

/-- The columns that the query selects. -/
structure StatusData where
  id : Id
  requestId : JsString
  phoneNumber : JsString
  status : OtpStatus
  attempts : ℕ
  maxAttempts : ℕ
  expiresAt : Millis
  verifiedAt : Option Millis
  createdAt : Millis
  deriving DecidableEq

/-- `url.searchParams.get("request_id") || (action !== "status" ? action : null)`. -/
def statusRequestId (parameter : Option JsString) (action : JsString) : Option JsString :=
  match parameter.filter (· ≠ []) with
  | some requestId => some requestId
  | none => if action ≠ js "status" then some action else none

/-- The answer once the key has been accepted. -/
def statusAnswer (w : World) (keyRecord : ApiKey) (parameter : Option JsString) (action : JsString)
    (ok : Bool) : Except Reply StatusData :=
  match (statusRequestId parameter action).filter (· ≠ []) with
  | none => .error (errorResponse "request_id is required" "VALIDATION_ERROR" 400)
  | some requestId =>
    -- a text that is no UUID is no id either
    match (if ok then single (w.db.findOtpRequests keyRecord.customerId requestId) else none) with
    | none => .error notFound
    | some otp => .ok ⟨otp.id, otp.requestId, otp.phoneNumber, otp.status, otp.attempts, otp.maxAttempts,
        otp.expiresAt, otp.verifiedAt, otp.createdAt⟩

end SelfOtp.Edge
