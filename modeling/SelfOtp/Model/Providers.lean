import SelfOtp.Model.EdgeOtp
import SelfOtp.Model.Worker

/-! `MetaWhatsAppProvider` (`meta-whatsapp-provider.ts`) and `sendWhatsAppOtp` of the Edge functions
(`_shared/meta.ts`): the request to the Graph API, and what each side makes of the answer. -/
namespace SelfOtp

/-! ### The exchange -/

/-- How reading the body of a response ends. -/
inductive HttpBody where
  /-- The connection is lost: `text()` and `json()` both reject. -/
  | lost (message : JsString)
  /-- A text that `JSON.parse` refuses. -/
  | text (text message : JsString)
  | json (text : JsString) (value : Json)

/-- How `fetch` ends. -/
inductive Exchange where
  | rejected (message : JsString)
  | response (status : ℕ) (body : HttpBody)

/-- `response.ok`. -/
def responseOk (status : ℕ) : Bool := 200 ≤ status && status ≤ 299

/-- `response.text()`. -/
def HttpBody.readText : HttpBody → Except JsString JsString
  | lost message => .error message
  | text t _ => .ok t
  | json t _ => .ok t

/-- `response.json()`. -/
def HttpBody.readJson : HttpBody → Except JsString Json
  | lost message => .error message
  | text _ message => .error message
  | json _ value => .ok value

/-- `v?.[0]`. -/
def Json.optionalFirst : Option Json → Option Json
  | some (.array (e :: _)) => some e
  | some (.string (u :: _)) => some (.string [u])
  | some (.object members) => member members (js "0")
  | _ => none

/-- `v?.[name]`, for a name that no prototype has. -/
def Json.optional (v : Option Json) (name : String) : Option Json :=
  match v with
  | some j => (j.get name).join
  | none => none

/-- What V8 says of `null.messages`. -/
def nullMessages : JsString := js "Cannot read properties of null (reading 'messages')"

def nullError : JsString := js "Cannot read properties of null (reading 'error')"

/-- `data.messages?.[0]?.id`. -/
def messageIdOf (data : Json) : Except JsString (Option Json) :=
  match data.get "messages" with
  | some messages => .ok (Json.optional (Json.optionalFirst messages) "id")
  | none => .error nullMessages

/-- A POST to the Graph API. -/
structure GraphRequest where
  url : JsString
  authorization : JsString
  payload : Json

/-! ### `MetaWhatsAppProvider` -/

/-- `META_API_VERSION`, `META_PHONE_NUMBER_ID` and `META_ACCESS_TOKEN`. -/
structure MetaConfig where
  apiVersion : JsString
  phoneNumberId : JsString
  accessToken : JsString

def graphUrl (version phoneNumberId : JsString) : JsString :=
  js "https://graph.facebook.com/" ++ version ++ js "/" ++ phoneNumberId ++ js "/messages"

/-- What a provider resolves with: the id is what Meta's body has in its place. -/
structure DispatchResult where
  success : Bool
  providerMessageId : Option Json
  isTemporaryError : Bool
  errorMessage : Option JsString

def textParameter (text : Json) : Json :=
  .array [.object [(js "type", .string (js "text")), (js "text", text)]]

namespace MetaWhatsAppProvider

def formatPayload (phoneNumber otpCode templateName languageCode : Json) : Json :=
  .object [
    (js "messaging_product", .string (js "whatsapp")),
    (js "recipient_type", .string (js "individual")),
    (js "to", phoneNumber),
    (js "type", .string (js "template")),
    (js "template", .object [
      (js "name", templateName),
      (js "language", .object [(js "code", languageCode)]),
      (js "components", .array [
        .object [(js "type", .string (js "body")), (js "parameters", textParameter otpCode)],
        .object [(js "type", .string (js "button")), (js "sub_type", .string (js "url")),
          (js "index", .string (js "0")), (js "parameters", textParameter otpCode)]])])]

/-- What `sendOtp` hands to `fetch`. -/
def request (config : MetaConfig) (phoneNumber otpCode templateName languageCode : JsString) : GraphRequest :=
  ⟨graphUrl config.apiVersion config.phoneNumberId, js "Bearer " ++ config.accessToken,
    formatPayload (.string phoneNumber) (.string otpCode) (.string templateName) (.string languageCode)⟩

def networkError (message : JsString) : DispatchResult :=
  ⟨false, none, true, some (js "Network error: " ++ message)⟩

/-- `sendOtp`, from the answer to `fetch` on. -/
def sendOtp (exchange : Exchange) : DispatchResult :=
  match exchange with
  | .rejected message => networkError message
  | .response status body =>
    if responseOk status then
      -- a body that cannot be read lands in the same `catch` as a network error
      match body.readJson with
      | .error message => networkError message
      | .ok data =>
        match messageIdOf data with
        | .ok wamid => ⟨true, wamid, false, none⟩
        | .error message => networkError message
    else
      match body.readText with
      | .error message => networkError message
      | .ok errorText =>
        ⟨false, none, 500 ≤ status || status == 429,
          some (js "Meta API error (HTTP " ++ js (toString status) ++ js "): " ++ errorText)⟩

end MetaWhatsAppProvider

/-! ### What the worker makes of the result -/

/-- A text that a column takes. -/
def columnText (s : JsString) : Option String := if (0 : UInt16) ∈ s then none else some s.asString

/-- `res.providerMessageId || null` in a column of 255 characters; `none` when the row is refused. -/
def DispatchResult.idColumn (res : DispatchResult) : Option (Option String) :=
  match res.providerMessageId with
  | none => some none
  | some id =>
    if !id.truthy then some none
    else match id with
      | .string s =>
        match columnText s with
        | some text => if text.length ≤ 255 then some (some text) else none
        | none => none
      | _ => none

/-- The result as the row of the message has it; `none` when the row is refused. -/
def DispatchResult.columns (res : DispatchResult) : Option SendMessageResult :=
  match res.idColumn with
  | none => none
  | some id =>
    match res.errorMessage with
    | none => some ⟨res.success, id, res.isTemporaryError, none⟩
    | some message => (columnText message).map fun text => ⟨res.success, id, res.isTemporaryError, some text⟩

/-- How `whatsappProvider.sendOtp` ends for the worker. -/
def DispatchResult.answer (res : DispatchResult) : Answer :=
  ⟨true, "", res.columns.getD ⟨res.success, none, res.isTemporaryError, none⟩⟩

/-! ### `sendWhatsAppOtp` of the Edge functions -/

namespace Edge

/-- `phoneNumberId` and `accessToken` are the options' or else the environment's. -/
structure MetaOptions where
  version : Option JsString
  phoneNumberId : Option JsString
  accessToken : Option JsString
  recipientPhone : Json
  otpCode : JsString
  templateName : Option Json
  language : Option Json

/-- `!value`, for a text that may be missing. -/
def blank (value : Option JsString) : Bool := value.all (· == [])

/-- What `sendWhatsAppOtp` hands to `fetch`. -/
def MetaOptions.request (o : MetaOptions) : GraphRequest :=
  let version := if blank o.version then js "v20.0" else o.version.getD []
  let otpCode := Json.string o.otpCode
  ⟨graphUrl version (o.phoneNumberId.getD []), js "Bearer " ++ o.accessToken.getD [],
    .object [
      (js "messaging_product", .string (js "whatsapp")),
      (js "recipient_type", .string (js "individual")),
      (js "to", o.recipientPhone),
      (js "type", .string (js "template")),
      (js "template", .object [
        (js "name", Json.orElse o.templateName (.string (js "otp_verification"))),
        (js "language", .object [(js "code", Json.orElse o.language (.string (js "en_US")))]),
        (js "components", .array [
          .object [(js "type", .string (js "body")), (js "parameters", textParameter otpCode)],
          .object [(js "type", .string (js "button")), (js "sub_type", .string (js "url")),
            (js "index", .string (js "0")), (js "parameters", textParameter otpCode)]])])]⟩

/-- What `sendWhatsAppOtp` returns: `messageId` and `error` are what Meta's body has in their places. -/
structure SendResult where
  success : Bool
  messageId : Json
  error : Option Json

def failure (message : Json) : SendResult := ⟨false, .string [], some message⟩

/-- `sendWhatsAppOtp` outside of the mock mode, from the answer to `fetch` on. -/
def sendWhatsAppOtp (exchange : Exchange) : SendResult :=
  match exchange with
  | .rejected message => failure (.string message)
  | .response status body =>
    -- the body is parsed before the status is looked at
    match body.readJson with
    | .error message => failure (.string message)
    | .ok data =>
      if !responseOk status then
        match data.get "error" with
        | some error =>
          failure (Json.orElse (Json.optional error "message") (.string (js "Meta API dispatch failed")))
        | none => failure (.string nullError)
      else
        match messageIdOf data with
        | .ok id => ⟨true, Json.orElse id (.string []), none⟩
        | .error message => failure (.string message)

end Edge

end SelfOtp
