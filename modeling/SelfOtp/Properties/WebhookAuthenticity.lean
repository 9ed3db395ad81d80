import Mathlib.Data.List.GetD
import Mathlib.Data.List.Nodup
import SelfOtp.Properties.WebhookIngestion

/-! Which requests to `POST /v1/webhooks/meta` the signature check lets through. -/
namespace SelfOtp

/-! ### Hexadecimal signatures -/

theorem hexByte_digits (b : UInt8) :
    hexAlphabet[b.toNat / 16]? = some (hexAlphabet.getD (b.toNat / 16) '0') ∧
      hexAlphabet[b.toNat % 16]? = some (hexAlphabet.getD (b.toNat % 16) '0') := by
  have high : b.toNat / 16 < hexAlphabet.length := by
    have bound := b.toNat_lt
    have sixteen : hexAlphabet.length = 16 := rfl
    omega
  have low : b.toNat % 16 < hexAlphabet.length := Nat.mod_lt _ (by decide)
  exact ⟨by simp [high], by simp [low]⟩

theorem hexAlphabet_nodup : hexAlphabet.Nodup := by decide

/-- A character has the value of the digit that its lower case is. -/
theorem hexValue_eq_some {c : Char} {n : ℕ} :
    hexValue c = some n ↔ hexAlphabet[n]? = some c.toLower := by
  unfold hexValue
  rw [List.idxOf?_eq_some_iff, List.getElem?_eq_some_iff]
  constructor
  · rintro ⟨inside, here, -⟩
    exact ⟨inside, here⟩
  · rintro ⟨inside, here⟩
    refine ⟨inside, here, fun j before there => ?_⟩
    have apart : hexAlphabet[j] ≠ hexAlphabet[n] :=
      List.pairwise_iff_getElem.mp hexAlphabet_nodup j n _ inside before
    exact apart (there.trans here.symm)

theorem hexValue_lt {c : Char} {n : ℕ} (value : hexValue c = some n) : n < 16 :=
  (List.getElem?_eq_some_iff.mp (hexValue_eq_some.mp value)).1

/-- A buffer of the full length is read exactly from the hexadecimal text of its bytes, in either
case. -/
theorem bufferFromHex_iff (signature : List Char) (bytes : List UInt8) :
    signature.length = 2 * bytes.length ∧ bufferFromHex signature = bytes ↔
      signature.map Char.toLower = hex bytes := by
  induction bytes generalizing signature with
  | nil =>
    constructor
    · rintro ⟨length, -⟩
      rw [List.length_eq_zero_iff.mp length]
      rfl
    · intro same
      obtain rfl := List.map_eq_nil_iff.mp same
      exact ⟨rfl, rfl⟩
  | cons b bytes ih =>
    have digits : hex (b :: bytes) = hexAlphabet.getD (b.toNat / 16) '0' ::
        hexAlphabet.getD (b.toNat % 16) '0' :: hex bytes := rfl
    obtain ⟨high, low⟩ := hexByte_digits b
    have bound := b.toNat_lt
    rw [digits]
    rcases signature with _ | ⟨x, _ | ⟨y, rest⟩⟩
    · simp
    · simp [bufferFromHex]
    · have ih := ih rest
      simp only [List.length_cons, List.map_cons, List.cons.injEq, ← ih]
      constructor
      · rintro ⟨length, read⟩
        simp only [bufferFromHex] at read
        split at read
        next p q first second =>
          obtain ⟨value, read⟩ := List.cons.inj read
          have p_lt := hexValue_lt first
          have q_lt := hexValue_lt second
          have sum : b.toNat = 16 * p + q := by
            rw [← value]
            simp only [Nat.toUInt8, UInt8.toNat_ofNat']
            omega
          rw [hexValue_eq_some] at first second
          rw [show b.toNat / 16 = p by omega] at high ⊢
          rw [show b.toNat % 16 = q by omega] at low ⊢
          rw [first] at high
          rw [second] at low
          exact ⟨Option.some.inj high, Option.some.inj low, by omega, read⟩
        · cases read
      · rintro ⟨first, second, length, read⟩
        rw [← first, ← hexValue_eq_some] at high
        rw [← second, ← hexValue_eq_some] at low
        refine ⟨by omega, ?_⟩
        simp only [bufferFromHex, high, low, read]
        congr 1
        apply UInt8.toNat_inj.mp
        simp only [Nat.toUInt8, UInt8.toNat_ofNat']
        omega

theorem hex_length (bytes : List UInt8) : (hex bytes).length = 2 * bytes.length := by
  induction bytes with
  | nil => rfl
  | cons b bytes ih =>
    have split : hex (b :: bytes) = hexByte b ++ hex bytes := rfl
    rw [split, List.length_append, ih, List.length_cons]
    simp only [hexByte, List.length_cons, List.length_nil]
    omega

theorem hex_lower (bytes : List UInt8) : (hex bytes).map Char.toLower = hex bytes := by
  have alphabet : ∀ n, (hexAlphabet.getD n '0').toLower = hexAlphabet.getD n '0' := by
    intro n
    by_cases inside : n < 16
    · revert n
      decide
    · rw [List.getD_eq_default _ _ (Nat.not_lt.mp inside)]
      rfl
  induction bytes with
  | nil => rfl
  | cons b bytes ih =>
    have split : hex (b :: bytes) = hexByte b ++ hex bytes := rfl
    rw [split, List.map_append, ih]
    simp only [hexByte, List.map_cons, List.map_nil, alphabet]

/-! ### The signature check -/

variable {env : WebhookEnv} {request : WebhookRequest} {item : StatusItem}

/-- The text is `sha256=` and the hexadecimal HMAC of the data under the secret. -/
def SignatureOf (env : WebhookEnv) (data : List UInt8) (header : String) : Prop :=
  ∃ signature, header.toList = "sha256=".toList ++ signature ∧
    signature.map Char.toLower = hex (env.hmacSha256 env.metaAppSecret data).1

theorem verifyMetaSignature_prefixed (text : JsString) {header : String} {signature : List Char}
    (prefixed : header.toList = "sha256=".toList ++ signature) :
    verifyMetaSignature env (some text) header env.metaAppSecret =
      let digest := env.hmacSha256 env.metaAppSecret (JsString.utf8 text)
      if signature.length ≠ 2 * digest.1.length then some false
      else timingSafeEqual (bufferFromHex signature) digest.1 := by
  have starts : "sha256=".toList.isPrefixOf header.toList = true := by
    rw [prefixed, List.isPrefixOf_iff_prefix]
    exact List.prefix_append _ _
  have dropped : header.toList.drop 7 = signature := by
    rw [prefixed]
    rfl
  have read (bytes : List UInt8) : bufferFromHex (hex bytes) = bytes :=
    ((bufferFromHex_iff _ _).mpr (hex_lower bytes)).2
  simp only [verifyMetaSignature, starts, dropped, read, hex_length, Bool.not_true,
    Bool.false_eq_true, if_false]

theorem timingSafeEqual_iff {a b : List UInt8} : timingSafeEqual a b = some true ↔ a = b := by
  unfold timingSafeEqual
  split
  · simp
  next apart =>
    constructor
    · intro threw
      cases threw
    · rintro rfl
      exact absurd rfl apart

theorem verifyMetaSignature_iff (text : JsString) (header : String) :
    verifyMetaSignature env (some text) header env.metaAppSecret = some true ↔
      SignatureOf env (JsString.utf8 text) header := by
  by_cases starts : "sha256=".toList.isPrefixOf header.toList = true
  · obtain ⟨signature, prefixed⟩ := List.isPrefixOf_iff_prefix.mp starts
    have only : SignatureOf env (JsString.utf8 text) header ↔ signature.map Char.toLower =
        hex (env.hmacSha256 env.metaAppSecret (JsString.utf8 text)).1 := by
      constructor
      · rintro ⟨other, same, digest⟩
        rw [← prefixed] at same
        rw [List.append_cancel_left same]
        exact digest
      · exact fun digest => ⟨signature, prefixed.symm, digest⟩
    rw [verifyMetaSignature_prefixed text prefixed.symm, only, ← bufferFromHex_iff]
    dsimp only
    split
    next apart => simp [apart]
    next length =>
      rw [timingSafeEqual_iff]
      simp [not_not.mp length]
  · constructor
    · intro returned
      simp only [verifyMetaSignature, Bool.eq_false_iff.mpr starts, Bool.not_false, if_true] at returned
      cases returned
    · rintro ⟨signature, prefixed, -⟩
      rw [prefixed, List.isPrefixOf_iff_prefix] at starts
      exact absurd (List.prefix_append _ _) starts

/-! ### Authenticity -/

/-- The request carries the signature of exactly the received bytes. -/
def Signed (env : WebhookEnv) (request : WebhookRequest) : Prop :=
  ∃ header ∈ request.signature, SignatureOf env request.body header

/-- The request carries the signature of its body as `JSON.stringify` writes it. -/
def SignedAnew (env : WebhookEnv) (request : WebhookRequest) : Prop :=
  ∃ payload, env.parseBody request = some (some payload) ∧
    ∃ header ∈ request.signature, SignatureOf env (JsString.utf8 payload.stringify) header

/-- The payload is JSON that the loop goes through without an error. -/
def WellFormed (env : WebhookEnv) (request : WebhookRequest) : Prop :=
  ∃ payload, env.parseBody request = some (some payload) ∧
    (ingestion (some payload)).response ≠ .internalError

/-- The payload reports a status that the database takes. -/
def ReportsStatus (env : WebhookEnv) (request : WebhookRequest) : Prop :=
  ∃ payload, env.parseBody request = some (some payload) ∧
    ∃ item ∈ (ingestion (some payload)).items, env.storable item = true

def Accepted (response : WebhookResponse) : Prop := response = .ok ∨ response = .ignored

/-- Events are created and jobs queued only for a signed request, and every signed request with a
well-formed payload is accepted. -/
structure Authentic (env : WebhookEnv) (request : WebhookRequest) : Prop where
  safe : ∀ s up, (handle env s request up).2 ≠ s → Signed env request
  live : WellFormed env request → Signed env request → Accepted (env.receive request).response

/-- A header is there when there is something to ingest, and the bytes that are hashed can stand
for the received ones. -/
structure Checkable (env : WebhookEnv) (request : WebhookRequest) : Prop where
  sent : ReportsStatus env request → ∃ header ∈ request.signature, header ≠ ""
  sound : ReportsStatus env request → SignedAnew env request → Signed env request
  complete : WellFormed env request → Signed env request → SignedAnew env request

theorem accepted_of_ingestion {payload : Json} (answered : (ingestion (some payload)).response ≠ .internalError) :
    Accepted (ingestion (some payload)).response := by
  revert answered
  unfold ingestion
  dsimp only
  rcases payload.get "entry" with _ | _ | entries
  · exact fun _ => .inr rfl
  · exact fun _ => .inr rfl
  · intro answered
    dsimp only at answered ⊢
    by_cases there : (payload.truthy && entries.truthy) = true
    · rw [if_pos there] at answered ⊢
      by_cases threw : (Loop.forOf entries entryLoop).threw = true
      · exact absurd (if_pos threw) answered
      · exact .inl (if_neg threw)
    · rw [if_neg there]
      exact .inr rfl

theorem not_signatureOf_empty (data : List UInt8) : ¬ SignatureOf env data "" := by
  rintro ⟨signature, empty, -⟩
  cases empty

/-- An item of the body that is ingested changes an empty store. -/
theorem changed_of_reported (reported : ReportsStatus env request)
    (through : ∀ payload, env.parseBody request = some (some payload) →
      env.receive request = ingestion (some payload)) :
    ∃ up, (handle env .empty request up).2 ≠ .empty := by
  obtain ⟨payload, parsed, item, member, storable⟩ := reported
  rw [← through payload parsed] at member
  refine ⟨fun _ => ⟨true, true⟩, ?_⟩
  intro unchanged
  have stored : (handle env .empty request fun _ => ⟨true, true⟩).2.stored item.eventIdempotencyKey := by
    rw [handle_store, stored_ingestAll, Bool.or_eq_true, List.any_eq_true]
    refine .inr ⟨_, deliveries_of_mem member ⟨true, true⟩, ?_⟩
    simp [reaches, storable]
  rw [unchanged] at stored
  cases stored

section Secret

variable (secret : env.metaAppSecret ≠ "")
  (real : "mock_".toList.isPrefixOf env.metaAppSecret.toList = false)

include secret real

theorem signatureToCheck_eq : signatureToCheck env request = request.signature.filter (· ≠ "") := by
  unfold signatureToCheck
  congr 1
  funext header
  simp only [real, secret, ne_eq, not_false_eq_true, decide_true, Bool.not_false, Bool.true_and]

/-- Without a header nothing is checked. -/
theorem receive_unsigned {body : Option Json} (parsed : env.parseBody request = some body)
    (unsigned : ∀ header ∈ request.signature, header = "") : env.receive request = ingestion body := by
  -- an absent or an empty header is not checked
  have unchecked : signatureToCheck env request = none := by
    rw [signatureToCheck_eq secret real, Option.filter_eq_none_iff]
    intro header sent
    simp [unsigned header sent]
  simp only [WebhookEnv.receive, parsed, unchecked]

theorem signatureToCheck_sent {header : String} (sent : request.signature = some header)
    (there : header ≠ "") : signatureToCheck env request = some header := by
  rw [signatureToCheck_eq secret real, sent]
  simp [there]

theorem receive_verified {payload : Json} (parsed : env.parseBody request = some (some payload))
    {header : String} (sent : request.signature = some header) (there : header ≠ "")
    (verified : SignatureOf env (JsString.utf8 payload.stringify) header) :
    env.receive request = ingestion (some payload) := by
  have checked := signatureToCheck_sent secret real sent there
  have returned := (verifyMetaSignature_iff payload.stringify header).mpr verified
  simp only [WebhookEnv.receive, parsed, checked, Option.map_some, returned]

theorem receive_refused {payload : Json} (parsed : env.parseBody request = some (some payload))
    {header : String} (sent : request.signature = some header) (there : header ≠ "")
    (refused : ¬ SignatureOf env (JsString.utf8 payload.stringify) header) :
    (env.receive request).items = [] ∧ ¬ Accepted (env.receive request).response := by
  have checked := signatureToCheck_sent secret real sent there
  rw [← verifyMetaSignature_iff] at refused
  simp only [WebhookEnv.receive, parsed, checked, Option.map_some]
  -- the check returns `false` or throws
  split
  next returned => exact absurd returned refused
  · exact ⟨rfl, by simp [Accepted]⟩
  · exact ⟨rfl, by simp [Accepted]⟩

/-- Whatever is ingested comes out of a parsed payload that has no header or passes the check. -/
theorem items_origin (member : item ∈ (env.receive request).items) :
    ∃ payload, env.parseBody request = some (some payload) ∧
      item ∈ (ingestion (some payload)).items ∧
        ∀ header ∈ request.signature, header ≠ "" →
          SignatureOf env (JsString.utf8 payload.stringify) header := by
  rcases parsed : env.parseBody request with _ | _ | payload
  · simp [WebhookEnv.receive, parsed] at member
  · -- without a body the check throws, and there is nothing to ingest
    simp only [WebhookEnv.receive, parsed, Option.map_none, ingestion] at member
    split at member
    · cases member
    · split at member <;> cases member
  · refine ⟨payload, rfl, ?_, ?_⟩
    · by_cases unsigned : ∀ header ∈ request.signature, header = ""
      · rwa [receive_unsigned secret real parsed unsigned] at member
      · push Not at unsigned
        obtain ⟨header, sent, there⟩ := unsigned
        by_cases verified : SignatureOf env (JsString.utf8 payload.stringify) header
        · rwa [receive_verified secret real parsed sent there verified] at member
        · rw [(receive_refused secret real parsed sent there verified).1] at member
          cases member
    · intro header sent there
      by_contra refused
      rw [(receive_refused secret real parsed sent there refused).1] at member
      cases member

theorem reported_of_changed {s : WebhookStore} {up : ℕ → Up}
    (changed : (handle env s request up).2 ≠ s) :
    ∃ payload, env.parseBody request = some (some payload) ∧ ReportsStatus env request ∧
      ∀ header ∈ request.signature, header ≠ "" →
        SignatureOf env (JsString.utf8 payload.stringify) header := by
  rw [handle_store] at changed
  -- something was stored, so some item could be
  have some_storable : ∃ d ∈ deliveries env request up, env.storable d.1 = true := by
    by_contra none
    push Not at none
    apply changed
    apply ingestAll_unstorable
    intro d member
    exact Bool.eq_false_iff.mpr (none d member)
  obtain ⟨d, member, storable⟩ := some_storable
  obtain ⟨payload, parsed, item, verified⟩ := items_origin secret real (mem_deliveries member)
  exact ⟨payload, parsed, ⟨payload, parsed, d.1, item, storable⟩, verified⟩

theorem authentic_of_checkable (checkable : Checkable env request) : Authentic env request where
  safe s up changed := by
    obtain ⟨payload, parsed, reported, verified⟩ := reported_of_changed secret real changed
    obtain ⟨header, sent, there⟩ := checkable.sent reported
    exact checkable.sound reported ⟨payload, parsed, header, sent, verified header sent there⟩
  live wellFormed signed := by
    obtain ⟨payload, parsed, header, sent, verified⟩ := checkable.complete wellFormed signed
    have there : header ≠ "" := by
      rintro rfl
      exact not_signatureOf_empty _ verified
    rw [receive_verified secret real parsed sent there verified]
    obtain ⟨other, also, answered⟩ := wellFormed
    obtain rfl : payload = other := Option.some.inj (Option.some.inj (parsed.symm.trans also))
    exact accepted_of_ingestion answered

theorem checkable_of_authentic (authentic : Authentic env request) : Checkable env request where
  sent reported := by
    by_contra unsent
    push Not at unsent
    -- without a header the reported status would be stored
    have through : ∀ payload, env.parseBody request = some (some payload) →
        env.receive request = ingestion (some payload) := fun payload parsed =>
      receive_unsigned secret real parsed unsent
    obtain ⟨up, changed⟩ := changed_of_reported reported through
    obtain ⟨header, sent, signed⟩ := authentic.safe _ up changed
    rw [unsent header sent] at signed
    exact not_signatureOf_empty _ signed
  sound reported anew := by
    obtain ⟨payload, parsed, header, sent, verified⟩ := anew
    have there : header ≠ "" := by
      rintro rfl
      exact not_signatureOf_empty _ verified
    have through : ∀ other, env.parseBody request = some (some other) →
        env.receive request = ingestion (some other) := by
      intro other also
      obtain rfl : payload = other := Option.some.inj (Option.some.inj (parsed.symm.trans also))
      exact receive_verified secret real parsed sent there verified
    obtain ⟨up, changed⟩ := changed_of_reported reported through
    exact authentic.safe _ up changed
  complete wellFormed signed := by
    have accepted := authentic.live wellFormed signed
    obtain ⟨payload, parsed, -⟩ := wellFormed
    obtain ⟨header, sent, digest⟩ := signed
    have there : header ≠ "" := by
      rintro rfl
      exact not_signatureOf_empty _ digest
    by_contra apart
    -- otherwise the signed request would be turned away
    have refused : ¬ SignatureOf env (JsString.utf8 payload.stringify) header := fun verified =>
      apart ⟨payload, parsed, header, sent, verified⟩
    exact (receive_refused secret real parsed sent there refused).2 accepted

/-- The check keeps forged events out and lets signed ones in exactly for the requests that are
checkable. -/
theorem authentic_iff_checkable : Authentic env request ↔ Checkable env request :=
  ⟨checkable_of_authentic secret real, authentic_of_checkable secret real⟩

end Secret

/-! ### Signed and unsigned requests -/

/-- `{"entry":[]}` -/
def emptyReport : List UInt8 := [123, 34, 101, 110, 116, 114, 121, 34, 58, 91, 93, 125]

def emptyReportEnv : WebhookEnv :=
  sampleEnv emptyReport (.object [(js "entry", .array [])])
    ⟨[70, 232, 13, 113, 170, 29, 9, 195, 184, 237, 40, 86, 75, 215, 45, 66, 65, 49, 244, 127, 100, 98,
      244, 76, 19, 158, 75, 35, 5, 162, 220, 187], rfl⟩

def emptyReportRequest : WebhookRequest where
  contentType := some "application/json"
  body := emptyReport
  signature := some "sha256=46e80d71aa1d09c3b8ed28564bd72d424131f47f6462f44c139e4b2305a2dcbb"

theorem authentic_emptyReport :
    Authentic emptyReportEnv emptyReportRequest ↔ Checkable emptyReportEnv emptyReportRequest :=
  authentic_iff_checkable (by decide +kernel) (by decide +kernel)

example : (emptyReportEnv.receive emptyReportRequest).response = .ok := by decide +kernel

def unsignedRequest : WebhookRequest where
  contentType := some "application/json"
  body := JsString.utf8 statusReport.stringify
  signature := none

/-- Without the header the event is stored, and its job queued. -/
theorem unsigned_ingested : ¬ Authentic statusReportEnv unsignedRequest := by
  intro authentic
  have changed : (handle statusReportEnv .empty unsignedRequest fun _ => ⟨true, true⟩).2 ≠ .empty := by
    intro unchanged
    have events := congrArg (·.events.length) unchanged
    revert events
    decide +kernel
  obtain ⟨header, sent, -⟩ := authentic.safe _ _ changed
  cases sent

end SelfOtp
