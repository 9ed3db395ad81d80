import Mathlib.Data.List.Nodup
import SelfOtp.Properties.EdgeLedger
import SelfOtp.Properties.EdgeRequests

/-! Where a code comes from that the Edge function accepts: it was handed to WhatsApp, for the same request
and to its phone number. -/
namespace SelfOtp.Edge

open Pool Transition

/-! ### Codes that are handed over -/

/-- A code that is handed to WhatsApp for a request of a customer. -/
structure Handover where
  customerId : Id
  requestId : JsString
  phoneNumber : JsString
  otpCode : JsString
  deriving DecidableEq

def SendCall.handovers (c : SendCall) : List Handover :=
  match c.pc with
  | .dispatch otpCode d => [⟨c.keyRecord.customerId, d.requestId, columnText c.phoneNumber, otpCode⟩]
  | _ => []

def ResendCall.handovers (c : ResendCall) : List Handover :=
  match c.pc with
  | .dispatch otp otpCode _ _ => [⟨c.customerId, otp.requestId, otp.phoneNumber, otpCode⟩]
  | _ => []

def Party.handovers : Party → List Handover
  | call (.send c) => c.handovers
  | call (.resend c) => c.handovers
  | call _ | webhook _ => []

def handedOver (p : PartySystem) : PartyLabel → List Handover
  | .resume i _ => (p.threads[i]?.map Party.handovers).getD []
  | .external _ => []

/-- Recipient and code, as WhatsApp gets them. -/
def Handover.message (h : Handover) : JsString × JsString := (h.phoneNumber, h.otpCode)

def MetaCall.message (call : MetaCall) : JsString × JsString := (columnText call.recipientPhone, call.otpCode)

/-! ### Ids -/

/-- Ids are handed out in order, and no two rows have one id. -/
structure Numbered (w : World) : Prop where
  ids : (w.db.otpRequests.map (·.id)).Nodup
  bounded : ∀ r ∈ w.db.otpRequests, r.id < w.nextId

section Numbered

variable {w w' : World}

theorem Numbered.eq_of_id (numbered : Numbered w) {r s : OtpRequest} (left : r ∈ w.db.otpRequests)
    (right : s ∈ w.db.otpRequests) (same : r.id = s.id) : r = s :=
  List.inj_on_of_nodup_map numbered.ids left right same

theorem Numbered.of_ids (numbered : Numbered w)
    (ids : w'.db.otpRequests.map (·.id) = w.db.otpRequests.map (·.id)) (nextId : w'.nextId = w.nextId) :
    Numbered w' := by
  refine ⟨by rw [ids]; exact numbered.ids, fun r there => ?_⟩
  have listed : r.id ∈ w'.db.otpRequests.map (·.id) := List.mem_map_of_mem there
  rw [ids] at listed
  obtain ⟨s, old, same⟩ := List.mem_map.mp listed
  rw [← same, nextId]
  exact numbered.bounded s old

theorem Numbered.insert (numbered : Numbered w) {row : OtpRequest} (fresh : row.id = w.nextId)
    (rows : w'.db.otpRequests = w.db.otpRequests ++ [row]) (nextId : w'.nextId = w.nextId + 1) :
    Numbered w' := by
  refine ⟨?_, fun r there => ?_⟩
  · rw [rows, List.map_append, List.map_singleton]
    refine List.Nodup.append numbered.ids (List.nodup_singleton _) ?_
    rw [List.disjoint_singleton]
    intro taken
    obtain ⟨r, old, same⟩ := List.mem_map.mp taken
    exact absurd (same.trans fresh) (numbered.bounded r old).ne
  · rw [rows] at there
    rw [nextId]
    rcases List.mem_append.mp there with old | added
    · exact Nat.lt_succ_of_lt (numbered.bounded r old)
    · rw [List.mem_singleton.mp added, fresh]
      exact Nat.lt_succ_self _

end Numbered

/-! ### What is kept -/

section Provenance

variable {env : Env} {seen more new : List Handover} {w w' : World} {customerId : Id}

/-- The hash belongs to a code that was handed over for the request. -/
def Backed (env : Env) (seen : List Handover) (customerId : Id) (requestId phoneNumber : JsString)
    (otpHash : String) : Prop :=
  ∃ h ∈ seen, h.customerId = customerId ∧ h.requestId = requestId ∧ h.phoneNumber = phoneNumber ∧
    hashOtp env h.otpCode = otpHash

def OtpRequest.Backed (env : Env) (seen : List Handover) (r : OtpRequest) : Prop :=
  Edge.Backed env seen r.customerId r.requestId r.phoneNumber r.otpHash

/-- Each row holds the hash of a code that was handed over for it. -/
structure Registered (env : Env) (seen : List Handover) (w : World) : Prop where
  numbered : Numbered w
  backed : ∀ r ∈ w.db.otpRequests, r.Backed env seen

/-- The row was read for the customer and is still there, with the hash it was read with or another. -/
structure Read (env : Env) (seen : List Handover) (w : World) (customerId : Id) (otp : OtpRequest) :
    Prop where
  own : otp.customerId = customerId
  backed : otp.Backed env seen
  there : otp.stub ∈ w.db.otpRequests.map (·.stub)

/-- The code that was presented has the hash of the row. -/
structure Matched (env : Env) (seen : List Handover) (w : World) (customerId : Id) (code : Json)
    (otp : OtpRequest) : Prop where
  read : Read env seen w customerId otp
  agrees : ∃ text, code.toText = some text ∧ hashOtp env text = otp.otpHash

def SendCall.Traced (env : Env) (seen : List Handover) (c : SendCall) : Prop :=
  match c.pc with
  | .dispatch otpCode d => d.otpHash = hashOtp env otpCode
  | .insert d _ => Backed env seen c.keyRecord.customerId d.requestId (columnText c.phoneNumber) d.otpHash
  | _ => True

def VerifyCall.Traced (env : Env) (seen : List Handover) (w : World) (c : VerifyCall) : Prop :=
  match c.pc with
  | .findRow => True
  | .expire otp | .recordAttempt otp => Read env seen w c.customerId otp
  | .compare otp code _ => Read env seen w c.customerId otp ∧ c.code.toText = some code
  | .markVerified otp _ => Matched env seen w c.customerId c.code otp
  | .answered (.verified data) =>
    ∃ otp, Matched env seen w c.customerId c.code otp ∧ otp.id = data.id ∧ otp.requestId = data.requestId
  | .answered _ => True

def ResendCall.Traced (env : Env) (seen : List Handover) (w : World) (c : ResendCall) : Prop :=
  match c.pc with
  | .findRow | .answered _ => True
  | .hash otp _ => Read env seen w c.customerId otp
  | .dispatch otp otpCode otpHash _ => Read env seen w c.customerId otp ∧ otpHash = hashOtp env otpCode
  | .update otp otpHash _ => Read env seen w c.customerId otp ∧
      Backed env seen c.customerId otp.requestId otp.phoneNumber otpHash

def Party.Traced (env : Env) (seen : List Handover) (w : World) : Party → Prop
  | call (.send c) => c.Traced env seen
  | call (.verify c) => c.Traced env seen w
  | call (.resend c) => c.Traced env seen w
  | call _ | webhook _ => True

/-- Each row of `w` is in `w'`, up to what updates change. -/
def Persists (w w' : World) : Prop :=
  ∀ stub ∈ w.db.otpRequests.map (·.stub), stub ∈ w'.db.otpRequests.map (·.stub)

theorem Backed.mono {requestId phoneNumber : JsString} {otpHash : String}
    (backed : Backed env seen customerId requestId phoneNumber otpHash) (le : seen ⊆ more) :
    Backed env more customerId requestId phoneNumber otpHash := by
  obtain ⟨h, there, agrees⟩ := backed
  exact ⟨h, le there, agrees⟩

theorem Read.mono {otp : OtpRequest} (read : Read env seen w customerId otp) (le : seen ⊆ more)
    (persists : Persists w w') : Read env more w' customerId otp :=
  ⟨read.own, read.backed.mono le, persists _ read.there⟩

theorem Matched.mono {code : Json} {otp : OtpRequest} (matched : Matched env seen w customerId code otp)
    (le : seen ⊆ more) (persists : Persists w w') : Matched env more w' customerId code otp :=
  ⟨matched.read.mono le persists, matched.agrees⟩

theorem Party.Traced.mono {t : Party} (traced : t.Traced env seen w) (le : seen ⊆ more)
    (persists : Persists w w') : t.Traced env more w' := by
  cases t with
  | webhook c => trivial
  | call t =>
    cases t with
    | authenticating apiKey request => trivial
    | refused reply => trivial
    | send c =>
      simp only [Traced, SendCall.Traced] at traced ⊢
      split at traced
      · exact traced
      · exact traced.mono le
      · trivial
    | verify c =>
      simp only [Traced, VerifyCall.Traced] at traced ⊢
      split at traced
      · trivial
      · exact traced.mono le persists
      · exact traced.mono le persists
      · exact ⟨traced.1.mono le persists, traced.2⟩
      · exact traced.mono le persists
      · obtain ⟨otp, matched, same⟩ := traced
        exact ⟨otp, matched.mono le persists, same⟩
      · trivial
    | resend c =>
      simp only [Traced, ResendCall.Traced] at traced ⊢
      split at traced
      · trivial
      · trivial
      · exact traced.mono le persists
      · exact ⟨traced.1.mono le persists, traced.2⟩
      · exact ⟨traced.1.mono le persists, traced.2.mono le⟩

/-- A row that the look-up finds is one of the customer. -/
theorem Registered.read (registered : Registered env seen w) {requestId : JsString} {otp : OtpRequest}
    (found : single (w.db.findOtpRequests customerId requestId) = some otp) :
    Read env seen w customerId otp := by
  obtain ⟨there, matching⟩ := List.mem_filter.mp (mem_of_single found)
  rw [Bool.and_eq_true] at matching
  exact ⟨beq_iff_eq.mp matching.1, registered.backed otp there, List.mem_map_of_mem there⟩

/-! ### What a step does to the rows -/

/-- The handovers of a step are the messages that it sends, and back the rows that it leaves. -/
structure Advance (env : Env) (seen new : List Handover) (w w' : World) : Prop where
  registered : Registered env (seen ++ new) w'
  persists : Persists w w'
  messages : w'.metaCalls.map (·.message) = w.metaCalls.map (·.message) ++ new.map (·.message)

theorem backed_of_coded {r s : OtpRequest} (same : s.coded = r.coded) (backed : r.Backed env seen) :
    s.Backed env seen := by
  simp only [OtpRequest.coded, OtpRequest.stub, Prod.mk.injEq] at same
  obtain ⟨⟨-, customer, request, phone⟩, hash⟩ := same
  rw [OtpRequest.Backed, customer, request, phone, hash]
  exact backed

/-- Ids and stubs stay where updates keep them. -/
theorem Unspent.persists (unspent : Unspent OtpRequest.stub w w') : Persists w w' := by
  intro stub there
  rwa [unspent.rows]

theorem Unspent.ids (unspent : Unspent OtpRequest.stub w w') :
    w'.db.otpRequests.map (·.id) = w.db.otpRequests.map (·.id) := (unspent.comp Prod.fst).rows

theorem Advance.silent (registered : Registered env seen w) (silent : Silent OtpRequest.coded w w') :
    Advance env seen [] w w' := by
  have numbered := registered.numbered.of_ids silent.stubs.ids silent.nextId
  refine ⟨⟨numbered, fun s there => ?_⟩, silent.stubs.persists, ?_⟩
  · have listed : s.coded ∈ w'.db.otpRequests.map (·.coded) := List.mem_map_of_mem there
    rw [show w'.db.otpRequests.map (·.coded) = w.db.otpRequests.map (·.coded) from silent.rows] at listed
    obtain ⟨r, old, same⟩ := List.mem_map.mp listed
    exact backed_of_coded same.symm ((registered.backed r old).mono (List.subset_append_left _ _))
  · rw [silent.metaCalls, List.map_nil, List.append_nil]

theorem Advance.same (registered : Registered env seen w) (rows : w'.db.otpRequests = w.db.otpRequests)
    (nextId : w'.nextId = w.nextId) (metaCalls : w'.metaCalls = w.metaCalls) :
    Advance env seen [] w w' := by
  have numbered := registered.numbered.of_ids (by rw [rows]) nextId
  refine ⟨⟨numbered, fun r there => ?_⟩, fun stub there => by rwa [rows], ?_⟩
  · rw [rows] at there
    exact (registered.backed r there).mono (List.subset_append_left _ _)
  · rw [metaCalls, List.map_nil, List.append_nil]

/-- A code is handed over, and nothing is written. -/
theorem Advance.handover (registered : Registered env seen w) {call : MetaCall} {h : Handover}
    (same : call.message = h.message) :
    Advance env seen [h] w { w with metaCalls := w.metaCalls ++ [call] } := by
  have numbered : Numbered { w with metaCalls := w.metaCalls ++ [call] } :=
    registered.numbered.of_ids rfl rfl
  refine ⟨⟨numbered, fun r there => (registered.backed r there).mono (List.subset_append_left _ _)⟩,
    fun stub there => there, ?_⟩
  rw [List.map_append, List.map_singleton, List.map_singleton, same]

/-- A row is inserted with the next id. -/
theorem Advance.insert (registered : Registered env seen w) {row : OtpRequest} (fresh : row.id = w.nextId)
    (backed : row.Backed env seen) :
    Advance env seen [] w { w with
      db := { w.db with otpRequests := w.db.otpRequests ++ [row] }
      nextId := w.nextId + 1 } := by
  refine ⟨⟨registered.numbered.insert fresh rfl rfl, fun r there => ?_⟩, fun stub there => ?_, by simp⟩
  · rcases List.mem_append.mp there with old | added
    · exact (registered.backed r old).mono (List.subset_append_left _ _)
    · rw [List.mem_singleton.mp added]
      exact backed.mono (List.subset_append_left _ _)
  · rw [List.map_append]
    exact List.mem_append_left _ there

/-- The row that was read gets the hash of another code. -/
theorem Advance.renew (registered : Registered env seen w) {otp : OtpRequest} {otpHash : String}
    {expiresAt : Millis} (read : Read env seen w customerId otp)
    (backed : Backed env seen customerId otp.requestId otp.phoneNumber otpHash) :
    Advance env seen [] w { w with db := w.db.updateOtpRequest otp.id fun r =>
      { r with otpHash := otpHash, status := .sent, expiresAt := expiresAt } } := by
  have unspent : Unspent OtpRequest.stub w { w with db := w.db.updateOtpRequest otp.id fun r =>
      { r with otpHash := otpHash, status := .sent, expiresAt := expiresAt } } := .update otp.id fun _ => rfl
  have numbered := registered.numbered.of_ids unspent.ids unspent.nextId
  refine ⟨⟨numbered, fun s there => ?_⟩, unspent.persists, by simp⟩
  obtain ⟨r, old, rfl⟩ := List.mem_map.mp there
  split
  next here =>
    -- the row with this id is the one that was read
    obtain ⟨other, found, same⟩ := List.mem_map.mp read.there
    simp only [OtpRequest.stub, Prod.mk.injEq] at same
    obtain ⟨id, customer, request, phone⟩ := same
    cases registered.numbered.eq_of_id old found (here.trans id.symm)
    rw [OtpRequest.Backed]
    dsimp only
    rw [customer, request, phone, read.own]
    exact backed.mono (List.subset_append_left _ _)
  next => exact (registered.backed r old).mono (List.subset_append_left _ _)

/-! ### The calls -/

variable {a : Answer}

theorem SendCall.step_advance {c c' : SendCall} (registered : Registered env seen w)
    (traced : c.Traced env seen) (h : c.step env w a = some (w', c')) :
    Advance env seen c.handovers w w' := by
  cases pc : c.pc with
  | lookup key =>
    have quiet : c.handovers = [] := by simp only [handovers, pc]
    rw [quiet]
    simp only [step, pc] at h
    split at h
    · split at h <;> cases h <;> exact .same registered rfl rfl rfl
    · cases h
      exact .same registered rfl rfl rfl
  | deduct description =>
    have quiet : c.handovers = [] := by simp only [handovers, pc]
    rw [quiet]
    simp only [step, pc] at h
    split at h
    · cases h
      exact .same registered rfl rfl rfl
    · cases h
      exact .same registered rfl rfl rfl
    next db balance success =>
      have rows : db.otpRequests = w.db.otpRequests := by
        split at success
        · exact (Database.deductWalletCredit_booked c.keyRecord.customerId success).2
        · cases success
      split at h <;> cases h <;> exact .same registered rows rfl rfl
  | hash otpCode =>
    have quiet : c.handovers = [] := by simp only [handovers, pc]
    rw [quiet]
    simp only [step, pc] at h
    cases h
    exact .same registered rfl rfl rfl
  | dispatch otpCode d =>
    have shown : c.handovers =
        [⟨c.keyRecord.customerId, d.requestId, columnText c.phoneNumber, otpCode⟩] := by
      simp only [handovers, pc]
    rw [shown]
    simp only [step, pc] at h
    cases h
    exact .handover registered rfl
  | insert d metaResult =>
    have quiet : c.handovers = [] := by simp only [handovers, pc]
    rw [quiet]
    simp only [Traced, pc] at traced
    simp only [step, pc] at h
    split at h
    next db inserted =>
      cases h
      split at inserted
      · unfold Database.insertOtpRequest at inserted
        split at inserted <;> cases inserted
        exact .insert registered rfl traced
      · cases inserted
    · cases h
      exact .same registered rfl rfl rfl
  | refund message =>
    have quiet : c.handovers = [] := by simp only [handovers, pc]
    rw [quiet]
    simp only [step, pc] at h
    cases h
    exact .same registered (Database.refunded_rows w.db a.ok c.keyRecord.customerId _ _) rfl rfl
  | answered reply writes =>
    have quiet : c.handovers = [] := by simp only [handovers, pc]
    rw [quiet]
    cases writes with
    | nil => simp [step, pc] at h
    | cons first rest =>
      simp only [step, pc] at h
      cases h
      split
      · cases first with
        | message row => exact .same registered rfl rfl rfl
        | idempotencyKey row =>
          unfold write Database.upsertIdempotencyKey
          dsimp only
          split <;> exact .same registered rfl rfl rfl
      · exact .same registered rfl rfl rfl

/-- The hash that a send inserts is that of the code that it has handed over. -/
theorem SendCall.step_traced {c c' : SendCall} (traced : c.Traced env seen)
    (h : c.step env w a = some (w', c')) : c'.Traced env (seen ++ c.handovers) := by
  obtain ⟨move, same⟩ := step_move h
  unfold Traced handovers at *
  rw [same]
  simp only [goto]
  generalize c.pc = pc at move traced ⊢
  generalize c'.pc = pc' at move ⊢
  cases move with
  | hash otpCode => rfl
  | dispatch otpCode d delivery =>
    exact ⟨_, List.mem_append_right _ (List.mem_singleton_self _), rfl, rfl, rfl, traced.symm⟩
  | cached | describe | unreadable | refuse | charge | crash | insert | fail | refund | write => trivial

theorem VerifyCall.step_traced {c c' : VerifyCall} (registered : Registered env seen w)
    (traced : c.Traced env seen w) (h : c.step env w a = some (w', c')) : c'.Traced env seen w' := by
  have persists : Persists w w' := (step_silent h).stubs.persists
  have kept {otp : OtpRequest} (read : Read env seen w c.customerId otp) : Read env seen w' c.customerId otp :=
    read.mono (List.Subset.refl seen) persists
  obtain ⟨move, same⟩ := step_move h
  unfold Traced at *
  rw [same]
  simp only [goto]
  generalize c.pc = pc at move traced
  generalize c'.pc = pc' at move ⊢
  cases move with
  | lapse otp found | read otp found => exact kept (registered.read found)
  | count otp code attempts text => exact ⟨kept traced, text⟩
  | agree otp code attempts right => exact ⟨kept traced.1, code, traced.2, hashOtp_trim env code ▸ right⟩
  | mark otp now => exact ⟨otp, traced.mono (List.Subset.refl seen) persists, rfl, rfl⟩
  | missing | used | expire | exceed | crash | differ => trivial

theorem ResendCall.step_advance {c c' : ResendCall} (registered : Registered env seen w)
    (traced : c.Traced env seen w) (h : c.step env w a = some (w', c')) :
    Advance env seen c.handovers w w' := by
  cases pc : c.pc with
  | findRow =>
    have quiet : c.handovers = [] := by simp only [handovers, pc]
    rw [quiet]
    simp only [step, pc] at h
    split at h
    · cases h
      exact .same registered rfl rfl rfl
    · split at h
      · cases h
        exact .same registered rfl rfl rfl
      · split at h
        · cases h
          exact .same registered rfl rfl rfl
        · split at h <;> cases h <;> exact .same registered rfl rfl rfl
  | hash otp otpCode =>
    have quiet : c.handovers = [] := by simp only [handovers, pc]
    rw [quiet]
    simp only [step, pc] at h
    cases h
    exact .same registered rfl rfl rfl
  | dispatch otp otpCode otpHash expiresAt =>
    have shown : c.handovers = [⟨c.customerId, otp.requestId, otp.phoneNumber, otpCode⟩] := by
      simp only [handovers, pc]
    rw [shown]
    simp only [step, pc] at h
    cases h
    exact .handover registered rfl
  | update otp otpHash expiresAt =>
    have quiet : c.handovers = [] := by simp only [handovers, pc]
    rw [quiet]
    simp only [Traced, pc] at traced
    simp only [step, pc] at h
    cases h
    split
    · exact .renew registered traced.1 traced.2
    · exact .same registered rfl rfl rfl
  | answered reply => simp [step, pc] at h

/-- The hash that a resend stores is that of the code that it has handed over for the row. -/
theorem ResendCall.step_traced {c c' : ResendCall} (registered : Registered env seen w)
    (traced : c.Traced env seen w) (h : c.step env w a = some (w', c')) :
    c'.Traced env (seen ++ c.handovers) w' := by
  have persists : Persists w w' := (step_unspent h).persists
  have kept {otp : OtpRequest} {new : List Handover} (read : Read env seen w c.customerId otp) :
      Read env (seen ++ new) w' c.customerId otp := read.mono (List.subset_append_left _ _) persists
  obtain ⟨move, same⟩ := step_move h
  unfold Traced handovers at *
  rw [same]
  simp only [goto]
  generalize c.pc = pc at move traced ⊢
  generalize c'.pc = pc' at move ⊢
  cases move with
  | read otp otpCode found => exact kept (registered.read found)
  | hash otp otpCode => exact ⟨kept traced, rfl⟩
  | dispatch otp otpCode otpHash expiresAt =>
    exact ⟨kept traced.1, _, List.mem_append_right _ (List.mem_singleton_self _), rfl, rfl, rfl,
      traced.2.symm⟩
  | missing | used | wait | crash | update => trivial

theorem WebhookCall.step_advance {c c' : WebhookCall} (registered : Registered env seen w)
    (h : c.step w a = some (w', c')) : Advance env seen [] w w' := by
  rcases step_silent h with silent | ⟨otp, rest, pc⟩
  · exact .silent registered silent
  · simp only [step, pc] at h
    cases h
    exact .same registered (Database.refunded_rows w.db a.ok otp.customerId _ _) rfl rfl

theorem Thread.handler_traced (keyRecord : ApiKey) (request : Request) :
    (Party.call (handler keyRecord request)).Traced env seen w := by
  unfold handler of
  cases request.action with
  | send =>
    dsimp only
    split
    next c started =>
      simp only [Party.Traced, SendCall.Traced]
      rcases SendCall.start_pc started with ⟨key, pc⟩ | ⟨description, pc⟩ | pc <;> rw [pc] <;> trivial
    · trivial
  | verify =>
    dsimp only
    split
    next c started =>
      simp only [Party.Traced, VerifyCall.Traced, VerifyCall.start_pc started]
    · trivial
  | resend =>
    dsimp only
    split
    next c started =>
      simp only [Party.Traced, ResendCall.Traced, ResendCall.start_pc started]
    · trivial

/-- What a party does, and where it is afterwards. -/
theorem Party.resume_traced {t t' : Party} (registered : Registered env seen w) (traced : t.Traced env seen w)
    (resumed : t.resume env w a = some (w', t')) :
    Advance env seen t.handovers w w' ∧ t'.Traced env (seen ++ t.handovers) w' := by
  have silent : seen ⊆ seen ++ [] := List.subset_append_left _ _
  cases t with
  | webhook c =>
    obtain ⟨⟨v, c'⟩, stepped, same⟩ := Option.map_eq_some_iff.mp resumed
    cases same
    exact ⟨WebhookCall.step_advance registered stepped, trivial⟩
  | call t =>
    obtain ⟨⟨v, u⟩, called, same⟩ := Option.map_eq_some_iff.mp resumed
    cases same
    cases t with
    | authenticating apiKey request =>
      simp only [Thread.resume] at called
      split at called <;> cases called
      · exact ⟨.same registered rfl rfl rfl, Thread.handler_traced _ request⟩
      · exact ⟨.same registered rfl rfl rfl, trivial⟩
    | refused reply => cases called
    | send c =>
      obtain ⟨c', stepped, rfl⟩ := Thread.stepped_eq_some called
      exact ⟨SendCall.step_advance registered traced stepped, SendCall.step_traced traced stepped⟩
    | verify c =>
      obtain ⟨c', stepped, rfl⟩ := Thread.stepped_eq_some called
      have next : (Party.call (.verify c')).Traced env seen w' :=
        VerifyCall.step_traced registered traced stepped
      exact ⟨.silent registered (VerifyCall.step_silent stepped), next.mono silent fun _ there => there⟩
    | resend c =>
      obtain ⟨c', stepped, rfl⟩ := Thread.stepped_eq_some called
      exact ⟨ResendCall.step_advance registered traced stepped,
        ResendCall.step_traced registered traced stepped⟩

theorem Party.born_traced {event : PartyEvent} {born : List Party}
    (acted : Party.external w event = some (w', born)) :
    ∀ t ∈ born, t.Traced env seen w' := by
  intro t there
  cases event with
  | call event =>
    obtain ⟨⟨v, threads⟩, arrived, same⟩ := Option.map_eq_some_iff.mp acted
    cases same
    obtain ⟨u, among, rfl⟩ := List.mem_map.mp there
    obtain ⟨request, rfl⟩ := (Thread.external_cases arrived).born u among
    unfold Thread.start
    split <;> trivial
  | webhook payload =>
    cases acted
    rw [List.mem_singleton.mp there]
    trivial

end Provenance

/-! ### Runs -/

section Runs

variable {env : Env} {p q : PartySystem} {seen : List Handover}

/-- All that is stored or read is traced to the codes that have been handed over. -/
structure Provenance (env : Env) (p : PartySystem) (seen : List Handover) : Prop where
  registered : Registered env seen p.shared
  threads : ∀ t ∈ p.threads, t.Traced env seen p.shared
  messages : p.shared.metaCalls.map (·.message) = seen.map (·.message)

theorem Provenance.step {l : PartyLabel} (provenance : Provenance env p seen)
    (taken : Pool.step (partyProgram env) p l = some q) : Provenance env q (seen ++ handedOver p l) := by
  cases l with
  | resume i a =>
    obtain ⟨t, w', t', there, resumed, rfl⟩ := step_resume taken
    have shown : handedOver p (.resume i a) = t.handovers := by
      simp only [handedOver, there, Option.map_some, Option.getD_some]
    rw [shown]
    have traced := provenance.threads t (List.mem_of_getElem? there)
    obtain ⟨advance, next⟩ := Party.resume_traced provenance.registered traced resumed
    refine ⟨advance.registered, fun u among => ?_, ?_⟩
    · rcases mem_set_cases among with rfl | ⟨j, -, other⟩
      · exact next
      · exact (provenance.threads u (List.mem_of_getElem? other)).mono (List.subset_append_left _ _)
          advance.persists
    · rw [advance.messages, provenance.messages, List.map_append]
  | external event =>
    obtain ⟨w', born, acted, rfl⟩ := step_external taken
    have advance : Advance env seen [] p.shared w' :=
      .silent provenance.registered (Party.external_unspent 0 acted).1
    refine ⟨advance.registered, fun u among => ?_, ?_⟩
    · rcases List.mem_append.mp among with old | arrived
      · exact (provenance.threads u old).mono (List.subset_append_left _ _) advance.persists
      · exact Party.born_traced acted u arrived
    · rw [advance.messages, provenance.messages, List.map_append]
      rfl

/-- What is accepted, stored and sent is a code that was handed over for the request. -/
structure CodesHandedOver (env : Env) (p : PartySystem) (seen : List Handover) : Prop where
  verified : ∀ c data, Party.call (.verify c) ∈ p.threads → c.pc = .answered (.verified data) →
    ∃ code, c.code.toText = some code ∧ ∃ h ∈ seen, h.customerId = c.customerId ∧
      h.requestId = data.requestId ∧ hashOtp env h.otpCode = hashOtp env code ∧
      ∃ r ∈ p.shared.db.otpRequests, r.id = data.id ∧ r.customerId = h.customerId ∧
        r.requestId = h.requestId ∧ r.phoneNumber = h.phoneNumber
  rows : ∀ r ∈ p.shared.db.otpRequests, r.Backed env seen
  messages : p.shared.metaCalls.map (·.message) = seen.map (·.message)

theorem Provenance.codesHandedOver (provenance : Provenance env p seen) : CodesHandedOver env p seen := by
  refine ⟨fun c data there answered => ?_, provenance.registered.backed, provenance.messages⟩
  have traced := provenance.threads _ there
  simp only [Party.Traced, VerifyCall.Traced, answered] at traced
  obtain ⟨otp, matched, id, name⟩ := traced
  obtain ⟨⟨own, ⟨h, known, customer, request, phone, hash⟩, listed⟩, code, text, agrees⟩ := matched
  refine ⟨code, text, h, known, customer.trans own, request.trans name, hash.trans agrees.symm, ?_⟩
  obtain ⟨r, row, same⟩ := List.mem_map.mp listed
  simp only [OtpRequest.stub, Prod.mk.injEq] at same
  obtain ⟨rowId, rowCustomer, rowRequest, rowPhone⟩ := same
  exact ⟨r, row, rowId.trans id, rowCustomer.trans customer.symm, rowRequest.trans request.symm,
    rowPhone.trans phone.symm⟩

/-- In every run of both Edge functions from an empty system, a code that is accepted for a request was
handed to WhatsApp for this request and its phone number, by a send or a resend of the same customer. -/
theorem accepted_codes_handed_over {labels : List PartyLabel} (idle : p.threads = [])
    (empty : p.shared.db.otpRequests = []) (silent : p.shared.metaCalls = [])
    (returned : run (step (partyProgram env)) p labels = some q) :
    CodesHandedOver env q (observed (step (partyProgram env)) handedOver p labels) := by
  have start : Provenance env p [] := by
    refine ⟨⟨⟨?_, ?_⟩, ?_⟩, ?_, ?_⟩
    · simp [empty]
    · simp [empty]
    · simp [empty]
    · simp [idle]
    · simp [silent]
  have provenance := run_observed (Provenance env) (fun s seen l t provenance taken => provenance.step taken)
    start returned
  rw [List.nil_append] at provenance
  exact provenance.codesHandedOver

/-- A send, a resend with a code of its own, and a verification with that code. -/
def resentAndVerified : List PartyLabel :=
  let post (action : Action) (members : List (JsString × Json)) (first : ℕ) : PartyLabel :=
    .external (.call (.post ⟨action, some "wotp_live_00", none, some (.object members),
      fun i => (i + first).toUInt8, 7⟩))
  let request := (js "request_id", Json.string (newRequestId 7))
  post .send [(js "phone_number", .string (js "+4915112345678"))] 1 :: settle 0 6 ++
    .external (.call (.tick 60000)) :: post .resend [request] 2 :: settle 1 5 ++
    post .verify [request, (js "code", .string (js "234567"))] 0 :: settle 2 5

theorem accepted_codes_handed_over_resent :
    ∃ q, run (step (partyProgram sampleEnv)) ⟨sampleSystem.shared, []⟩ resentAndVerified = some q ∧
      q.shared.db.otpRequests.map (·.status) = [.verified] ∧
      CodesHandedOver sampleEnv q
        [⟨1, newRequestId 7, js "+4915112345678", js "123456"⟩,
          ⟨1, newRequestId 7, js "+4915112345678", js "234567"⟩] := by
  refine ⟨_, (Option.some_get (by decide +kernel)).symm, by decide +kernel, ?_⟩
  have shown : observed (step (partyProgram sampleEnv)) handedOver ⟨sampleSystem.shared, []⟩
      resentAndVerified =
    [⟨1, newRequestId 7, js "+4915112345678", js "123456"⟩,
      ⟨1, newRequestId 7, js "+4915112345678", js "234567"⟩] := by decide +kernel
  have reached : (run (step (partyProgram sampleEnv)) ⟨sampleSystem.shared, []⟩
    resentAndVerified).isSome = true := by decide +kernel
  rw [← shown]
  exact accepted_codes_handed_over (p := ⟨sampleSystem.shared, []⟩) rfl rfl rfl
    (Option.some_get reached).symm

end Runs

end SelfOtp.Edge
