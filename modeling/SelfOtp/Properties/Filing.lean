import SelfOtp.Properties.OtpEntries

/-! Every stored OTP entry, and every call that holds one, belongs to a request row of the
application and phone number it is stored under. -/
namespace SelfOtp

open Pool

/-! ### Rows persist -/

theorem SameRow.trans {r s t : OtpRequest} (first : SameRow r s) (second : SameRow s t) :
    SameRow r t :=
  ⟨second.id.trans first.id, second.requestId.trans first.requestId,
    second.customerId.trans first.customerId, second.applicationId.trans first.applicationId,
    second.phoneNumber.trans first.phoneNumber⟩

/-- Ids and request ids identify the rows, and ids are handed out in order. -/
structure RowIds (rows : List OtpRequest) (nextId : Id) : Prop where
  bounded : ∀ r ∈ rows, r.id < nextId
  unique : ∀ r ∈ rows, ∀ s ∈ rows, r.id = s.id ∨ r.requestId = s.requestId → r = s

section Rows

variable {rows rows' : List OtpRequest} {nextId nextId' : Id} {change : Option RowChange}

theorem RowsStep.persists (step : RowsStep rows nextId rows' nextId' change) {r : OtpRequest}
    (member : r ∈ rows) : ∃ s ∈ rows', SameRow r s := by
  cases step with
  | same => exact ⟨r, member, .refl r⟩
  | create row => exact ⟨r, List.mem_append_left _ member, .refl r⟩
  | edit id f keeps | write id s f keeps =>
    refine ⟨_, List.mem_map_of_mem member, ?_⟩
    split
    · exact keeps r
    · exact .refl r

/-- A row of the new table is an old one, or was just created. -/
theorem RowsStep.origin (step : RowsStep rows nextId rows' nextId' change) {s : OtpRequest}
    (member : s ∈ rows') : (∃ r ∈ rows, SameRow r s) ∨ change = some (.create s) := by
  cases step with
  | same => exact Or.inl ⟨s, member, .refl s⟩
  | create row fresh unused status =>
    rcases List.mem_append.mp member with old | new
    · exact Or.inl ⟨s, old, .refl s⟩
    · cases List.mem_singleton.mp new
      exact Or.inr rfl
  | edit id f keeps | write id t f keeps =>
    obtain ⟨r, old, rfl⟩ := List.mem_map.mp member
    refine Or.inl ⟨r, old, ?_⟩
    split
    · exact keeps r
    · exact .refl r

private theorem RowIds.map (ids : RowIds rows nextId) (id : Id) (f : OtpRequest → OtpRequest)
    (keeps : KeepsRow f) : RowIds (rows.map fun r => if r.id = id then f r else r) nextId := by
  have same (r : OtpRequest) : SameRow r (if r.id = id then f r else r) := by
    split
    · exact keeps r
    · exact .refl r
  refine ⟨fun s member => ?_, fun s member t member' equal => ?_⟩
  · obtain ⟨r, old, rfl⟩ := List.mem_map.mp member
    rw [(same r).id]
    exact ids.bounded r old
  · obtain ⟨r, old, rfl⟩ := List.mem_map.mp member
    obtain ⟨r', old', rfl⟩ := List.mem_map.mp member'
    rw [(same r).id, (same r').id, (same r).requestId, (same r').requestId] at equal
    rw [ids.unique r old r' old' equal]

theorem RowIds.step (ids : RowIds rows nextId)
    (step : RowsStep rows nextId rows' nextId' change) : RowIds rows' nextId' := by
  cases step with
  | same grows => exact ⟨fun r member => lt_of_lt_of_le (ids.bounded r member) grows, ids.unique⟩
  | create row fresh unused =>
    refine ⟨fun r member => ?_, fun r member s member' equal => ?_⟩
    · rcases List.mem_append.mp member with old | new
      · exact Nat.lt_succ_of_lt (ids.bounded r old)
      · cases List.mem_singleton.mp new
        rw [fresh]
        exact Nat.lt_succ_self nextId
    · rcases List.mem_append.mp member with old | new
      · rcases List.mem_append.mp member' with old' | new'
        · exact ids.unique r old s old' equal
        · cases List.mem_singleton.mp new'
          rcases equal with same_id | same_request
          · exact absurd (same_id.trans fresh) (ids.bounded r old).ne
          · exact absurd same_request (unused r old)
      · cases List.mem_singleton.mp new
        rcases List.mem_append.mp member' with old' | new'
        · rcases equal with same_id | same_request
          · exact absurd (same_id.symm.trans fresh) (ids.bounded s old').ne
          · exact absurd same_request.symm (unused s old')
        · exact (List.mem_singleton.mp new').symm
  | edit id f keeps => exact ids.map id f keeps
  | write id s f keeps => exact ids.map id f keeps

end Rows

/-! ### What a call is linked to -/

/-- A row of the application and the phone number with this request id. -/
def Requested (env : Env) (db : Database) (key : OtpKey) (requestId : String) : Prop :=
  ∃ r ∈ db.otpRequests, r.requestId = requestId ∧ r.applicationId = key.1 ∧
    hashPhoneNumber env r.phoneNumber = key.2

def VerifyPc.held : VerifyPc → Option Fetched
  | findRecord f | incorrectAttempts f _ | incorrectVerification f _ | maxStatus f _ | maxBlock f
  | maxDelete f | ttl f | writeBack f _ | delete f _ | verifiedStatus f _ _
  | correctVerification f _ _ => some f
  | lookup | verified _ | rejected _ | internalError => none

/-- The last attempt has failed. -/
def JobPc.exhausted : JobPc → Bool
  | exhaustedMark _ | exhaustedRefund _ | exhaustedDeadLetter _ => true
  | _ => false

def VerifyPc.record : VerifyPc → Option Id
  | incorrectAttempts _ record | incorrectVerification _ record | maxStatus _ record
  | verifiedStatus _ record _ | correctVerification _ record _ => some record
  | delete _ record => record
  | _ => none

structure VerifyCall.Linked (env : Env) (w : World) (c : VerifyCall) : Prop where
  requested : ∀ f ∈ c.pc.held, Requested env w.db (c.key env) f.data.requestId
  answered : ∀ result, c.pc = .verified result → Requested env w.db (c.key env) result.requestId
  object : ∀ f ∈ c.pc.held, ∀ object ∈ f.object, object < (w.memory c.process).nextObject ∧
    ((w.memory c.process).heap object).otp.requestId = f.data.requestId ∧
    ∀ key, (w.memory c.process).otp key = some object → key = c.key env
  record : ∀ f ∈ c.pc.held, ∀ id ∈ c.pc.record, ∃ r ∈ w.db.otpRequests, r.id = id ∧
    r.requestId = f.data.requestId ∧ r.applicationId = c.applicationId

def Thread.Linked (env : Env) (w : World) : Thread → Prop
  | send c => ∀ d ∈ c.pc.dispatch, ∃ r ∈ w.db.otpRequests, r.id = d.record ∧
      r.requestId = d.requestId ∧ r.customerId = c.customer.id ∧
      r.applicationId = c.applicationId ∧ r.phoneNumber = c.body.phoneNumber
  | verify _ c => c.Linked env w
  | resend c => (∀ record ∈ c.pc.record, record.applicationId = c.applicationId ∧
        ∃ r ∈ w.db.otpRequests, SameRow record r) ∧
      ∀ id, c.pc = .expire id → ∃ r ∈ w.db.otpRequests, r.id = id ∧
        r.applicationId = c.applicationId
  | status _ c => ∀ record, c.pc = .expire record → record.applicationId = c.applicationId ∧
      ∃ r ∈ w.db.otpRequests, SameRow record r
  | sendOtpJob c => c.pc.exhausted = true → c.maxRetries ≤ c.attemptsMade + 1
  | webhook c => ∀ record s, c.pc = .updateOtpRequest record s → s ≠ .verified
  | authenticating .. | dashboard _ | register _ => True

/-- What holds in every reachable state. -/
structure Filed (env : Env) (p : System) : Prop where
  rows : RowIds p.shared.db.otpRequests p.shared.nextId
  objects : Objects p.shared
  entries : ∀ key requestId, Holds p.shared key requestId →
    Requested env p.shared.db key requestId
  housed : ∀ process key object, (p.shared.memory process).otp key = some object →
    ∃ t ∈ p.threads, t.process = some process
  threads : ∀ t ∈ p.threads, t.Linked env p.shared

section Linked

variable {env : Env} {w w' : World} {a : Answer} {ok : Bool} {target : Option RowChange}
  {put : Option (OtpKey × String)} {caller : Option ℕ}

theorem RowsTo.persists (rows : RowsTo w w' target) {r : OtpRequest} (member : r ∈ w.db.otpRequests) :
    ∃ s ∈ w'.db.otpRequests, SameRow r s := by
  obtain ⟨change, step, -⟩ := rows
  exact step.persists member

theorem Requested.mono {key : OtpKey} {requestId : String}
    (requested : Requested env w.db key requestId) (rows : RowsTo w w' target) :
    Requested env w'.db key requestId := by
  obtain ⟨r, member, names, of_app, of_phone⟩ := requested
  obtain ⟨s, kept, same⟩ := rows.persists member
  exact ⟨s, kept, same.requestId.trans names, same.applicationId.trans of_app,
    by rw [same.phoneNumber, of_phone]⟩

theorem VerifyCall.Linked.mono {c : VerifyCall} (linked : c.Linked env w) (rows : RowsTo w w' target)
    (entries : EntriesStep w w' put caller) : c.Linked env w' := by
  refine ⟨fun f held => (linked.requested f held).mono rows,
    fun result at_result => (linked.answered result at_result).mono rows,
    fun f held object refers => ?_, fun f held id of_record => ?_⟩
  · obtain ⟨bounded, names, of_key⟩ := linked.object f held object refers
    refine ⟨lt_of_lt_of_le bounded (entries.next _), (entries.heap _ _ bounded).trans names,
      fun key stored => ?_⟩
    rcases entries.fresh _ _ _ stored with old | ⟨new, -⟩
    · exact of_key key old
    · omega
  · obtain ⟨r, member, of_id, names, of_app⟩ := linked.record f held id of_record
    obtain ⟨s, kept, same⟩ := rows.persists member
    exact ⟨s, kept, same.id.trans of_id, same.requestId.trans names,
      same.applicationId.trans of_app⟩

theorem Thread.Linked.mono {t : Thread} (linked : t.Linked env w) (rows : RowsTo w w' target)
    (entries : EntriesStep w w' put caller) : t.Linked env w' := by
  cases t with
  | send c =>
    intro d dispatched
    obtain ⟨r, member, of_id, names, of_customer, of_app, of_phone⟩ := linked d dispatched
    obtain ⟨s, kept, same⟩ := rows.persists member
    exact ⟨s, kept, same.id.trans of_id, same.requestId.trans names,
      same.customerId.trans of_customer, same.applicationId.trans of_app,
      same.phoneNumber.trans of_phone⟩
  | verify customer c => exact VerifyCall.Linked.mono linked rows entries
  | resend c =>
    refine ⟨fun record holds => ?_, fun id expiring => ?_⟩
    · obtain ⟨of_app, r, member, same⟩ := linked.1 record holds
      obtain ⟨s, kept, same'⟩ := rows.persists member
      exact ⟨of_app, s, kept, same.trans same'⟩
    · obtain ⟨r, member, of_id, of_app⟩ := linked.2 id expiring
      obtain ⟨s, kept, same⟩ := rows.persists member
      exact ⟨s, kept, same.id.trans of_id, same.applicationId.trans of_app⟩
  | status customer c =>
    intro record expiring
    obtain ⟨of_app, r, member, same⟩ := linked record expiring
    obtain ⟨s, kept, same'⟩ := rows.persists member
    exact ⟨of_app, s, kept, same.trans same'⟩
  | authenticating | dashboard | register | sendOtpJob | webhook => exact linked

theorem Database.findOtpRequest_eq_some {db : Database} {requestId : String} {applicationId : Id}
    {r : OtpRequest} (found : db.findOtpRequest requestId applicationId = some r) :
    r ∈ db.otpRequests ∧ r.requestId = requestId ∧ r.applicationId = applicationId := by
  have member := List.mem_of_find?_eq_some found
  have selected := List.find?_some found
  simp only [Bool.and_eq_true, beq_iff_eq] at selected
  exact ⟨member, selected.1, selected.2⟩

/-! ### The calls -/

theorem SendCall.step_linked {c c' : SendCall} (linked : (Thread.send c).Linked env w)
    (entries : EntriesStep w w' put caller) (h : c.step env w a = some (w', c')) :
    (Thread.send c').Linked env w' := by
  have rows := step_rows h
  have kept := Thread.Linked.mono linked rows entries
  obtain ⟨move, same_call⟩ := step_move h
  rw [same_call]
  simp only [Thread.Linked, goto] at kept ⊢
  have finished (d : Dispatch) : ∀ e ∈ (c.finish env d).dispatch, e = d := by
    intro e dispatched
    unfold finish at dispatched
    split at dispatched <;> cases dispatched
    rfl
  generalize c.pc = pc at move kept
  generalize c'.pc = pc' at move
  cases move with
  | early before after =>
    rcases after with rfl | ⟨k, -, rfl⟩ | ⟨-, rfl⟩ <;> exact fun d h => (by cases h)
  | check before same after =>
    intro d dispatched
    rw [SendPc.checking_dispatch after] at dispatched
    cases dispatched
  | create otpCode requestId expiresAt db created =>
    intro d dispatched
    cases dispatched
    unfold Database.createOtpRequest at created
    split at created <;> cases created
    exact ⟨_, List.mem_append_right _ (List.mem_singleton_self _), rfl, rfl, rfl, rfl, rfl⟩
  | deliver d after =>
    rw [after]
    split
    · exact kept
    · exact kept
  | enqueue d | markSent d | refund d =>
    intro e dispatched
    rw [finished d e dispatched]
    exact kept d rfl
  | debit | store | setCooldown | offline | markFailed | saveCache => exact kept
  | refuse | hit | miss | known | unknown | prepare | unpaid | saveRecord | crash =>
    exact fun d h => (by cases h)

theorem ResendCall.step_linked {c c' : ResendCall} (linked : (Thread.resend c).Linked env w)
    (entries : EntriesStep w w' put caller) (h : c.step env w a = some (w', c')) :
    (Thread.resend c').Linked env w' := by
  have rows := step_rows h
  have kept := (Thread.Linked.mono linked rows entries).1
  obtain ⟨move, same_call⟩ := step_move h
  rw [same_call]
  simp only [Thread.Linked, goto]
  generalize c.pc = pc at move kept
  generalize c'.pc = pc' at move
  cases move with
  | lapse record found unverified =>
    obtain ⟨member, -, of_app⟩ := Database.findOtpRequest_eq_some found
    refine ⟨fun record h => (by cases h), fun id expiring => ?_⟩
    cases expiring
    exact ⟨record, member, rfl, of_app⟩
  | found record found unverified =>
    obtain ⟨member, -, of_app⟩ := Database.findOtpRequest_eq_some found
    refine ⟨fun other holds => ?_, fun id h => (by cases h)⟩
    cases holds
    exact ⟨of_app, record, member, .refl record⟩
  | deliver d after =>
    rw [after]
    split
    · exact ⟨kept, fun id h => (by cases h)⟩
    · exact ⟨kept, fun id h => (by cases h)⟩
  | prepare | debit | update | store | setCooldown | enqueue | offline | markSent =>
    exact ⟨kept, fun id h => (by cases h)⟩
  | reject | expire | crash => exact ⟨fun record h => (by cases h), fun id h => (by cases h)⟩

section Verify

variable {c c' : VerifyCall} {f : Fetched}

/-- A call that goes on with the entry it held; a row it finds has the request id of the entry. -/
theorem VerifyCall.Linked.follow (linked : c.Linked env w) (same : c.SameCall c')
    (before : c.pc.held = some f) {g : Fetched} (held : c'.pc.held = some g)
    (names : g.data.requestId = f.data.requestId) (object : g.object = f.object)
    (record : ∀ id ∈ c'.pc.record, id ∈ c.pc.record ∨ ∃ r ∈ w.db.otpRequests, r.id = id ∧
      r.requestId = f.data.requestId ∧ r.applicationId = c.applicationId) : c'.Linked env w := by
  -- the call holds `g` and nothing else
  have only {h : Fetched} (holds : h ∈ c'.pc.held) : h = g := by
    rw [held] at holds
    exact (Option.mem_some.mp holds).symm
  refine ⟨fun h holds => ?_, fun result at_result => ?_, fun h holds other refers => ?_,
    fun h holds id of_record => ?_⟩
  · rw [only holds, same.key, names]
    exact linked.requested f before
  · rw [at_result] at held
    cases held
  · rw [only holds] at refers ⊢
    rw [same.key, same.process, names]
    exact linked.object f before _ (object ▸ refers)
  · rw [only holds, same.applicationId, names]
    rcases record id of_record with old | new
    · exact linked.record f before id old
    · exact new

/-- A call that goes on with the entry it held, and with the same row or none. -/
theorem VerifyCall.Linked.keep (linked : c.Linked env w) {pc : VerifyPc}
    (before : c.pc.held = some f) (held : pc.held = some f)
    (record : ∀ id ∈ pc.record, id ∈ c.pc.record) : (c.goto pc).Linked env w :=
  linked.follow (same_goto pc) before held rfl rfl fun id of_record => Or.inl (record id of_record)

/-- A call that answers with the request id of the entry it held. -/
theorem VerifyCall.Linked.answer (linked : c.Linked env w) {result : VerifyResult}
    (before : c.pc.held = some f) (names : result.requestId = f.data.requestId) :
    (c.goto (.verified result)).Linked env w := by
  refine ⟨fun g holds => ?_, fun other at_result => ?_, fun g holds => ?_, fun g holds => ?_⟩
  · cases holds
  · cases at_result
    rw [names]
    exact linked.requested f before
  · cases holds
  · cases holds

/-- A call that holds nothing. -/
theorem VerifyCall.Linked.of_released (held : c.pc.held = none)
    (answered : ∀ result, c.pc ≠ .verified result) : c.Linked env w := by
  refine ⟨fun f holds => ?_, fun result at_result => absurd at_result (answered result),
    fun f holds => ?_, fun f holds => ?_⟩ <;>
  · rw [held] at holds
    cases holds

@[simp] theorem VerifyCall.afterIncorrect_held (f : Fetched) (record : Option Id) :
    (afterIncorrect env f record).held = some f := by
  unfold afterIncorrect
  split
  · cases record <;> rfl
  · rfl

theorem VerifyCall.afterIncorrect_record {record : Option Id} {id : Id}
    (of_record : id ∈ (afterIncorrect env f record).record) : record = some id := by
  unfold afterIncorrect at of_record
  split at of_record
  · cases record with
    | none => cases of_record
    | some known => exact of_record
  · cases of_record

/-- The entry that is read belongs to a request filed under its key. -/
theorem VerifyCall.Linked.of_lookup {ok : Bool} (found : c.lookup env w ok = some f)
    (objects : Objects w)
    (filed : ∀ key requestId, Holds w key requestId → Requested env w.db key requestId) :
    (c.goto (.findRecord f)).Linked env w := by
  obtain ⟨-, ⟨copy, -, stored⟩ | ⟨object, refers, -, stored, live, data⟩⟩ := lookup_cases f found
  · have held : Holds w (c.key env) f.data.requestId := Or.inl ⟨f.data, stored, rfl⟩
    refine ⟨fun g holds => ?_, fun result h => ?_, fun g holds object refers => ?_,
      fun g holds id of_record => ?_⟩
    · cases holds
      exact filed _ _ held
    · cases h
    · cases holds
      rw [copy] at refers
      cases refers
    · cases of_record
  · have names : ((w.memory c.process).heap object).otp.requestId = f.data.requestId := by
      rw [data]
    have held : Holds w (c.key env) f.data.requestId :=
      Or.inr ⟨c.process, object, stored, live, names⟩
    refine ⟨fun g holds => ?_, fun result h => ?_, fun g holds other refers' => ?_,
      fun g holds id of_record => ?_⟩
    · cases holds
      exact filed _ _ held
    · cases h
    · cases holds
      rw [refers] at refers'
      cases refers'
      exact ⟨objects.bounded _ _ _ stored, names,
        fun key stored' => objects.separate _ _ _ _ stored' stored⟩
    · cases of_record

theorem VerifyCall.step_linked (linked : c.Linked env w) (objects : Objects w)
    (filed : ∀ key requestId, Holds w key requestId → Requested env w.db key requestId)
    (entries : EntriesStep w w' put caller) (h : c.step env w ok = some (w', c')) :
    c'.Linked env w' := by
  have rows := step_rows h
  have kept := linked.mono rows entries
  cases pc : c.pc with
  | lookup =>
    simp only [step, pc] at h
    split at h
    next f found =>
      cases h
      exact .of_lookup found objects filed
    · cases h
      exact .of_released rfl (by simp [goto])
  | findRecord f =>
    have before : c.pc.held = some f := by rw [pc]; rfl
    -- the row that is found has the request id of the entry
    have row {id : Id} (of_record :
        (w.db.findOtpRequest f.data.requestId c.applicationId).map (·.id) = some id) :
        ∃ r ∈ w'.db.otpRequests, r.id = id ∧ r.requestId = f.data.requestId ∧
          r.applicationId = c.applicationId := by
      obtain ⟨r, found, rfl⟩ := Option.map_eq_some_iff.mp of_record
      obtain ⟨member, names, of_app⟩ := Database.findOtpRequest_eq_some found
      obtain ⟨s, there, still⟩ := rows.persists member
      exact ⟨s, there, still.id, still.requestId.trans names, still.applicationId.trans of_app⟩
    simp only [step, pc] at h
    split at h
    · split at h
      · cases h
        exact kept.follow ⟨rfl, rfl, rfl, rfl⟩ before rfl rfl rfl
          fun id of_record => Or.inr (row of_record)
      · cases h
        cases found : (w.db.findOtpRequest f.data.requestId c.applicationId).map (·.id) with
        | some known =>
          refine kept.follow ⟨rfl, rfl, rfl, rfl⟩ before rfl rfl rfl fun id of_record => Or.inr ?_
          cases of_record
          exact row found
        | none =>
          refine kept.follow ⟨rfl, rfl, rfl, rfl⟩ before (afterIncorrect_held _ none) rfl rfl
            fun id of_record => ?_
          have nothing : id ∈ (afterIncorrect env _ none).record := of_record
          cases afterIncorrect_record nothing
    · cases h
      exact .of_released rfl (by simp [goto])
  | incorrectAttempts f record =>
    simp only [step, pc] at h
    split at h <;> cases h
    · exact kept.keep (f := f) (by rw [pc]; rfl) rfl (by rw [pc]; exact fun id same => same)
    · exact .of_released rfl (by simp [goto])
  | incorrectVerification f record =>
    simp only [step, pc] at h
    split at h <;> cases h
    · refine kept.keep (f := f) (by rw [pc]; rfl) (afterIncorrect_held f _) fun id of_record => ?_
      rw [pc]
      exact afterIncorrect_record of_record
    · exact .of_released rfl (by simp [goto])
  | maxStatus f | ttl f =>
    simp only [step, pc] at h
    split at h <;> cases h
    · exact kept.keep (f := f) (by rw [pc]; rfl) rfl (by simp [VerifyPc.record])
    · exact .of_released rfl (by simp [goto])
  | maxBlock f =>
    simp only [step, pc] at h
    cases h
    exact kept.keep (f := f) (by rw [pc]; rfl) rfl (by simp [VerifyPc.record])
  | writeBack f seconds =>
    simp only [step, pc] at h
    split at h <;> cases h <;> exact .of_released rfl (by simp [goto])
  | maxDelete f =>
    simp only [step, pc] at h
    cases h
    exact .of_released rfl (by simp [goto])
  | delete f record =>
    have before : c.pc.held = some f := by rw [pc]; rfl
    simp only [step, pc] at h
    cases record with
    | none =>
      cases h
      exact kept.answer before rfl
    | some id =>
      cases h
      exact kept.keep before rfl (by rw [pc]; exact fun id same => same)
  | verifiedStatus f record verifiedTime =>
    simp only [step, pc] at h
    split at h <;> cases h
    · exact kept.keep (f := f) (by rw [pc]; rfl) rfl (by rw [pc]; exact fun id same => same)
    · exact .of_released rfl (by simp [goto])
  | correctVerification f record verifiedTime =>
    simp only [step, pc] at h
    split at h <;> cases h
    · exact kept.answer (f := f) (by rw [pc]; rfl) rfl
    · exact .of_released rfl (by simp [goto])
  | verified | rejected | internalError => simp [step, pc] at h

end Verify

theorem StatusCall.step_linked {customer : Customer} {c c' : StatusCall}
    (h : c.step w ok = some (w', c')) : (Thread.status customer c').Linked env w' := by
  intro record expiring
  cases pc : c.pc with
  | findRecord =>
    simp only [step, pc] at h
    split at h
    · split at h
      · cases h
        cases expiring
      next r found =>
        obtain ⟨member, -, of_app⟩ := Database.findOtpRequest_eq_some found
        split at h <;> cases h <;> cases expiring
        exact ⟨of_app, record, member, .refl record⟩
    · cases h
      cases expiring
  | expire r =>
    simp only [step, pc] at h
    split at h <;> cases h <;> cases expiring
  | answered | rejected | internalError => simp [step, pc] at h

theorem JobCall.step_job {c c' : JobCall} (h : c.step w a = some (w', c')) : c'.job = c.job := by
  have threw (error : String) : (c.threw error).job = c.job := by
    unfold JobCall.threw
    split <;> rfl
  cases pc : c.pc with
  | createEvent res message =>
    simp only [step, pc] at h
    split at h
    · split at h
      · cases h
        rfl
      · split at h <;> cases h
        · exact threw _
        · rfl
    · cases h
      exact threw _
  | refund res =>
    simp only [step, pc] at h
    split at h
    · split at h <;> cases h
      · rfl
      · exact threw _
    · cases h
      exact threw _
  | send | createMessage | markSent | markFailed | deadLetter =>
    simp only [step, pc] at h
    split at h <;> cases h
    · rfl
    · exact threw _
  | exhaustedMark | exhaustedRefund | exhaustedDeadLetter =>
    simp only [step, pc] at h
    cases h
    rfl
  | completed | failed => simp [step, pc] at h

theorem JobCall.threw_linked {c : JobCall} (error : String) :
    (Thread.sendOtpJob (c.threw error)).Linked env w := by
  intro exhausted
  unfold threw rethrow at exhausted ⊢
  split
  next last => exact last
  next left =>
    rw [if_neg left] at exhausted
    dsimp only at exhausted
    split at exhausted <;> cases exhausted

theorem JobCall.step_linked {c c' : JobCall} (linked : (Thread.sendOtpJob c).Linked env w)
    (h : c.step w a = some (w', c')) : (Thread.sendOtpJob c').Linked env w' := by
  cases pc : c.pc with
  | createEvent res message =>
    simp only [step, pc] at h
    split at h
    · split at h
      · cases h
        exact fun h => (by cases h)
      · split at h <;> cases h
        · exact threw_linked _
        · exact fun h => (by cases h)
    · cases h
      exact threw_linked _
  | refund res =>
    simp only [step, pc] at h
    split at h
    · split at h <;> cases h
      · exact fun h => (by cases h)
      · exact threw_linked _
    · cases h
      exact threw_linked _
  | exhaustedMark error | exhaustedRefund error =>
    have last := linked (by rw [pc]; rfl)
    simp only [step, pc] at h
    cases h
    exact fun _ => last
  | exhaustedDeadLetter error =>
    simp only [step, pc] at h
    cases h
    intro exhausted
    simp only [rethrow] at exhausted
    split at exhausted <;> cases exhausted
  | send | createMessage | markSent | markFailed | deadLetter =>
    simp only [step, pc] at h
    split at h <;> cases h
    · exact fun h => (by cases h)
    · exact threw_linked _
  | completed | failed => simp [step, pc] at h

theorem otpStatusMap_ne_verified {name : String} {s : OtpStatus} (mapped : otpStatusMap name = some s) :
    s ≠ .verified := by
  unfold otpStatusMap at mapped
  split at mapped <;> cases mapped <;> exact fun h => (by cases h)

theorem WebhookCall.step_linked {c c' : WebhookCall} (h : c.step w ok = some (w', c')) :
    (Thread.webhook c').Linked env w' := by
  intro record s updating
  have unlinked (m : Message) : linked m ≠ .updateOtpRequest record s := by
    unfold linked
    split <;> exact fun h => (by cases h)
  cases pc : c.pc with
  -- the only step before an update of a request: the status comes from the table of names
  | findOtpRequest id =>
    simp only [step, pc] at h
    split at h
    · split at h
      · split at h
        · cases h
          cases updating
        · split at h <;> cases h
          next mapped =>
            cases updating
            exact otpStatusMap_ne_verified mapped
          · cases updating
      · cases h
        cases updating
    · cases h
      cases updating
  | findEvent m =>
    simp only [step, pc] at h
    split at h
    · split at h <;> cases h
      · exact absurd updating (unlinked m)
      · cases updating
    · cases h
      cases updating
  | createEvent m =>
    simp only [step, pc] at h
    split at h <;> cases h
    · exact absurd updating (unlinked m)
    · cases updating
  | findMessage =>
    simp only [step, pc] at h
    split at h
    · split at h <;> cases h <;> cases updating
    · cases h
      cases updating
  | updateMessage | updateOtpRequest =>
    simp only [step, pc] at h
    split at h <;> cases h <;> cases updating
  | markProcessed =>
    simp only [step, pc] at h
    cases h
    cases updating
  | finished | threw => simp [step, pc] at h

/-! ### The system -/

theorem Thread.handler_linked (s : Session) (request : ApiRequest) :
    (handler s request).Linked env w := by
  unfold handler
  split
  · exact fun d h => (by cases h)
  · exact .of_released rfl (by simp)
  · exact ⟨fun record h => (by cases h), fun id h => (by cases h)⟩
  · exact fun record h => (by cases h)
  · trivial

/-- What a call writes back is of the request it has looked up. -/
theorem VerifyCall.Linked.storedData {c : VerifyCall} (linked : c.Linked env w) {f : Fetched}
    (held : f ∈ c.pc.held) : (c.storedData w f).requestId = f.data.requestId := by
  unfold VerifyCall.storedData
  split
  · rfl
  next object refers => exact (linked.object f held object refers).2.1

/-- An entry that a step stores is one of its request. -/
theorem Thread.Linked.puts {t : Thread} {key : OtpKey} {requestId : String} (linked : t.Linked env w)
    (puts : t.puts env w = some (key, requestId)) : Requested env w.db key requestId := by
  cases t with
  | send c =>
    simp only [Thread.puts, SendCall.puts] at puts
    split at puts <;> cases puts
    next d at_store =>
      obtain ⟨r, member, -, names, -, of_app, of_phone⟩ := linked d (by rw [at_store]; rfl)
      exact ⟨r, member, names, of_app, congrArg (hashPhoneNumber env) of_phone⟩
  -- the write-back of a wrong attempt keeps the request of the entry
  | verify customer c =>
    simp only [Thread.puts, VerifyCall.puts] at puts
    split at puts <;> cases puts
    next f seconds at_write =>
      have held : f ∈ c.pc.held := by rw [at_write]; rfl
      rw [VerifyCall.Linked.storedData linked held]
      exact VerifyCall.Linked.requested linked f held
  | resend c =>
    simp only [Thread.puts, ResendCall.puts] at puts
    split at puts <;> cases puts
    next d at_store =>
      obtain ⟨of_app, r, member, same⟩ := linked.1 d.record (by rw [at_store]; rfl)
      exact ⟨r, member, same.requestId, same.applicationId.trans of_app,
        congrArg (hashPhoneNumber env) same.phoneNumber⟩
  | authenticating | status | dashboard | register | sendOtpJob | webhook => cases puts

/-- A request that uses the memory of a process goes on doing so. -/
theorem Thread.resume_process {t t' : Thread} {process : ℕ}
    (h : Thread.resume env w t a = some (w', t')) (runs : t.process = some process) :
    t'.process = some process := by
  cases t with
  | send c =>
    obtain ⟨c', stepped, rfl⟩ := stepped_eq_some h
    rw [(SendCall.step_move stepped).2]
    exact runs
  | verify customer c =>
    obtain ⟨c', stepped, rfl⟩ := stepped_eq_some h
    simp only [Thread.process, (VerifyCall.step_move stepped).2.1.process]
    exact runs
  | resend c =>
    obtain ⟨c', stepped, rfl⟩ := stepped_eq_some h
    rw [(ResendCall.step_move stepped).2]
    exact runs
  | authenticating | status | dashboard | register | sendOtpJob | webhook => cases runs

end Linked

section Filed

variable {env : Env} {p q : System} {a : Answer}

theorem Filed.resume_linked (filed : Filed env p) {t t' : Thread} {w' : World}
    (member : t ∈ p.threads) (h : Thread.resume env p.shared t a = some (w', t')) :
    t'.Linked env w' := by
  have linked := filed.threads t member
  have rows := Thread.resume_rows h
  have entries := Thread.resume_entries filed.objects h
  cases t with
  | authenticating request c =>
    simp only [Thread.resume] at h
    obtain ⟨c', stepped, rfl⟩ := Thread.stepped_eq_some h
    split
    · exact Thread.handler_linked _ request
    · trivial
  | send c =>
    obtain ⟨c', stepped, rfl⟩ := Thread.stepped_eq_some h
    exact SendCall.step_linked linked entries stepped
  | verify customer c =>
    obtain ⟨c', stepped, rfl⟩ := Thread.stepped_eq_some h
    exact VerifyCall.step_linked linked filed.objects filed.entries entries stepped
  | resend c =>
    obtain ⟨c', stepped, rfl⟩ := Thread.stepped_eq_some h
    exact ResendCall.step_linked linked entries stepped
  | status customer c =>
    obtain ⟨c', stepped, rfl⟩ := Thread.stepped_eq_some h
    exact StatusCall.step_linked stepped
  | sendOtpJob c =>
    obtain ⟨c', stepped, rfl⟩ := Thread.stepped_eq_some h
    exact JobCall.step_linked linked stepped
  | webhook c =>
    obtain ⟨c', stepped, rfl⟩ := Thread.stepped_eq_some h
    exact WebhookCall.step_linked stepped
  | dashboard c =>
    obtain ⟨c', stepped, rfl⟩ := Thread.stepped_eq_some h
    trivial
  | register c =>
    obtain ⟨c', stepped, rfl⟩ := Thread.stepped_eq_some h
    trivial

/-- What the environment does: time passes, a job is taken off the queue, a thread starts. -/
structure External (env : Env) (w w' : World) (born : List Thread) : Prop where
  now : w.now ≤ w'.now
  db : w'.db = w.db
  nextId : w'.nextId = w.nextId
  redis : w'.redis = w.redis
  memory : w'.memory = w.memory
  queue : ∀ job ∈ w'.otpQueue, job ∈ w.otpQueue
  linked : ∀ t ∈ born, t.Linked env w'

theorem Thread.external_cases {w w' : World} {event : SystemEvent} {born : List Thread}
    (h : Thread.external w event = some (w', born)) : External env w w' born := by
  have one (t : Thread) (linked : t.Linked env w) : ∀ u ∈ [t], u.Linked env w :=
    fun u member => List.mem_singleton.mp member ▸ linked
  cases event with
  | tick d =>
    cases h
    exact ⟨Nat.le_add_right .., rfl, rfl, rfl, rfl, fun _ => id, fun t h => (by cases h)⟩
  -- a job that is taken has not been tried, so it is not exhausted
  | takeSendOtpJob i =>
    simp only [external] at h
    split at h <;> cases h
    refine ⟨le_refl _, rfl, rfl, rfl, rfl, fun job => List.mem_of_mem_eraseIdx, fun t member => ?_⟩
    cases List.mem_singleton.mp member
    exact fun h => (by cases h)
  | api | dashboard | register =>
    cases h
    exact ⟨le_refl _, rfl, rfl, rfl, rfl, fun _ => id, one _ trivial⟩
  | processWebhook =>
    cases h
    exact ⟨le_refl _, rfl, rfl, rfl, rfl, fun _ => id, one _ fun _ _ h => (by cases h)⟩

theorem External.rows {w w' : World} {born : List Thread} (same : External env w w' born) :
    RowsTo w w' none :=
  .same (by rw [same.db]) same.nextId.ge

theorem External.entries {w w' : World} {born : List Thread} (same : External env w w' born)
    (objects : Objects w) : EntriesStep w w' none none := by
  refine ⟨⟨?_, ?_⟩, fun key requestId held => Or.inl ?_, fun process => ?_, fun process object _ => ?_,
    fun process key object stored => Or.inl ?_⟩
  · rw [same.memory]
    exact objects.bounded
  · rw [same.memory]
    exact objects.separate
  · rw [Holds, same.redis, same.memory] at held
    rcases held with ⟨data, got, names⟩ | ⟨process, object, stored, live, names⟩
    · exact Or.inl ⟨data, ExpiringMap.get_later got same.now, names⟩
    · exact Or.inr ⟨process, object, stored, (seconds_mono same.now).trans live, names⟩
  · rw [same.memory]
  · rw [same.memory]
  · rwa [same.memory] at stored

/-- Every step of the system keeps the filing. -/
theorem Filed.step (filed : Filed env p) {l : SystemLabel}
    (taken : Pool.step (systemProgram env) p l = some q) : Filed env q := by
  cases l with
  | resume i a =>
    obtain ⟨t, w', u, found, resumed, rfl⟩ := step_resume taken
    simp only [systemProgram] at resumed
    have member := List.mem_of_getElem? found
    have rows := Thread.resume_rows resumed
    have entries := Thread.resume_entries filed.objects resumed
    have inside := (List.getElem?_eq_some_iff.mp found).1
    refine ⟨?_, entries.objects, fun key requestId held => ?_, fun process key object stored => ?_,
      fun v there => ?_⟩
    · obtain ⟨change, step, -⟩ := rows
      exact filed.rows.step step
    · rcases entries.holds key requestId held with old | put
      · exact (filed.entries key requestId old).mono rows
      · exact ((filed.threads t member).puts put).mono rows
    · rcases entries.fresh process key object stored with old | ⟨-, caller⟩
      · obtain ⟨v, there, runs⟩ := filed.housed process key object old
        rcases mem_set_or_eq (u := u) found there with still | rfl
        · exact ⟨v, still, runs⟩
        · exact ⟨u, List.mem_set inside u, Thread.resume_process resumed runs⟩
      · exact ⟨u, List.mem_set inside u, Thread.resume_process resumed caller⟩
    · rcases List.mem_or_eq_of_mem_set there with old | rfl
      · exact (filed.threads v old).mono rows entries
      · exact filed.resume_linked member resumed
  -- nothing is written from outside, and what is born refers to nothing yet
  | external d =>
    obtain ⟨w', born, acted, rfl⟩ := step_external taken
    have same : External env p.shared w' born := Thread.external_cases acted
    have rows := same.rows
    have entries := same.entries filed.objects
    refine ⟨?_, entries.objects, fun key requestId held => ?_, fun process key object stored => ?_,
      fun v there => ?_⟩
    · obtain ⟨change, step, -⟩ := rows
      exact filed.rows.step step
    · rcases entries.holds key requestId held with old | put
      · exact (filed.entries key requestId old).mono rows
      · cases put
    · rcases entries.fresh process key object stored with old | ⟨-, caller⟩
      · obtain ⟨v, there, runs⟩ := filed.housed process key object old
        exact ⟨v, List.mem_append_left _ there, runs⟩
      · cases caller
    · rcases List.mem_append.mp there with old | new
      · exact (filed.threads v old).mono rows entries
      · exact same.linked v new

/-- No request has been made: no rows, no OTP entries, nothing runs and no job waits. -/
structure Unused (p : System) : Prop where
  threads : p.threads = []
  otpQueue : p.shared.otpQueue = []
  rows : p.shared.db.otpRequests = []
  redis : ∀ key, p.shared.redis.otp key = none
  memory : ∀ process key, (p.shared.memory process).otp key = none

theorem Unused.filed (unused : Unused p) : Filed env p := by
  have nowhere (process : ℕ) (key : OtpKey) (object : ℕ) :
      (p.shared.memory process).otp key ≠ some object := by
    rw [unused.memory]
    exact fun h => (by cases h)
  constructor
  case rows =>
    rw [unused.rows]
    exact ⟨fun r h => (by cases h), fun r h => (by cases h)⟩
  case objects =>
    exact ⟨fun process key object stored => absurd stored (nowhere process key object),
      fun process key other object stored => absurd stored (nowhere process key object)⟩
  case entries =>
    rintro key requestId (⟨data, got, -⟩ | ⟨process, object, stored, -⟩)
    · obtain ⟨c, stored, -⟩ := ExpiringMap.get_eq_some.mp got
      rw [unused.redis] at stored
      cases stored
    · exact absurd stored (nowhere process key object)
  case housed =>
    exact fun process key object stored => absurd stored (nowhere process key object)
  case threads =>
    rw [unused.threads]
    exact fun t h => (by cases h)

/-- Every run keeps the filing. -/
theorem Filed.run (filed : Filed env p) {es : List SystemLabel}
    (ran : Transition.run (Pool.step (systemProgram env)) p es = some q) : Filed env q :=
  Transition.run_invariant (Filed env) (fun _ _ _ filed => filed.step) filed ran

end Filed

end SelfOtp
