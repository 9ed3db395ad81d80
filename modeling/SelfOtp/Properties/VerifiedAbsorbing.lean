import SelfOtp.Properties.Filing
import SelfOtp.Properties.OtpPool

/-! Verified requests: what can still write another status. -/
namespace SelfOtp

open Pool Transition

/-- The dispatch of a send that has still to hand out its code or to write a status. -/
def SendPc.unsettled : SendPc → Option Id
  | debit d | store d | setCooldown d | enqueue d | fallback d | fallbackSent d
  | fallbackFailed d _ => some d.record
  | _ => none

def ResendPc.unsettled : ResendPc → Option Id
  | expire record => some record
  | cooldown record _ => some record.id
  | debit d | update d | store d | setCooldown d | enqueue d | fallback d
  | fallbackSent d => some d.record.id
  | _ => none

/-- The request whose entry a call with a wrong code may count, put back or expire. -/
def VerifyCall.unsettled (env : Env) (c : VerifyCall) : Option String :=
  match c.pc with
  | .findRecord f =>
    if verifyOtpCode env c.submittedCode f.data.otpHash then none else some f.data.requestId
  | .incorrectAttempts f _ | .incorrectVerification f _ | .maxStatus f _ | .ttl f
  | .writeBack f _ => some f.data.requestId
  | _ => none

def StatusPc.unsettled : StatusPc → Option Id
  | expire record => some record.id
  | _ => none

/-- An attempt is being made, or the failure of the last one has not been written. -/
def JobPc.unsettled : JobPc → Bool
  | exhaustedRefund _ | exhaustedDeadLetter _ | completed _ | failed => false
  | _ => true

def WebhookPc.unsettled : WebhookPc → Option Id
  | updateOtpRequest record _ => some record
  | _ => none

/-- The thread may go on to write a status other than `verified` to the row. -/
def Thread.threatens (env : Env) (r : OtpRequest) : Thread → Bool
  | send c => c.pc.unsettled == some r.id
  | verify _ c => c.unsettled env == some r.requestId
  | resend c => c.pc.unsettled == some r.id
  | status _ c => c.pc.unsettled == some r.id
  | sendOtpJob c => c.pc.unsettled && c.job.data.otpRequestDbId == r.id
  | webhook c => c.pc.unsettled == some r.id
  | authenticating .. | dashboard _ | register _ => false

/-- Redis or one of the memories holds a live entry of the key that names the request. -/
def heldAt (w : World) (key : OtpKey) (requestId : String) (processes : List ℕ) : Bool :=
  (w.redis.otp.get w.now key).any (·.requestId == requestId) ||
    processes.any fun process => ((w.memory process).otp key).any fun object =>
      let entry := (w.memory process).heap object
      decide (seconds w.now ≤ entry.expiresAt) && entry.otp.requestId == requestId

/-- Nothing that runs, waits in the queue or is stored can lead to another status of the row. -/
def Quiet (env : Env) (p : System) (r : OtpRequest) : Prop :=
  (∀ t ∈ p.threads, t.threatens env r = false) ∧
    (∀ job ∈ p.shared.otpQueue, job.data.otpRequestDbId ≠ r.id) ∧
    heldAt p.shared (r.applicationId, hashPhoneNumber env r.phoneNumber) r.requestId
      (p.threads.filterMap Thread.process) = false

/-- The row that the thread is about to mark verified. -/
def Thread.verifying : Thread → Option Id
  | verify _ c =>
    match c.pc with
    | .verifiedStatus _ record _ => some record
    | _ => none
  | _ => none

/-- A row is marked verified only while nothing else is under way for it. -/
def VerifiesLast (env : Env) (p : System) : SystemLabel → Prop
  | .resume i a => ∀ t ∈ p.threads[i]?, ∀ record ∈ t.verifying, a.ok = true →
    ∀ r ∈ p.shared.db.otpRequests, r.id = record → Quiet env p r
  | .external _ => True

def statusOf (p : System) (id : Id) : Option OtpStatus :=
  (p.shared.db.otpRequests.find? (·.id == id)).map (·.status)

/-! ### Verified rows -/

section Rows

variable {rows rows' : List OtpRequest} {nextId nextId' : Id} {change : Option RowChange}

/-- A row keeps its status unless the step writes another one to it. -/
theorem RowsStep.status (step : RowsStep rows nextId rows' nextId' change) {r : OtpRequest}
    (member : r ∈ rows) :
    ∃ s ∈ rows', SameRow r s ∧ (s.status = r.status ∨ change = some (.write r.id s.status)) := by
  cases step with
  | same => exact ⟨r, member, .refl r, Or.inl rfl⟩
  | create row => exact ⟨r, List.mem_append_left _ member, .refl r, Or.inl rfl⟩
  | edit id f keeps status =>
    refine ⟨_, List.mem_map_of_mem member, ?_⟩
    split
    · exact ⟨keeps r, Or.inl (status r)⟩
    · exact ⟨.refl r, Or.inl rfl⟩
  | write id s f keeps status =>
    refine ⟨_, List.mem_map_of_mem member, ?_⟩
    split
    next here => exact ⟨keeps r, Or.inr (by rw [status, here])⟩
    · exact ⟨.refl r, Or.inl rfl⟩

/-- A verified row was verified before, or the step has marked it. -/
theorem RowsStep.verified (step : RowsStep rows nextId rows' nextId' change) {s : OtpRequest}
    (member : s ∈ rows') (verified : s.status = .verified) :
    ∃ r ∈ rows, SameRow r s ∧ (r.status = .verified ∨ change = some (.write r.id .verified)) := by
  cases step with
  | same => exact ⟨s, member, .refl s, Or.inl verified⟩
  | create row fresh unused status =>
    rcases List.mem_append.mp member with old | new
    · exact ⟨s, old, .refl s, Or.inl verified⟩
    · cases List.mem_singleton.mp new
      rw [status] at verified
      cases verified
  | edit id f keeps status =>
    obtain ⟨r, old, rfl⟩ := List.mem_map.mp member
    refine ⟨r, old, ?_⟩
    split at verified
    next here =>
      rw [if_pos here]
      exact ⟨keeps r, Or.inl ((status r).symm.trans verified)⟩
    next apart =>
      rw [if_neg apart]
      exact ⟨.refl r, Or.inl verified⟩
  | write id t f keeps status =>
    obtain ⟨r, old, rfl⟩ := List.mem_map.mp member
    refine ⟨r, old, ?_⟩
    split at verified
    next here =>
      rw [if_pos here]
      exact ⟨keeps r, Or.inr (by rw [here, ← verified, status])⟩
    next apart =>
      rw [if_neg apart]
      exact ⟨.refl r, Or.inl verified⟩

end Rows

theorem statusOf_eq_some {p : System} {nextId : Id} (ids : RowIds p.shared.db.otpRequests nextId)
    {id : Id} {s : OtpStatus} :
    statusOf p id = some s ↔ ∃ r ∈ p.shared.db.otpRequests, r.id = id ∧ r.status = s := by
  constructor
  · intro found
    obtain ⟨r, first, status⟩ := Option.map_eq_some_iff.mp found
    exact ⟨r, List.mem_of_find?_eq_some first, by simpa using List.find?_some first, status⟩
  · rintro ⟨r, member, of_id, status⟩
    have first : p.shared.db.otpRequests.find? (·.id == id) = some r := by
      cases search : p.shared.db.otpRequests.find? (·.id == id) with
      | none => simpa [of_id] using List.find?_eq_none.mp search r member
      | some other =>
        have same : other.id = id := by simpa using List.find?_some search
        rw [ids.unique other (List.mem_of_find?_eq_some search) r member
          (Or.inl (same.trans of_id.symm))]
    simp [statusOf, first, status]

/-! ### What threatens a row -/

theorem SendPc.checking_unsettled {pc : SendPc} (h : pc.checking = true) : pc.unsettled = none := by
  cases pc <;> first | rfl | cases h

section Threats

variable {env : Env} {w w' : World} {r : OtpRequest} {t t' : Thread} {a : Answer} {ok : Bool}

theorem Thread.threatens_same {s : OtpRequest} (same : SameRow r s) :
    t.threatens env s = t.threatens env r := by
  cases t <;> simp only [threatens, same.id, same.requestId]

/-- What may be written to the row now is a threat. -/
theorem Thread.threatens_of_target {id : Id} {s : OtpStatus} (ids : RowIds w.db.otpRequests w.nextId)
    (linked : t.Linked env w) (member : r ∈ w.db.otpRequests) (same : r.id = id)
    (writes : t.target env w = some (.write id s)) (other : s ≠ .verified) : t.threatens env r = true := by
  cases t with
  | send c =>
    simp only [target, SendCall.target] at writes
    split at writes <;> cases writes
    all_goals next pc => simp [threatens, pc, SendPc.unsettled, same]
  | verify customer c =>
    simp only [target, VerifyPc.target] at writes
    split at writes <;> cases writes
    next f pc =>
      obtain ⟨q, there, of_id, names, -⟩ :=
        linked.record f (by rw [pc]; rfl) id (by rw [pc]; rfl)
      rw [ids.unique q there r member (Or.inl (of_id.trans same.symm))] at names
      simp [threatens, VerifyCall.unsettled, pc, names]
    · exact absurd rfl other
  | resend c =>
    simp only [target, ResendPc.target] at writes
    split at writes <;> cases writes
    all_goals next pc => simp [threatens, pc, ResendPc.unsettled, same]
  | status customer c =>
    simp only [target, StatusPc.target] at writes
    split at writes <;> cases writes
    next pc => simp [threatens, pc, StatusPc.unsettled, same]
  | sendOtpJob c =>
    simp only [target, JobCall.target] at writes
    split at writes <;> cases writes
    all_goals next pc => simp [threatens, pc, JobPc.unsettled, same]
  | webhook c =>
    simp only [target, WebhookPc.target] at writes
    split at writes <;> cases writes
    next pc => simp [threatens, pc, WebhookPc.unsettled, same]
  | authenticating | dashboard | register => cases writes

/-- A thread that stores an entry for the row threatens it. -/
theorem Thread.threatens_of_puts {key : OtpKey} (ids : RowIds w.db.otpRequests w.nextId)
    (linked : t.Linked env w) (member : r ∈ w.db.otpRequests)
    (puts : t.puts env w = some (key, r.requestId)) : t.threatens env r = true := by
  cases t with
  | send c =>
    simp only [Thread.puts, SendCall.puts] at puts
    split at puts
    next d pc =>
      obtain ⟨q, there, of_id, names, -⟩ := linked d (by rw [pc]; rfl)
      have stored : d.requestId = r.requestId := congrArg Prod.snd (Option.some.inj puts)
      rw [ids.unique q there r member (Or.inr (names.trans stored))] at of_id
      simp [threatens, pc, SendPc.unsettled, of_id]
    · cases puts
  | verify customer c =>
    simp only [Thread.puts, VerifyCall.puts] at puts
    split at puts
    next f seconds pc =>
      have stored : (c.storedData w f).requestId = r.requestId :=
        congrArg Prod.snd (Option.some.inj puts)
      rw [VerifyCall.Linked.storedData linked (by rw [pc]; rfl)] at stored
      simp [threatens, VerifyCall.unsettled, pc, stored]
    · cases puts
  | resend c =>
    simp only [Thread.puts, ResendCall.puts] at puts
    split at puts
    next d pc =>
      obtain ⟨-, q, there, same⟩ := linked.1 d.record (by rw [pc]; rfl)
      have stored : d.record.requestId = r.requestId := congrArg Prod.snd (Option.some.inj puts)
      have found := ids.unique q there r member (Or.inr (same.requestId.trans stored))
      simp [threatens, pc, ResendPc.unsettled, ← same.id, found]
    · cases puts
  | authenticating | status | dashboard | register | sendOtpJob | webhook => cases puts

/-! ### A thread that starts to threaten a verified row -/

theorem SendCall.unsettled_step {c c' : SendCall} (fresh : r.id < w.nextId)
    (h : c.step env w a = some (w', c')) (unsettled : c'.pc.unsettled = some r.id) :
    c.pc.unsettled = some r.id := by
  have move := (step_move h).1
  have settled (d : Dispatch) : (c.finish env d).unsettled = none := by
    unfold finish
    split <;> rfl
  generalize c.pc = pc at move
  generalize c'.pc = pc' at move unsettled
  cases move with
  | create otpCode requestId expiresAt db created =>
    -- the new row is not an old one
    have same : w.nextId = r.id := Option.some.inj unsettled
    exact absurd same fresh.ne'
  | early before after =>
    rcases after with rfl | ⟨k, -, rfl⟩ | ⟨-, rfl⟩ <;> cases unsettled
  | check before same after =>
    rw [SendPc.checking_unsettled after] at unsettled
    cases unsettled
  | enqueue d | markSent d | refund d =>
    rw [settled d] at unsettled
    cases unsettled
  | deliver d after =>
    rw [after] at unsettled
    split at unsettled <;> exact unsettled
  | debit | store | setCooldown | offline => exact unsettled
  | refuse | hit | miss | known | unknown | prepare | unpaid | markFailed | saveCache | saveRecord
  | crash => cases unsettled

theorem ResendCall.unsettled_step {c c' : ResendCall} (ids : RowIds w.db.otpRequests w.nextId)
    (member : r ∈ w.db.otpRequests) (verified : r.status = .verified)
    (h : c.step env w a = some (w', c')) (unsettled : c'.pc.unsettled = some r.id) :
    c.pc.unsettled = some r.id := by
  have move := (step_move h).1
  generalize c.pc = pc at move
  generalize c'.pc = pc' at move unsettled
  cases move with
  | lapse record found unverified | found record found unverified =>
    -- a resend goes on only with a row it has read as not verified
    have there := (Database.findOtpRequest_eq_some found).1
    have same : record.id = r.id := Option.some.inj unsettled
    rw [ids.unique record there r member (Or.inl same)] at unverified
    exact absurd verified unverified
  | deliver d after =>
    rw [after] at unsettled
    split at unsettled
    · exact unsettled
    · cases unsettled
  | prepare | debit | update | store | setCooldown | offline => exact unsettled
  | reject | expire | enqueue | markSent | crash => cases unsettled

theorem VerifyCall.afterIncorrect_unsettled {c : VerifyCall} (f : Fetched) (record : Option Id)
    {requestId : String} (pc : c.pc = afterIncorrect env f record)
    (unsettled : c.unsettled env = some requestId) : f.data.requestId = requestId := by
  unfold afterIncorrect at pc
  split at pc
  · cases record with
    | none => simp [VerifyCall.unsettled, pc] at unsettled
    | some id => simpa [VerifyCall.unsettled, pc] using unsettled
  · simpa [VerifyCall.unsettled, pc] using unsettled

theorem VerifyCall.unsettled_step {c c' : VerifyCall} {requestId : String}
    (unheld : ¬Holds w (c.key env) requestId) (h : c.step env w ok = some (w', c'))
    (unsettled : c'.unsettled env = some requestId) : c.unsettled env = some requestId := by
  have before (f : Fetched) (names : f.data.requestId = requestId)
      (holds : c.unsettled env = some f.data.requestId) : c.unsettled env = some requestId :=
    names ▸ holds
  cases pc : c.pc with
  | lookup =>
    simp only [step, pc] at h
    split at h <;> cases h
    next f found =>
      have names : f.data.requestId = requestId := by
        by_cases right : verifyOtpCode env c.submittedCode f.data.otpHash = true
        · simp [VerifyCall.unsettled, goto, right] at unsettled
        · simpa [VerifyCall.unsettled, goto, right] using unsettled
      -- the entry it was looked up from is still there
      obtain ⟨-, ⟨-, -, stored⟩ | ⟨object, -, -, stored, live, data⟩⟩ := lookup_cases f found
      · exact absurd (Or.inl ⟨f.data, stored, names⟩) unheld
      · exact absurd (Or.inr ⟨c.process, object, stored, live, by rw [← data, names]⟩) unheld
    · cases unsettled
  | findRecord f =>
    simp only [step, pc] at h
    split at h
    · split at h
      · cases h
        cases unsettled
      next wrong =>
        cases h
        have holds : c.unsettled env = some f.data.requestId := by
          simp only [VerifyCall.unsettled, pc, if_neg wrong]
        refine before f ?_ holds
        cases record : (w.db.findOtpRequest f.data.requestId c.applicationId).map (·.id) with
        | some id =>
          rw [record] at unsettled
          exact Option.some.inj unsettled
        | none =>
          rw [record] at unsettled
          exact afterIncorrect_unsettled { f with data := { f.data with attempts := f.attempts } } none
            rfl unsettled
    · cases h
      cases unsettled
  | incorrectAttempts f record =>
    simp only [step, pc] at h
    split at h <;> cases h
    · exact before f (Option.some.inj unsettled) (by simp only [VerifyCall.unsettled, pc])
    · cases unsettled
  | incorrectVerification f record =>
    simp only [step, pc] at h
    split at h <;> cases h
    · have names := afterIncorrect_unsettled f (some record) rfl unsettled
      exact before f names (by simp only [VerifyCall.unsettled, pc])
    · cases unsettled
  | ttl f =>
    simp only [step, pc] at h
    split at h <;> cases h
    · exact before f (Option.some.inj unsettled) (by simp only [VerifyCall.unsettled, pc])
    · cases unsettled
  | delete f record =>
    simp only [step, pc] at h
    cases record <;> cases h <;> cases unsettled
  | maxStatus | writeBack | verifiedStatus | correctVerification =>
    simp only [step, pc] at h
    split at h <;> cases h <;> cases unsettled
  | maxBlock | maxDelete =>
    simp only [step, pc] at h
    cases h
    cases unsettled
  | verified | rejected | internalError => simp [step, pc] at h

theorem StatusCall.unsettled_step {c c' : StatusCall} (ids : RowIds w.db.otpRequests w.nextId)
    (member : r ∈ w.db.otpRequests) (verified : r.status = .verified)
    (h : c.step w ok = some (w', c')) : c'.pc.unsettled ≠ some r.id := by
  intro unsettled
  cases pc : c.pc with
  | findRecord =>
    simp only [step, pc] at h
    split at h
    · split at h
      · cases h
        cases unsettled
      next record found =>
        split at h <;> cases h
        next ended =>
          have there := (Database.findOtpRequest_eq_some found).1
          have same : record.id = r.id := Option.some.inj unsettled
          rw [ids.unique record there r member (Or.inl same)] at ended
          simp [lapsed, verified] at ended
        · cases unsettled
    · cases h
      cases unsettled
  | expire record =>
    simp only [step, pc] at h
    split at h <;> cases h <;> cases unsettled
  | answered | rejected | internalError => simp [step, pc] at h

/-- After its last failure a job is not run again. -/
theorem JobCall.unsettled_step {c c' : JobCall} (linked : (Thread.sendOtpJob c).Linked env w)
    (h : c.step w a = some (w', c')) (unsettled : c'.pc.unsettled = true) :
    c.pc.unsettled = true := by
  cases pc : c.pc with
  | exhaustedRefund error =>
    simp only [step, pc] at h
    cases h
    cases unsettled
  | exhaustedDeadLetter error =>
    have last := linked (by rw [pc]; rfl)
    simp only [step, pc] at h
    cases h
    have ended : ¬c.attemptsMade + 1 < c.job.attempts := by
      unfold maxRetries at last
      split at last <;> omega
    simp only [rethrow, if_neg ended] at unsettled
    cases unsettled
  | completed | failed => simp [step, pc] at h
  | send | createMessage | createEvent | markSent | markFailed | refund | deadLetter
  | exhaustedMark => rfl

theorem WebhookCall.unsettled_step {c c' : WebhookCall} (ids : RowIds w.db.otpRequests w.nextId)
    (member : r ∈ w.db.otpRequests) (verified : r.status = .verified)
    (h : c.step w ok = some (w', c')) : c'.pc.unsettled ≠ some r.id := by
  intro unsettled
  have unlinked (m : Message) : (linked m).unsettled = none := by
    unfold linked
    split <;> rfl
  cases pc : c.pc with
  | findOtpRequest record =>
    simp only [step, pc] at h
    split at h
    · split at h
      next found first =>
        split at h
        · cases h
          cases unsettled
        next unverified =>
          split at h <;> cases h
          · have there := List.mem_of_find?_eq_some first
            have of_record : found.id = record := by simpa using List.find?_some first
            have same : record = r.id := Option.some.inj unsettled
            rw [ids.unique found there r member (Or.inl (of_record.trans same))] at unverified
            exact absurd verified unverified
          · cases unsettled
      · cases h
        cases unsettled
    · cases h
      cases unsettled
  | findEvent m =>
    simp only [step, pc] at h
    split at h
    · split at h <;> cases h
      · simp only [goto, unlinked] at unsettled
        cases unsettled
      · cases unsettled
    · cases h
      cases unsettled
  | createEvent m =>
    simp only [step, pc] at h
    split at h <;> cases h
    · simp only [goto, unlinked] at unsettled
      cases unsettled
    · cases unsettled
  | findMessage =>
    simp only [step, pc] at h
    split at h
    · split at h <;> cases h <;> cases unsettled
    · cases h
      cases unsettled
  | updateMessage | updateOtpRequest =>
    simp only [step, pc] at h
    split at h <;> cases h <;> cases unsettled
  | markProcessed =>
    simp only [step, pc] at h
    cases h
    cases unsettled
  | finished | threw => simp [step, pc] at h

theorem Thread.handler_threatens (s : Session) (request : ApiRequest) :
    (handler s request).threatens env r = false := by
  unfold handler
  split <;> rfl

/-- Nothing starts to threaten a row that no entry names and that is verified or about to be. -/
theorem Thread.threatens_step (ids : RowIds w.db.otpRequests w.nextId) (linked : t.Linked env w)
    (member : r ∈ w.db.otpRequests) (verified : r.status = .verified ∨ t.verifying.isSome = true)
    (unheld : ∀ key, ¬Holds w key r.requestId) (h : Thread.resume env w t a = some (w', t'))
    (threat : t'.threatens env r = true) : t.threatens env r = true := by
  cases t with
  | authenticating request c =>
    simp only [resume] at h
    obtain ⟨c', -, rfl⟩ := stepped_eq_some h
    revert threat
    split
    · rw [handler_threatens]
      intro h
      cases h
    · intro h
      cases h
  | send c =>
    obtain ⟨c', stepped, rfl⟩ := stepped_eq_some h
    simp only [threatens, beq_iff_eq] at threat ⊢
    exact SendCall.unsettled_step (ids.bounded r member) stepped threat
  | verify customer c =>
    obtain ⟨c', stepped, rfl⟩ := stepped_eq_some h
    simp only [threatens, beq_iff_eq] at threat ⊢
    exact VerifyCall.unsettled_step (unheld _) stepped threat
  | resend c =>
    obtain ⟨c', stepped, rfl⟩ := stepped_eq_some h
    simp only [threatens, beq_iff_eq] at threat ⊢
    have stored := verified.resolve_right (by simp [Thread.verifying])
    exact ResendCall.unsettled_step ids member stored stepped threat
  | status customer c =>
    obtain ⟨c', stepped, rfl⟩ := stepped_eq_some h
    simp only [threatens, beq_iff_eq] at threat
    have stored := verified.resolve_right (by simp [Thread.verifying])
    exact absurd threat (StatusCall.unsettled_step ids member stored stepped)
  | sendOtpJob c =>
    obtain ⟨c', stepped, rfl⟩ := stepped_eq_some h
    simp only [threatens, Bool.and_eq_true, beq_iff_eq] at threat ⊢
    exact ⟨JobCall.unsettled_step linked stepped threat.1, JobCall.step_job stepped ▸ threat.2⟩
  | webhook c =>
    obtain ⟨c', stepped, rfl⟩ := stepped_eq_some h
    simp only [threatens, beq_iff_eq] at threat
    have stored := verified.resolve_right (by simp [Thread.verifying])
    exact absurd threat (WebhookCall.unsettled_step ids member stored stepped)
  | dashboard c =>
    obtain ⟨c', -, rfl⟩ := stepped_eq_some h
    cases threat
  | register c =>
    obtain ⟨c', -, rfl⟩ := stepped_eq_some h
    cases threat

/-! ### Jobs -/

theorem SendCall.step_queue {c c' : SendCall} (h : c.step env w a = some (w', c')) :
    w'.otpQueue = w.otpQueue ∨ ∃ job, w'.otpQueue = w.otpQueue ++ [job] ∧
      c.pc.unsettled = some job.data.otpRequestDbId := by
  have move := (step_move h).1
  generalize c.pc = pc at move
  generalize c'.pc = pc' at move
  cases move with
  | enqueue d => exact Or.inr ⟨_, rfl, rfl⟩
  | refuse before same | check before same | setCooldown d same => exact Or.inl same.otpQueue
  | store d =>
    unfold storeOtp
    split <;> exact Or.inl rfl
  | saveCache d key =>
    unfold cacheResponse
    dsimp only
    split <;> exact Or.inl rfl
  | saveRecord d key =>
    unfold recordResponse
    split <;> exact Or.inl rfl
  | _ => exact Or.inl rfl

theorem ResendCall.step_queue {c c' : ResendCall} (h : c.step env w a = some (w', c')) :
    w'.otpQueue = w.otpQueue ∨ ∃ job, w'.otpQueue = w.otpQueue ++ [job] ∧
      c.pc.unsettled = some job.data.otpRequestDbId := by
  have move := (step_move h).1
  generalize c.pc = pc at move
  generalize c'.pc = pc' at move
  cases move with
  | enqueue d => exact Or.inr ⟨_, rfl, rfl⟩
  | setCooldown d same => exact Or.inl same.otpQueue
  | store d =>
    unfold storeOtp
    split <;> exact Or.inl rfl
  | _ => exact Or.inl rfl

theorem VerifyCall.step_queue {c c' : VerifyCall} (h : c.step env w ok = some (w', c')) :
    w'.otpQueue = w.otpQueue := by
  cases pc : c.pc with
  | lookup =>
    simp only [step, pc] at h
    split at h <;> cases h <;> rfl
  | findRecord f =>
    simp only [step, pc] at h
    split at h
    · split at h <;> cases h
      · rfl
      · unfold mutate
        split <;> rfl
    · cases h
      rfl
  | maxBlock f =>
    simp only [step, pc] at h
    cases h
    exact (blockPhoneNumber_sameCore ..).otpQueue
  | maxDelete f =>
    simp only [step, pc] at h
    cases h
    cases ok <;> rfl
  | delete f record =>
    simp only [step, pc] at h
    cases record <;> cases h <;> cases ok <;> rfl
  | incorrectAttempts | incorrectVerification | maxStatus | ttl | writeBack | verifiedStatus
  | correctVerification =>
    simp only [step, pc] at h
    split at h <;> cases h <;> rfl
  | verified | rejected | internalError => simp [step, pc] at h

/-- A thread that queues a job for the row threatens it. -/
theorem Thread.threatens_of_queue (h : Thread.resume env w t a = some (w', t')) {job : SendOtpJob}
    (queued : job ∈ w'.otpQueue) (names : job.data.otpRequestDbId = r.id) :
    job ∈ w.otpQueue ∨ t.threatens env r = true := by
  have appended {unsettled : Option Id}
      (grows : w'.otpQueue = w.otpQueue ∨ ∃ job, w'.otpQueue = w.otpQueue ++ [job] ∧
        unsettled = some job.data.otpRequestDbId) : job ∈ w.otpQueue ∨ unsettled = some r.id := by
    rcases grows with same | ⟨new, grown, of_job⟩
    · exact Or.inl (same ▸ queued)
    · rw [grown] at queued
      rcases List.mem_append.mp queued with old | last
      · exact Or.inl old
      · cases List.mem_singleton.mp last
        exact Or.inr (names ▸ of_job)
  cases t with
  | authenticating request c =>
    simp only [resume] at h
    obtain ⟨c', stepped, -⟩ := stepped_eq_some h
    exact Or.inl ((AuthCall.step_session stepped).1.otpQueue ▸ queued)
  | send c =>
    obtain ⟨c', stepped, -⟩ := stepped_eq_some h
    simp only [threatens, beq_iff_eq]
    exact appended (SendCall.step_queue stepped)
  | verify customer c =>
    obtain ⟨c', stepped, -⟩ := stepped_eq_some h
    exact Or.inl (VerifyCall.step_queue stepped ▸ queued)
  | resend c =>
    obtain ⟨c', stepped, -⟩ := stepped_eq_some h
    simp only [threatens, beq_iff_eq]
    exact appended (ResendCall.step_queue stepped)
  | status customer c =>
    obtain ⟨c', stepped, -⟩ := stepped_eq_some h
    exact Or.inl ((StatusCall.step_sameStores stepped).otpQueue ▸ queued)
  | dashboard c =>
    obtain ⟨c', stepped, -⟩ := stepped_eq_some h
    exact Or.inl ((DashboardCall.step_sameRequests stepped).otpQueue ▸ queued)
  | register c =>
    obtain ⟨c', stepped, -⟩ := stepped_eq_some h
    exact Or.inl ((RegisterCall.step_sameRequests stepped).otpQueue ▸ queued)
  | sendOtpJob c =>
    obtain ⟨c', stepped, -⟩ := stepped_eq_some h
    exact Or.inl ((JobCall.step_sameStores stepped).otpQueue ▸ queued)
  | webhook c =>
    obtain ⟨c', stepped, -⟩ := stepped_eq_some h
    exact Or.inl ((WebhookCall.step_sameStores stepped).otpQueue ▸ queued)

/-- Of the threads that start, only a job threatens a row. -/
theorem Thread.threatens_of_born {event : SystemEvent} {born : List Thread}
    (h : Thread.external w event = some (w', born)) (member : t ∈ born)
    (threat : t.threatens env r = true) : ∃ job ∈ w.otpQueue, job.data.otpRequestDbId = r.id := by
  cases event with
  | tick d =>
    cases h
    cases member
  | takeSendOtpJob i =>
    simp only [external] at h
    split at h <;> cases h
    next job found =>
      cases List.mem_singleton.mp member
      exact ⟨job, List.mem_of_getElem? found, by simpa [threatens, JobCall.start, JobPc.unsettled] using threat⟩
  | api | dashboard | register | processWebhook =>
    cases h
    cases List.mem_singleton.mp member
    cases threat

end Threats

/-! ### Every step -/

/-- Nothing can write another status to the row. -/
structure Settled (env : Env) (p : System) (r : OtpRequest) : Prop where
  threads : ∀ t ∈ p.threads, t.threatens env r = false
  queue : ∀ job ∈ p.shared.otpQueue, job.data.otpRequestDbId ≠ r.id
  entries : ∀ key, ¬Holds p.shared key r.requestId

section Runs

variable {env : Env} {p q : System} {r s : OtpRequest}

theorem heldAt_of_holds {w : World} {key : OtpKey} {requestId : String} {processes : List ℕ}
    (held : Holds w key requestId)
    (housed : ∀ process object, (w.memory process).otp key = some object → process ∈ processes) :
    heldAt w key requestId processes = true := by
  rcases held with ⟨data, got, names⟩ | ⟨process, object, stored, live, names⟩
  · simp [heldAt, got, names]
  · simp only [heldAt, Bool.or_eq_true, List.any_eq_true, Option.any_eq_true_iff_get]
    refine Or.inr ⟨process, housed process object stored, by simp [stored], ?_⟩
    simp [stored, live, names]

/-- For a filed row it is enough that nothing is under its own key. -/
theorem Quiet.settled (quiet : Quiet env p r) (filed : Filed env p)
    (member : r ∈ p.shared.db.otpRequests) : Settled env p r := by
  obtain ⟨threads, queue, unheld⟩ := quiet
  refine ⟨threads, queue, fun key held => ?_⟩
  obtain ⟨other, there, names, of_app, of_phone⟩ := filed.entries key r.requestId held
  obtain rfl := filed.rows.unique other there r member (Or.inr names)
  have same : key = (other.applicationId, hashPhoneNumber env other.phoneNumber) :=
    Prod.ext of_app.symm of_phone.symm
  subst same
  rw [heldAt_of_holds held] at unheld
  · cases unheld
  · intro process object stored
    obtain ⟨t, running, runs⟩ := filed.housed process _ object stored
    exact List.mem_filterMap.mpr ⟨t, running, runs⟩

theorem Settled.same (settled : Settled env p r) (same : SameRow r s) : Settled env p s := by
  refine ⟨fun t member => ?_, fun job member => ?_, fun key => ?_⟩
  · rw [Thread.threatens_same same]
    exact settled.threads t member
  · rw [same.id]
    exact settled.queue job member
  · rw [same.requestId]
    exact settled.entries key

/-- A row that is verified or about to be stays settled. -/
theorem Settled.resume (settled : Settled env p r) (filed : Filed env p)
    (member : r ∈ p.shared.db.otpRequests) {i : ℕ} {t u : Thread} {a : Answer} {w' : World}
    (found : p.threads[i]? = some t) (verified : r.status = .verified ∨ t.verifying.isSome = true)
    (resumed : Thread.resume env p.shared t a = some (w', u)) :
    Settled env ⟨w', p.threads.set i u⟩ r := by
  have running := List.mem_of_getElem? found
  have linked := filed.threads t running
  have calm := settled.threads t running
  refine ⟨fun v there => ?_, fun job queued names => ?_, fun key held => ?_⟩
  · rcases List.mem_or_eq_of_mem_set there with old | rfl
    · exact settled.threads v old
    · by_contra threat
      rw [Thread.threatens_step filed.rows linked member verified settled.entries resumed
        (by simpa using threat)] at calm
      cases calm
  · rcases Thread.threatens_of_queue resumed queued names with old | threat
    · exact settled.queue job old names
    · rw [threat] at calm
      cases calm
  · rcases (Thread.resume_entries filed.objects resumed).holds key _ held with old | put
    · exact settled.entries key old
    · rw [Thread.threatens_of_puts filed.rows linked member put] at calm
      cases calm

theorem Settled.external (settled : Settled env p r) (filed : Filed env p) {event : SystemEvent}
    {w' : World} {born : List Thread}
    (acted : Thread.external p.shared event = some (w', born)) :
    Settled env ⟨w', p.threads ++ born⟩ r := by
  have same : External env p.shared w' born := Thread.external_cases acted
  refine ⟨fun v there => ?_, fun job queued => settled.queue job (same.queue job queued),
    fun key held => ?_⟩
  · rcases List.mem_append.mp there with old | new
    · exact settled.threads v old
    · by_contra threat
      obtain ⟨job, queued, names⟩ := Thread.threatens_of_born acted new (by simpa using threat)
      exact settled.queue job queued names
  · rcases (same.entries filed.objects).holds key _ held with old | put
    · exact settled.entries key old
    · cases put

theorem Thread.verifying_of_target {t : Thread} {w : World} {id : Id} (linked : t.Linked env w)
    (writes : t.target env w = some (.write id .verified)) : t.verifying = some id := by
  cases t with
  | send c =>
    simp only [target, SendCall.target] at writes
    split at writes <;> cases writes
  | verify customer c =>
    simp only [target, VerifyPc.target] at writes
    split at writes <;> cases writes
    next pc => simp only [verifying, pc]
  | resend c =>
    simp only [target, ResendPc.target] at writes
    split at writes <;> cases writes
  | status customer c =>
    simp only [target, StatusPc.target] at writes
    split at writes <;> cases writes
  | sendOtpJob c =>
    simp only [target, JobCall.target] at writes
    split at writes <;> cases writes
  | webhook c =>
    simp only [target, WebhookPc.target] at writes
    split at writes <;> cases writes
    next pc => exact absurd rfl (linked _ _ pc)
  | authenticating | dashboard | register => cases writes

/-- Where the database call fails, nothing is marked. -/
theorem Thread.verifying_failed {t u : Thread} {w w' : World} {id : Id} {a : Answer}
    (verifying : t.verifying = some id) (down : a.ok = false)
    (resumed : Thread.resume env w t a = some (w', u)) : w' = w := by
  cases t with
  | verify customer c =>
    obtain ⟨c', stepped, -⟩ := stepped_eq_some resumed
    simp only [Thread.verifying] at verifying
    split at verifying <;> cases verifying
    next pc =>
      simp only [VerifyCall.step, pc, down] at stepped
      cases stepped
      rfl
  | authenticating | send | resend | status | dashboard | register | sendOtpJob | webhook =>
    cases verifying

/-- All verified rows are settled. -/
def Absorbed (env : Env) (p : System) : Prop :=
  Filed env p ∧ ∀ r ∈ p.shared.db.otpRequests, r.status = .verified → Settled env p r

theorem Absorbed.step (absorbed : Absorbed env p) {l : SystemLabel} (last : VerifiesLast env p l)
    (taken : Pool.step (systemProgram env) p l = some q) : Absorbed env q := by
  obtain ⟨filed, settled⟩ := absorbed
  refine ⟨filed.step taken, fun s there verified => ?_⟩
  cases l with
  | resume i a =>
    obtain ⟨t, w', u, found, resumed, rfl⟩ := step_resume taken
    simp only [systemProgram] at resumed
    obtain ⟨change, step, target⟩ := Thread.resume_rows resumed
    obtain ⟨r, member, same, old | wrote⟩ := step.verified there verified
    · exact ((settled r member old).resume filed member found (Or.inl old) resumed).same same
    · have linked := filed.threads t (List.mem_of_getElem? found)
      have verifying := Thread.verifying_of_target linked (target _ wrote)
      cases answered : a.ok with
      | true =>
        -- the condition on the step that marks the row
        have quiet := last t found r.id verifying answered r member rfl
        exact ((quiet.settled filed member).resume filed member found
          (Or.inr (by rw [verifying]; rfl)) resumed).same same
      | false =>
        obtain rfl := Thread.verifying_failed verifying answered resumed
        exact (settled s there verified).resume filed there found (Or.inl verified) resumed
  | external d =>
    obtain ⟨w', born, acted, rfl⟩ := step_external taken
    have unchanged : External env p.shared w' born := Thread.external_cases acted
    simp only [unchanged.db] at there
    exact (settled s there verified).external filed acted

/-- A settled row keeps its status. -/
theorem Absorbed.keeps (absorbed : Absorbed env p) {l : SystemLabel}
    (taken : Pool.step (systemProgram env) p l = some q) {id : Id}
    (verified : statusOf p id = some .verified) : statusOf q id = some .verified := by
  obtain ⟨filed, settled⟩ := absorbed
  rw [statusOf_eq_some (filed.step taken).rows]
  obtain ⟨r, member, of_id, status⟩ := (statusOf_eq_some filed.rows).mp verified
  cases l with
  | resume i a =>
    obtain ⟨t, w', u, found, resumed, rfl⟩ := step_resume taken
    simp only [systemProgram] at resumed
    obtain ⟨change, step, target⟩ := Thread.resume_rows resumed
    obtain ⟨s, there, same, kept | wrote⟩ := step.status member
    · exact ⟨s, there, same.id.trans of_id, kept.trans status⟩
    · refine ⟨s, there, same.id.trans of_id, ?_⟩
      by_contra other
      have running := List.mem_of_getElem? found
      have calm := (settled r member status).threads t running
      rw [Thread.threatens_of_target filed.rows (filed.threads t running) member rfl
        (target _ wrote) other] at calm
      cases calm
  | external d =>
    obtain ⟨w', born, acted, rfl⟩ := step_external taken
    have unchanged : External env p.shared w' born := Thread.external_cases acted
    exact ⟨r, unchanged.db ▸ member, of_id, status⟩

/-- In a run that marks rows verified only while nothing else is under way for them, a row
that is verified stays verified. -/
theorem verified_absorbing_of_verifiesLast {p q q' : System} {es fs : List SystemLabel}
    (unused : Unused p)
    (respects : Respects (Pool.step (systemProgram env)) (VerifiesLast env) p (es ++ fs))
    (reached : run (Pool.step (systemProgram env)) p es = some q)
    (continued : run (Pool.step (systemProgram env)) q fs = some q') {id : Id}
    (verified : statusOf q id = some .verified) : statusOf q' id = some .verified := by
  obtain ⟨before, after⟩ := respects.append reached
  have start : Absorbed env p := ⟨unused.filed, by rw [unused.rows]; exact fun r h => (by cases h)⟩
  have absorbed : Absorbed env q :=
    run_invariant_of_respects (Absorbed env) (fun _ _ _ inv last taken => inv.step last taken) start
      before reached
  -- from there on the row is verified in every state
  exact (run_invariant_of_respects (fun p => Absorbed env p ∧ statusOf p id = some .verified)
    (fun _ _ _ inv last taken => ⟨inv.1.step last taken, inv.1.keeps taken inv.2⟩)
    ⟨absorbed, verified⟩ after continued).2

end Runs

section Sample

instance {env : Env} {p : System} {r : OtpRequest} : Decidable (Quiet env p r) :=
  inferInstanceAs (Decidable (_ ∧ _ ∧ _))

instance {env : Env} {p : System} : DecidablePred (VerifiesLast env p)
  | .resume i a => inferInstanceAs (Decidable (∀ t ∈ p.threads[i]?, ∀ record ∈ t.verifying,
      a.ok = true → ∀ r ∈ p.shared.db.otpRequests, r.id = record → Quiet env p r))
  | .external _ => isTrue trivial

theorem sampleSystem_unused : Unused sampleSystem :=
  ⟨rfl, rfl, rfl, fun _ => rfl, fun _ _ => rfl⟩

end Sample

/-- A request verified after its send job has ended, and a `delivered` webhook after that. -/
theorem verified_absorbing_of_delivered_late :
    ∃ q q', run (Pool.step (systemProgram OtpPool.sampleEnv)) sampleSystem
        (sampleCustomSend ++ .external (.takeSendOtpJob 0) :: .resume 1 (.accepted "wamid.1") ::
          resolve 1 3 ++
          sampleRequest (.verify "+4915112345678" "424242") :: resolve 2 9) = some q ∧
      run (Pool.step (systemProgram OtpPool.sampleEnv)) q
        (.external (.processWebhook 0 "wamid.1" "delivered") :: resolve 3 6) =
        some q' ∧ statusOf q' 10 = some .verified :=
  ⟨_, _, (Option.some_get (by decide +kernel)).symm, (Option.some_get (by decide +kernel)).symm,
    verified_absorbing_of_verifiesLast sampleSystem_unused (by decide +kernel)
      (Option.some_get (by decide +kernel)).symm (Option.some_get (by decide +kernel)).symm
      (by decide +kernel)⟩

/-- The client verifies its own code before the send job runs; the job then writes `sent`. -/
theorem verified_overwritten :
    ¬∀ (env : Env) (p q q' : System) (es fs : List SystemLabel) (id : Id), Unused p →
      run (Pool.step (systemProgram env)) p es = some q →
      run (Pool.step (systemProgram env)) q fs = some q' →
      statusOf q id = some .verified → statusOf q' id = some .verified := by
  intro absorbing
  have kept := absorbing OtpPool.sampleEnv sampleSystem _ _
    (sampleCustomSend ++
      sampleRequest (.verify "+4915112345678" "424242") :: resolve 1 10)
    (.external (.takeSendOtpJob 0) :: resolve 2 4) 10 sampleSystem_unused
    (Option.some_get (by decide +kernel)).symm (Option.some_get (by decide +kernel)).symm
    (by decide +kernel)
  revert kept
  decide +kernel

end SelfOtp
