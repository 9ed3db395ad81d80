import SelfOtp.Properties.EdgeUsability

/-! How far apart the messages are that the Edge function sends for one request. -/
namespace SelfOtp.Edge

open Pool Transition

/-! ### What is recorded -/

/-- A message that has been sent for the request with the row `id`. -/
structure Dispatch where
  id : Id
  sentAt : Millis
  resent : Bool
  deriving DecidableEq

/-- The messages so far. A send knows the row of its message only when it has inserted it; until then
`pending` has the time of the message, by the number of the call. -/
structure Dispatches where
  pending : ℕ → Millis
  sent : List Dispatch

namespace Thread

/-- The record after a step of the call number `i`. -/
def note (w : World) (a : Answer) (i : ℕ) (h : Dispatches) : Thread → Dispatches
  | send c =>
    match c.pc with
    | .dispatch _ _ => { h with pending := Function.update h.pending i w.now }
    | .insert d metaResult =>
      if a.ok && (w.db.insertOtpRequest (c.row w d metaResult)).isSome then
        { h with sent := h.sent ++ [⟨w.nextId, h.pending i, false⟩] }
      else h
    | _ => h
  | resend c =>
    match c.pc with
    | .dispatch otp _ _ _ => { h with sent := h.sent ++ [⟨otp.id, w.now, true⟩] }
    | _ => h
  | authenticating .. | refused _ | verify _ => h

/-- The row that a resend finds, and may send a code for. -/
def finds (w : World) (a : Answer) : Thread → Option OtpRequest
  | resend c =>
    match c.pc with
    | .findRow => (if a.ok then single (w.db.findOtpRequests c.customerId c.requestId) else none).filter
        (·.status ≠ .verified)
    | _ => none
  | authenticating .. | refused _ | send _ | verify _ => none

/-- The row that a resend is about to send a code for. -/
def resending : Thread → Option OtpRequest
  | resend c =>
    match c.pc with
    | .hash otp _ | .dispatch otp _ _ _ => some otp
    | _ => none
  | authenticating .. | refused _ | send _ | verify _ => none

/-- The send has sent its message, and inserts its row next. -/
def inserting : Thread → Bool
  | send c =>
    match c.pc with
    | .insert _ _ => true
    | _ => false
  | authenticating .. | refused _ | verify _ | resend _ => false

end Thread

def noteDispatch (p : System) (h : Dispatches) : Label → Dispatches
  | .resume i a => (p.threads[i]?.map (Thread.note p.shared a i h)).getD h
  | .external _ => h

/-- The Edge function and the record of its messages. -/
def dispatching (env : Env) : System × Dispatches → Label → Option (System × Dispatches) :=
  recording (step (program env)) noteDispatch

/-- The messages of one request are the cooldown apart. -/
def Spaced (env : Env) (sent : List Dispatch) : Prop :=
  sent.Pairwise fun d e => d.id = e.id → d.sentAt + env.otpCooldownSeconds * 1000 ≤ e.sentAt

/-- A resend of a request that has been resent comes the cooldown after that. -/
def Waits (env : Env) : System × Dispatches → Label → Prop
  | (p, h), .resume i a => ∀ t ∈ p.threads[i]?, ∀ otp ∈ t.finds p.shared a, ∀ d ∈ h.sent,
      d.resent = true → d.id = otp.id → d.sentAt + env.otpCooldownSeconds * 1000 ≤ p.shared.now
  | _, .external _ => True

instance (env : Env) (sent : List Dispatch) : Decidable (Spaced env sent) :=
  inferInstanceAs (Decidable (List.Pairwise _ _))

instance (env : Env) : DecidableRel (Waits env)
  | (p, h), .resume i a => inferInstanceAs (Decidable (∀ t ∈ p.threads[i]?, ∀ otp ∈ t.finds p.shared a,
      ∀ d ∈ h.sent, d.resent = true → d.id = otp.id →
        d.sentAt + env.otpCooldownSeconds * 1000 ≤ p.shared.now))
  | _, .external _ => isTrue trivial

/-- What holds of the messages while calls are made in turn. -/
structure Cooled (env : Env) (p : System) (h : Dispatches) : Prop where
  keyed : Keyed p.shared
  in_turn : total Thread.unanswered p.threads ≤ 1
  known : ∀ d ∈ h.sent, d.id < p.shared.nextId
  pending : ∀ (i : ℕ) (t : Thread), p.threads[i]? = some t → t.inserting = true → h.pending i ≤ p.shared.now
  created : ∀ d ∈ h.sent, d.resent = false →
    ∀ r ∈ p.shared.db.otpRequests, r.id = d.id → d.sentAt ≤ r.createdAt
  held : ∀ t ∈ p.threads, ∀ otp, t.resending = some otp → otp.id < p.shared.nextId
  waited : ∀ t ∈ p.threads, ∀ otp, t.resending = some otp → ∀ d ∈ h.sent, d.id = otp.id →
    d.sentAt + env.otpCooldownSeconds * 1000 ≤ p.shared.now
  spaced : Spaced env h.sent

/-- What a step notes. -/
inductive Notes (w w' : World) (t t' : Thread) (i : ℕ) (h : Dispatches) : Dispatches → Prop
  | none (idle : t'.inserting = false) (nextId : w'.nextId = w.nextId) : Notes w w' t t' i h h
  | send (nextId : w'.nextId = w.nextId) :
      Notes w w' t t' i h { h with pending := Function.update h.pending i w.now }
  | insert (inserting : t.inserting = true) (idle : t'.inserting = false) (done : t'.resending = .none)
      (nextId : w'.nextId = w.nextId + 1)
      (created : ∀ r ∈ w'.db.otpRequests, r ∈ w.db.otpRequests ∨ r.createdAt = w.now) :
      Notes w w' t t' i h { h with sent := h.sent ++ [⟨w.nextId, h.pending i, false⟩] }
  | resend (otp : OtpRequest) (resending : t.resending = some otp) (idle : t'.inserting = false)
      (done : t'.resending = .none) (nextId : w'.nextId = w.nextId) :
      Notes w w' t t' i h { h with sent := h.sent ++ [⟨otp.id, w.now, true⟩] }

section Steps

variable {env : Env} {p q : System} {w w' : World} {t t' : Thread} {a : Answer} {r s otp : OtpRequest}
  {h : Dispatches} {i : ℕ}

/-! ### One step -/

theorem RowStep.createdAt (step : RowStep t a r s) : s.createdAt = r.createdAt := by
  cases step <;> rfl

/-- The elapsed seconds are counted from the creation of the row. -/
theorem le_now_of_elapsed (elapsed : env.otpCooldownSeconds ≤ ResendCall.elapsedSeconds w otp) :
    otp.createdAt + env.otpCooldownSeconds * 1000 ≤ w.now := by
  unfold ResendCall.elapsedSeconds at elapsed
  have scaled := (le_div_iff₀ (by norm_num : (0 : ℚ) < 1000)).mp elapsed
  have whole : ((otp.createdAt + env.otpCooldownSeconds * 1000 : ℕ) : ℚ) ≤ (w.now : ℕ) := by
    push_cast
    linarith
  exact_mod_cast whole

theorem Thread.row_of_resending (resending : t.resending = some otp) : t.row = some otp := by
  cases t with
  | resend c =>
    simp only [Thread.resending] at resending
    cases pc : c.pc <;> simp [pc] at resending <;> rw [row, pc, ResendPc.row, resending]
  | authenticating | refused | send | verify => cases resending

/-- A call that has been answered sends nothing any more. -/
theorem Thread.resending_of_replied (replied : t.reply.isSome = true) : t.resending = none := by
  apply Option.eq_none_iff_forall_not_mem.mpr
  intro otp resending
  have held := row_of_resending resending
  rw [row_of_replied replied] at held
  cases held

theorem Thread.reply_of_inserting (inserting : t.inserting = true) : t.reply = none := by
  cases t with
  | send c =>
    simp only [Thread.inserting] at inserting
    cases pc : c.pc <;> simp [pc] at inserting
    simp only [reply, pc]
  | authenticating | refused | verify | resend => cases inserting

/-- A resend that goes on has found its row in this step, or holds it. -/
theorem Thread.resume_resending (resumed : t.resume env w a = some (w', t'))
    (resending : t'.resending = some otp) :
    t.resending = some otp ∨ t.finds w a = some otp ∧ otp ∈ w.db.otpRequests ∧
      otp.createdAt + env.otpCooldownSeconds * 1000 ≤ w.now := by
  cases t with
  | resend c =>
    obtain ⟨c', stepped, rfl⟩ := stepped_eq_some resumed
    cases pc : c.pc with
    | findRow =>
      simp only [ResendCall.step, pc] at stepped
      simp only [finds, pc]
      right
      split at stepped
      · cases stepped
        cases resending
      next found read =>
        split at stepped
        · cases stepped
          cases resending
        next unverified =>
          split at stepped
          · cases stepped
            cases resending
          next elapsed =>
            split at stepped <;> cases stepped
            · cases resending
              refine ⟨?_, Database.mem_of_findOtpRequests (lookup_cases read),
                le_now_of_elapsed (not_lt.mp elapsed)⟩
              rw [read]
              simp [Option.filter, unverified]
            · cases resending
    | hash row otpCode =>
      simp only [ResendCall.step, pc] at stepped
      cases stepped
      left
      simp only [Thread.resending, pc]
      exact resending
    | dispatch | update | answered =>
      simp only [ResendCall.step, pc] at stepped
      cases stepped <;> cases resending
  | authenticating apiKey request =>
    simp only [resume] at resumed
    split at resumed <;> cases resumed
    next keyRecord accepted =>
      have held := row_of_resending resending
      rw [handler_row] at held
      cases held
    · cases resending
  | refused reply => cases resumed
  | send c =>
    obtain ⟨c', -, rfl⟩ := stepped_eq_some resumed
    cases resending
  | verify c =>
    obtain ⟨c', -, rfl⟩ := stepped_eq_some resumed
    cases resending

theorem SendCall.inserting_of_dispatch {c c' : SendCall} (stepped : c.step env w a = some (w', c'))
    (elsewhere : ∀ otpCode d, c.pc ≠ .dispatch otpCode d) : (Thread.send c').inserting = false := by
  have move := (step_move stepped).1
  simp only [Thread.inserting]
  generalize c.pc = pc at move elsewhere
  generalize c'.pc = pc' at move ⊢
  cases move with
  | dispatch otpCode d => exact absurd rfl (elsewhere otpCode d)
  | cached | describe | unreadable | refuse | charge | crash | hash | insert | fail | refund | write => rfl

theorem SendCall.step_notes {c c' : SendCall} (stepped : c.step env w a = some (w', c')) :
    w'.now = w.now ∧ Notes w w' (.send c) (.send c') i h ((Thread.send c).note w a i h) := by
  have idle := inserting_of_dispatch stepped
  simp only [Thread.note]
  cases pc : c.pc with
  | lookup key =>
    have idle := idle fun otpCode d same => by simp [pc] at same
    simp only [step, pc] at stepped
    split at stepped
    · split at stepped <;> cases stepped <;> exact ⟨rfl, .none idle rfl⟩
    · cases stepped
      exact ⟨rfl, .none idle rfl⟩
  | deduct description =>
    simp only [step, pc] at stepped
    split at stepped
    · cases stepped
      exact ⟨rfl, .none rfl rfl⟩
    · cases stepped
      exact ⟨rfl, .none rfl rfl⟩
    · split at stepped <;> cases stepped <;> exact ⟨rfl, .none rfl rfl⟩
  | hash otpCode =>
    simp only [step, pc] at stepped
    cases stepped
    exact ⟨rfl, .none rfl rfl⟩
  | dispatch otpCode d =>
    simp only [step, pc] at stepped
    cases stepped
    exact ⟨rfl, .send rfl⟩
  | insert d metaResult =>
    simp only [step, pc] at stepped
    cases up : a.ok with
    | false =>
      simp only [up, Bool.false_eq_true, if_false] at stepped
      cases stepped
      exact ⟨rfl, .none rfl rfl⟩
    | true =>
      simp only [up, if_true, Bool.true_and] at stepped ⊢
      cases inserted : w.db.insertOtpRequest (c.row w d metaResult) with
      | none =>
        simp only [inserted] at stepped
        cases stepped
        exact ⟨rfl, .none rfl rfl⟩
      | some db =>
        simp only [inserted] at stepped
        cases stepped
        refine ⟨rfl, .insert (by simp only [Thread.inserting, pc]) rfl rfl rfl fun r there => ?_⟩
        unfold Database.insertOtpRequest at inserted
        split at inserted <;> cases inserted
        rcases List.mem_append.mp there with old | new
        · exact Or.inl old
        · rw [List.mem_singleton.mp new]
          exact Or.inr rfl
  | refund message =>
    simp only [step, pc] at stepped
    cases stepped
    exact ⟨rfl, .none rfl rfl⟩
  | answered reply writes =>
    cases writes with
    | nil => simp [step, pc] at stepped
    | cons first rest =>
      simp only [step, pc] at stepped
      cases stepped
      have frame : (if a.ok then write w first else w).now = w.now ∧
          (if a.ok then write w first else w).nextId = w.nextId := by
        split
        · cases first <;> exact ⟨rfl, rfl⟩
        · exact ⟨rfl, rfl⟩
      exact ⟨frame.1, .none rfl frame.2⟩

theorem VerifyCall.step_clock {c c' : VerifyCall} (stepped : c.step env w a = some (w', c')) :
    w'.now = w.now ∧ w'.nextId = w.nextId := by
  cases pc : c.pc with
  | findRow =>
    simp only [step, pc] at stepped
    split at stepped
    · cases stepped
      exact ⟨rfl, rfl⟩
    · split at stepped
      · cases stepped
        exact ⟨rfl, rfl⟩
      · split at stepped <;> cases stepped <;> exact ⟨rfl, rfl⟩
  | expire otp | markVerified otp now =>
    simp only [step, pc] at stepped
    cases stepped
    split <;> exact ⟨rfl, rfl⟩
  | recordAttempt otp =>
    simp only [step, pc] at stepped
    split at stepped <;> cases stepped <;> exact ⟨rfl, rfl⟩
  | compare otp code attempts =>
    simp only [step, pc] at stepped
    split at stepped <;> cases stepped <;> exact ⟨rfl, rfl⟩
  | answered reply => simp [step, pc] at stepped

theorem ResendCall.step_notes {c c' : ResendCall} (stepped : c.step env w a = some (w', c')) :
    w'.now = w.now ∧ Notes w w' (.resend c) (.resend c') i h ((Thread.resend c).note w a i h) := by
  simp only [Thread.note]
  cases pc : c.pc with
  | findRow =>
    simp only [step, pc] at stepped
    split at stepped
    · cases stepped
      exact ⟨rfl, .none rfl rfl⟩
    · split at stepped
      · cases stepped
        exact ⟨rfl, .none rfl rfl⟩
      · split at stepped
        · cases stepped
          exact ⟨rfl, .none rfl rfl⟩
        · split at stepped <;> cases stepped <;> exact ⟨rfl, .none rfl rfl⟩
  | hash otp otpCode =>
    simp only [step, pc] at stepped
    cases stepped
    exact ⟨rfl, .none rfl rfl⟩
  | dispatch otp otpCode otpHash expiresAt =>
    simp only [step, pc] at stepped
    cases stepped
    exact ⟨rfl, .resend otp (by simp only [Thread.resending, pc]) rfl rfl rfl⟩
  | update otp otpHash expiresAt =>
    simp only [step, pc] at stepped
    cases stepped
    have frame : (if a.ok then { w with db := w.db.updateOtpRequest otp.id fun r =>
        { r with otpHash := otpHash, status := .sent, expiresAt := expiresAt } } else w).now = w.now ∧
        (if a.ok then { w with db := w.db.updateOtpRequest otp.id fun r =>
          { r with otpHash := otpHash, status := .sent, expiresAt := expiresAt } } else w).nextId = w.nextId := by
      split <;> exact ⟨rfl, rfl⟩
    exact ⟨frame.1, .none rfl frame.2⟩
  | answered reply => simp [step, pc] at stepped

theorem Thread.handler_inserting (keyRecord : ApiKey) (request : Request) :
    (handler keyRecord request).inserting = false := by
  unfold handler of
  cases request.action with
  | send =>
    dsimp only
    split
    next c started =>
      simp only [inserting]
      rcases SendCall.start_pc started with ⟨key, pc⟩ | ⟨description, pc⟩ | pc <;> rw [pc]
    · rfl
  | verify | resend =>
    dsimp only
    split <;> rfl

theorem Thread.resume_notes (resumed : t.resume env w a = some (w', t')) :
    w'.now = w.now ∧ Notes w w' t t' i h (t.note w a i h) := by
  cases t with
  | send c =>
    obtain ⟨c', stepped, rfl⟩ := stepped_eq_some resumed
    exact SendCall.step_notes stepped
  | verify c =>
    obtain ⟨c', stepped, rfl⟩ := stepped_eq_some resumed
    obtain ⟨now, nextId⟩ := VerifyCall.step_clock stepped
    exact ⟨now, .none rfl nextId⟩
  | resend c =>
    obtain ⟨c', stepped, rfl⟩ := stepped_eq_some resumed
    exact ResendCall.step_notes stepped
  | authenticating apiKey request =>
    simp only [resume] at resumed
    split at resumed <;> cases resumed
    next keyRecord accepted =>
      exact ⟨rfl, .none (handler_inserting keyRecord request) rfl⟩
    · exact ⟨rfl, .none rfl rfl⟩
  | refused reply => cases resumed

/-! ### Calls in turn -/

/-- While a call has not been answered, no other call sends anything. -/
theorem resending_elsewhere {j : ℕ} {u : Thread} (in_turn : total Thread.unanswered p.threads ≤ 1)
    (found : p.threads[i]? = some t) (unanswered : t.reply = none) (other : p.threads[j]? = some u)
    (apart : j ≠ i) : u.resending = none := by
  have alone : 0 < t.unanswered := by
    rw [Thread.unanswered, unanswered]
    exact Nat.one_pos
  have quiet := eq_zero_of_total_le_one found other apart in_turn alone
  exact Thread.resending_of_replied (Thread.unanswered_eq_zero.mp quiet)

section Resume

variable (cooled : Cooled env p h) (found : p.threads[i]? = some t)
include cooled

theorem Cooled.created_resume (resumed : t.resume env p.shared a = some (w', t')) :
    ∀ d ∈ h.sent, d.resent = false → ∀ r ∈ w'.db.otpRequests, r.id = d.id → d.sentAt ≤ r.createdAt := by
  intro d sent initial r there same
  rcases (Thread.resume_rows cooled.keyed resumed).origin r there with ⟨s, old, step⟩ | ⟨fresh, -⟩
  · rw [step.createdAt]
    exact cooled.created d sent initial s old (step.id ▸ same)
  · exact absurd (same.symm.trans fresh) (cooled.known d sent).ne

include found

/-- A resend that goes on comes the cooldown after every message of its request. -/
theorem Cooled.waited_resume (resumed : t.resume env p.shared a = some (w', t'))
    (waits : Waits env (p, h) (.resume i a)) (resending : t'.resending = some otp) :
    ∀ d ∈ h.sent, d.id = otp.id → d.sentAt + env.otpCooldownSeconds * 1000 ≤ p.shared.now := by
  intro d sent same
  rcases Thread.resume_resending resumed resending with held | ⟨finds, member, elapsed⟩
  · exact cooled.waited t (List.mem_of_getElem? found) otp held d sent same
  · cases initial : d.resent with
    -- the row's time of creation is that of the first message, or later
    | false =>
      calc d.sentAt + env.otpCooldownSeconds * 1000
        _ ≤ otp.createdAt + env.otpCooldownSeconds * 1000 :=
          Nat.add_le_add_right (cooled.created d sent initial otp member same.symm) _
        _ ≤ p.shared.now := elapsed
    | true => exact waits t (by rw [found]; rfl) otp finds d sent initial same

theorem Cooled.waited_set (resumed : t.resume env p.shared a = some (w', t'))
    (waits : Waits env (p, h) (.resume i a)) (now : w'.now = p.shared.now) :
    ∀ u ∈ p.threads.set i t', ∀ otp, u.resending = some otp → ∀ d ∈ h.sent, d.id = otp.id →
      d.sentAt + env.otpCooldownSeconds * 1000 ≤ w'.now := by
  intro u there otp resending d sent same
  rw [now]
  rcases mem_set_cases there with rfl | ⟨j, -, other⟩
  · exact cooled.waited_resume found resumed waits resending d sent same
  · exact cooled.waited u (List.mem_of_getElem? other) otp resending d sent same

theorem Cooled.held_set (resumed : t.resume env p.shared a = some (w', t'))
    (nextId : w'.nextId = p.shared.nextId) :
    ∀ u ∈ p.threads.set i t', ∀ otp, u.resending = some otp → otp.id < w'.nextId := by
  intro u there otp resending
  rw [nextId]
  rcases mem_set_cases there with rfl | ⟨j, -, other⟩
  · rcases Thread.resume_resending resumed resending with held | ⟨-, read, -⟩
    · exact cooled.held t (List.mem_of_getElem? found) otp held
    · exact cooled.keyed.bounded otp read
  · exact cooled.held u (List.mem_of_getElem? other) otp resending

omit found in
/-- A step that sends nothing first leaves the messages that are waiting for their rows. -/
theorem Cooled.pending_set (now : w'.now = p.shared.now) (idle : t'.inserting = false) :
    ∀ (j : ℕ) (u : Thread), (p.threads.set i t')[j]? = some u → u.inserting = true →
      h.pending j ≤ w'.now := by
  intro j u there inserting
  rcases getElem?_set_cases there with ⟨-, rfl⟩ | ⟨-, other⟩
  · rw [idle] at inserting
    cases inserting
  · exact now ▸ cooled.pending j u other inserting

/-- Once the call in turn is past its resend, none is going on. -/
theorem Cooled.none_resending (unanswered : t.reply = none) (done : t'.resending = none) :
    ∀ u ∈ p.threads.set i t', ∀ otp, u.resending ≠ some otp := by
  intro u there otp resending
  have silent : u.resending = none := by
    rcases mem_set_cases there with rfl | ⟨j, apart, other⟩
    · exact done
    · exact resending_elsewhere cooled.in_turn found unanswered other apart
  rw [silent] at resending
  cases resending

/-- The row of a message is inserted, with a new id and the time as its creation. -/
theorem Cooled.insert (resumed : t.resume env p.shared a = some (w', t')) (now : w'.now = p.shared.now)
    (inserting : t.inserting = true) (idle : t'.inserting = false) (done : t'.resending = none)
    (nextId : w'.nextId = p.shared.nextId + 1)
    (rows : ∀ r ∈ w'.db.otpRequests, r ∈ p.shared.db.otpRequests ∨ r.createdAt = p.shared.now) :
    Cooled env ⟨w', p.threads.set i t'⟩
      { h with sent := h.sent ++ [⟨p.shared.nextId, h.pending i, false⟩] } := by
  have silent := cooled.none_resending found (Thread.reply_of_inserting inserting) done
  refine ⟨(Thread.resume_rows cooled.keyed resumed).keyed, in_turn_resume cooled.in_turn found resumed,
    fun d sent => ?_, cooled.pending_set now idle, fun d sent initial r there same => ?_,
    fun u there otp resending => absurd resending (silent u there otp),
    fun u there otp resending => absurd resending (silent u there otp), ?_⟩
  · rw [nextId]
    rcases List.mem_append.mp sent with old | new
    · exact Nat.lt_succ_of_lt (cooled.known d old)
    · rw [List.mem_singleton.mp new]
      exact Nat.lt_succ_self _
  · rcases List.mem_append.mp sent with old | new
    · exact cooled.created_resume resumed d old initial r there same
    -- the row of the message is the new one
    · rw [List.mem_singleton.mp new] at same ⊢
      rcases rows r there with old | created
      · exact absurd same (cooled.keyed.bounded r old).ne
      · rw [created]
        exact cooled.pending i t found inserting
  · refine List.pairwise_append.mpr ⟨cooled.spaced, List.pairwise_singleton _ _, fun d old e new same => ?_⟩
    rw [List.mem_singleton.mp new] at same
    exact absurd same (cooled.known d old).ne

/-- A resend sends its message, which comes the cooldown after all others of the request. -/
theorem Cooled.resend (resumed : t.resume env p.shared a = some (w', t')) (now : w'.now = p.shared.now)
    (resending : t.resending = some otp) (idle : t'.inserting = false) (done : t'.resending = none)
    (nextId : w'.nextId = p.shared.nextId) :
    Cooled env ⟨w', p.threads.set i t'⟩
      { h with sent := h.sent ++ [⟨otp.id, p.shared.now, true⟩] } := by
  have member := List.mem_of_getElem? found
  have unanswered : t.reply = none := by
    by_contra replied
    have silent := Thread.resending_of_replied (Option.isSome_iff_ne_none.mpr replied)
    rw [silent] at resending
    cases resending
  have silent := cooled.none_resending found unanswered done
  refine ⟨(Thread.resume_rows cooled.keyed resumed).keyed, in_turn_resume cooled.in_turn found resumed,
    fun d sent => ?_, cooled.pending_set now idle, fun d sent initial r there same => ?_,
    fun u there otp resending => absurd resending (silent u there otp),
    fun u there otp resending => absurd resending (silent u there otp), ?_⟩
  · rw [nextId]
    rcases List.mem_append.mp sent with old | new
    · exact cooled.known d old
    · rw [List.mem_singleton.mp new]
      exact cooled.held t member otp resending
  · rcases List.mem_append.mp sent with old | new
    · exact cooled.created_resume resumed d old initial r there same
    · rw [List.mem_singleton.mp new] at initial
      cases initial
  · refine List.pairwise_append.mpr ⟨cooled.spaced, List.pairwise_singleton _ _, fun d old e new same => ?_⟩
    rw [List.mem_singleton.mp new] at same ⊢
    exact cooled.waited t member otp resending d old same

theorem Cooled.resume (resumed : t.resume env p.shared a = some (w', t'))
    (waits : Waits env (p, h) (.resume i a)) :
    Cooled env ⟨w', p.threads.set i t'⟩ (t.note p.shared a i h) := by
  have keyed := (Thread.resume_rows cooled.keyed resumed).keyed
  have in_turn := in_turn_resume cooled.in_turn found resumed
  have created := cooled.created_resume resumed
  obtain ⟨now, notes⟩ := Thread.resume_notes (h := h) (i := i) resumed
  have waited := cooled.waited_set found resumed waits now
  generalize t.note p.shared a i h = noted at notes ⊢
  cases notes with
  | none idle nextId =>
    exact ⟨keyed, in_turn, by rw [nextId]; exact cooled.known, cooled.pending_set now idle, created,
      cooled.held_set found resumed nextId, waited, cooled.spaced⟩
  | send nextId =>
    refine ⟨keyed, in_turn, by rw [nextId]; exact cooled.known, fun j u there inserting => ?_, created,
      cooled.held_set found resumed nextId, waited, cooled.spaced⟩
    rcases getElem?_set_cases there with ⟨rfl, rfl⟩ | ⟨apart, other⟩
    · dsimp only
      rw [Function.update_self, now]
    · dsimp only
      rw [Function.update_of_ne apart, now]
      exact cooled.pending j u other inserting
  | insert inserting idle done nextId rows =>
    exact cooled.insert found resumed now inserting idle done nextId rows
  | resend otp resending idle done nextId =>
    exact cooled.resend found resumed now resending idle done nextId

end Resume

theorem Cooled.external {event : Event} {born : List Thread} (cooled : Cooled env p h)
    (acted : Thread.external p.shared event = some (w', born)) (turn : InTurn p (.external event)) :
    Cooled env ⟨w', p.threads ++ born⟩ h := by
  have same := Thread.external_cases acted
  have silent (u : Thread) (new : u ∈ born) : u.resending = none ∧ u.inserting = false := by
    obtain ⟨request, rfl⟩ := same.born u new
    unfold Thread.start
    split <;> exact ⟨rfl, rfl⟩
  refine ⟨cooled.keyed.external same, in_turn_external cooled.in_turn acted turn,
    by rw [same.nextId]; exact cooled.known, fun j u there inserting => ?_,
    by rw [same.db]; exact cooled.created, fun u there otp resending => ?_,
    fun u there otp resending d sent equal => ?_, cooled.spaced⟩
  · rw [List.getElem?_append] at there
    split at there
    · exact le_trans (cooled.pending j u there inserting) same.now
    · cases (silent u (List.mem_of_getElem? there)).2.symm.trans inserting
  · rcases List.mem_append.mp there with old | new
    · rw [same.nextId]
      exact cooled.held u old otp resending
    · cases (silent u new).1.symm.trans resending
  · rcases List.mem_append.mp there with old | new
    · exact le_trans (cooled.waited u old otp resending d sent equal) same.now
    · cases (silent u new).1.symm.trans resending

theorem Cooled.step {l : Label} (cooled : Cooled env p h) (turn : InTurn p l)
    (waits : Waits env (p, h) l) (taken : Pool.step (program env) p l = some q) :
    Cooled env q (noteDispatch p h l) := by
  cases l with
  | resume i a =>
    obtain ⟨t, w', t', found, resumed, rfl⟩ := step_resume taken
    simp only [noteDispatch, found, Option.map_some, Option.getD_some]
    exact cooled.resume found resumed waits
  | external event =>
    obtain ⟨w', born, acted, rfl⟩ := step_external taken
    exact cooled.external acted turn

/-- The messages of one request are the cooldown apart, as long as a request that has been resent is
resent no sooner than the cooldown after that. -/
theorem spaced_of_waits {k : Dispatches} {labels : List Label} (fresh : Fresh p)
    (turns : Respects (dispatching env) (fun s l => InTurn s.1 l) (p, ⟨fun _ => 0, []⟩) labels)
    (waits : Respects (dispatching env) (Waits env) (p, ⟨fun _ => 0, []⟩) labels)
    (returned : run (dispatching env) (p, ⟨fun _ => 0, []⟩) labels = some (q, k)) :
    Spaced env k.sent := by
  have initial : Cooled env p ⟨fun _ => 0, []⟩ := by
    refine ⟨⟨?_, ?_⟩, ?_, ?_, ?_, ?_, ?_, ?_, List.Pairwise.nil⟩ <;> simp [fresh.threads, fresh.rows]
  have cooled := run_invariant_of_respects (fun s => Cooled env s.1 s.2)
    (fun s l t cooled respects taken => by
      obtain ⟨taken, noted⟩ := recording_eq_some taken
      rw [noted]
      exact cooled.step respects.1 respects.2 taken) initial (turns.and waits) returned
  exact cooled.spaced

/-- A send, and a resend after each pause. -/
def sampleResends (pauses : List Millis) : List Label :=
  samplePost .send [(js "phone_number", .string (js "+4915112345678"))] :: resolve 0 5 ++
    (pauses.zipIdx 1).flatMap fun (pause, i) =>
      .external (.tick pause) :: samplePost .resend [(js "request_id", .string (newRequestId 7))] :: resolve i 5

/-- Two resends, a minute apart. -/
theorem spaced_of_minute_pauses :
    ∃ q k, run (dispatching sampleEnv) (sampleSystem, ⟨fun _ => 0, []⟩) (sampleResends [60000, 60000]) =
        some (q, k) ∧ k.sent.length = 3 ∧ Spaced sampleEnv k.sent := by
  have returned := (Option.some_get (show (run (dispatching sampleEnv) (sampleSystem, ⟨fun _ => 0, []⟩)
    (sampleResends [60000, 60000])).isSome = true by decide +kernel)).symm
  exact ⟨_, _, returned, by decide +kernel,
    spaced_of_waits ⟨rfl, rfl⟩ (by decide +kernel) (by decide +kernel) returned⟩

/-- A second resend follows the first one at once. -/
theorem resent_at_once :
    ¬∀ (env : Env) (p q : System) (k : Dispatches) (labels : List Label), Fresh p →
      Respects (dispatching env) (fun s l => InTurn s.1 l) (p, ⟨fun _ => 0, []⟩) labels →
      run (dispatching env) (p, ⟨fun _ => 0, []⟩) labels = some (q, k) → Spaced env k.sent := by
  intro spaced
  have returned := (Option.some_get (show (run (dispatching sampleEnv) (sampleSystem, ⟨fun _ => 0, []⟩)
    (sampleResends [60000, 0])).isSome = true by decide +kernel)).symm
  have violated := spaced sampleEnv sampleSystem _ _ _ ⟨rfl, rfl⟩ (by decide +kernel) returned
  revert violated
  decide +kernel

end Steps

end SelfOtp.Edge
