import SelfOtp.Properties.EdgeMoves

/-! What the calls of the Edge function do to the rows of `otp_requests`. -/
namespace SelfOtp.Edge

open Pool

/-! ### Where a call is -/

/-- The row as it was read, while the call goes on with it. -/
def VerifyPc.row : VerifyPc → Option OtpRequest
  | expire otp | recordAttempt otp | compare otp _ _ | markVerified otp _ => some otp
  | findRow | answered _ => none

def ResendPc.row : ResendPc → Option OtpRequest
  | hash otp _ | dispatch otp _ _ _ | update otp _ _ => some otp
  | findRow | answered _ => none

/-- What the row of a send will be inserted with. -/
def SendPc.prepared : SendPc → Option Prepared
  | dispatch _ d | insert d _ => some d
  | lookup _ | deduct _ | hash _ | refund _ | answered .. => none

namespace Thread

def prepared : Thread → Option Prepared
  | send c => c.pc.prepared
  | authenticating .. | refused _ | verify _ | resend _ => none

/-- The row that the call has read and goes on with. -/
def row : Thread → Option OtpRequest
  | verify c => c.pc.row
  | resend c => c.pc.row
  | authenticating .. | refused _ | send _ => none

/-- The row whose attempt is recorded next. -/
def recording : Thread → Option Id
  | verify c =>
    match c.pc with
    | .recordAttempt otp => some otp.id
    | _ => none
  | authenticating .. | refused _ | send _ | resend _ => none

/-- The row with whose hash the code is compared next. -/
def comparing : Thread → Option Id
  | verify c =>
    match c.pc with
    | .compare otp _ _ => some otp.id
    | _ => none
  | authenticating .. | refused _ | send _ | resend _ => none

/-- The row that is marked verified next. -/
def marking : Thread → Option Id
  | verify c =>
    match c.pc with
    | .markVerified otp _ => some otp.id
    | _ => none
  | authenticating .. | refused _ | send _ | resend _ => none

/-- The row that is marked expired next. -/
def expiring : Thread → Option Id
  | verify c =>
    match c.pc with
    | .expire otp => some otp.id
    | _ => none
  | authenticating .. | refused _ | send _ | resend _ => none

/-- The row that gets its new code next. -/
def renewing : Thread → Option Id
  | resend c =>
    match c.pc with
    | .update otp _ _ => some otp.id
    | _ => none
  | authenticating .. | refused _ | send _ | verify _ => none

end Thread

/-! ### The rows -/

/-- Ids are handed out in order and identify the rows. -/
structure Keyed (w : World) : Prop where
  bounded : ∀ r ∈ w.db.otpRequests, r.id < w.nextId
  unique : ∀ r ∈ w.db.otpRequests, ∀ s ∈ w.db.otpRequests, r.id = s.id → r = s

/-- What a step of a thread makes of a row. -/
inductive RowStep (t : Thread) (a : Answer) (r : OtpRequest) : OtpRequest → Prop
  | keep (unrecorded : t.recording = some r.id → a.ok = false) : RowStep t a r r
  | attempt (recording : t.recording = some r.id) (up : a.ok = true) :
      RowStep t a r { r with
        attempts := r.attempts + 1
        status := if r.maxAttempts ≤ r.attempts + 1 then .failed else r.status }
  | expire (expiring : t.expiring = some r.id) : RowStep t a r { r with status := .expired }
  | verify (marking : t.marking = some r.id) (up : a.ok = true) (now : Millis) :
      RowStep t a r { r with status := .verified, verifiedAt := some now }
  | renew (renewing : t.renewing = some r.id) (up : a.ok = true) (otpHash : String)
      (expiresAt : Millis) :
      RowStep t a r { r with otpHash := otpHash, status := .sent, expiresAt := expiresAt }

/-- Only an insert adds a row, and every other row makes a step. -/
structure RowsStep (t : Thread) (a : Answer) (w w' : World) : Prop where
  keyed : Keyed w'
  persists : ∀ r ∈ w.db.otpRequests, ∃ s ∈ w'.db.otpRequests, RowStep t a r s
  origin : ∀ s ∈ w'.db.otpRequests, (∃ r ∈ w.db.otpRequests, RowStep t a r s) ∨
    s.id = w.nextId ∧ s.status ≠ .verified
  requestIds : w'.db.otpRequests.map (·.requestId) = w.db.otpRequests.map (·.requestId) ∨
    ∃ d, t.prepared = some d ∧ d.requestId ∉ w.db.otpRequests.map (·.requestId) ∧
      w'.db.otpRequests.map (·.requestId) = w.db.otpRequests.map (·.requestId) ++ [d.requestId]

section Rows

variable {env : Env} {w w' : World} {t t' : Thread} {a : Answer} {r s : OtpRequest}

theorem RowStep.id (step : RowStep t a r s) : s.id = r.id := by
  cases step <;> rfl

theorem RowStep.requestId (step : RowStep t a r s) : s.requestId = r.requestId := by
  cases step <;> rfl

/-- Only the call that marks a row makes it verified. -/
theorem RowStep.marks (step : RowStep t a r s) (verified : s.status = .verified) :
    t.marking = some r.id ∨ r.status = .verified := by
  cases step with
  | keep => exact Or.inr verified
  | attempt =>
    dsimp only at verified
    split at verified
    · cases verified
    · exact Or.inr verified
  | expire | renew => cases verified
  | verify marking => exact Or.inl marking

theorem RowsStep.same (keyed : Keyed w) (rows : w'.db.otpRequests = w.db.otpRequests)
    (nextId : w'.nextId = w.nextId) (unrecorded : t.recording = none ∨ a.ok = false) :
    RowsStep t a w w' := by
  have keep (r : OtpRequest) : RowStep t a r r := by
    refine .keep fun recording => ?_
    rcases unrecorded with none_recorded | down
    · rw [none_recorded] at recording
      cases recording
    · exact down
  refine ⟨⟨?_, ?_⟩, fun r member => ⟨r, rows ▸ member, keep r⟩,
    fun s member => Or.inl ⟨s, rows ▸ member, keep s⟩, Or.inl (by rw [rows])⟩
  · rw [rows, nextId]
    exact keyed.bounded
  · rw [rows]
    exact keyed.unique

/-- The row with the id makes a step, all others stay as they are. -/
theorem RowsStep.update (keyed : Keyed w) {id : Id} {f : OtpRequest → OtpRequest}
    (rows : w'.db.otpRequests = w.db.otpRequests.map fun r => if r.id = id then f r else r)
    (nextId : w'.nextId = w.nextId) (elsewhere : ∀ other, t.recording = some other → other = id)
    (steps : ∀ r ∈ w.db.otpRequests, r.id = id → RowStep t a r (f r)) : RowsStep t a w w' := by
  have moves (r : OtpRequest) (member : r ∈ w.db.otpRequests) :
      RowStep t a r (if r.id = id then f r else r) := by
    split
    next here => exact steps r member here
    next there => exact .keep fun recording => absurd (elsewhere _ recording) there
  refine ⟨⟨fun s member => ?_, fun s member s' member' equal => ?_⟩,
    fun r member => ⟨_, rows ▸ List.mem_map_of_mem member, moves r member⟩, fun s member => ?_, Or.inl ?_⟩
  · rw [rows] at member
    obtain ⟨r, old, rfl⟩ := List.mem_map.mp member
    rw [nextId, (moves r old).id]
    exact keyed.bounded r old
  · rw [rows] at member member'
    obtain ⟨r, old, rfl⟩ := List.mem_map.mp member
    obtain ⟨r', old', rfl⟩ := List.mem_map.mp member'
    rw [(moves r old).id, (moves r' old').id] at equal
    rw [keyed.unique r old r' old' equal]
  · rw [rows] at member
    obtain ⟨r, old, rfl⟩ := List.mem_map.mp member
    exact Or.inl ⟨r, old, moves r old⟩
  · rw [rows, List.map_map]
    exact List.map_congr_left fun r old => (moves r old).requestId

theorem RowsStep.insert (keyed : Keyed w) {row : OtpRequest} {d : Prepared}
    (rows : w'.db.otpRequests = w.db.otpRequests ++ [row]) (nextId : w'.nextId = w.nextId + 1)
    (fresh : row.id = w.nextId) (status : row.status ≠ .verified) (idle : t.recording = none)
    (prepared : t.prepared = some d) (requestId : row.requestId = d.requestId)
    (unused : ∀ r ∈ w.db.otpRequests, r.requestId ≠ row.requestId) : RowsStep t a w w' := by
  have keep (r : OtpRequest) : RowStep t a r r := by
    refine .keep fun recording => ?_
    rw [idle] at recording
    cases recording
  refine ⟨⟨fun s member => ?_, fun s member s' member' equal => ?_⟩,
    fun r member => ⟨r, rows ▸ List.mem_append_left _ member, keep r⟩, fun s member => ?_,
    Or.inr ⟨d, prepared, ?_, ?_⟩⟩
  -- the new row takes the next id, which is above all others
  · rw [rows] at member
    rw [nextId]
    rcases List.mem_append.mp member with old | new
    · exact Nat.lt_succ_of_lt (keyed.bounded s old)
    · rw [List.mem_singleton.mp new, fresh]
      exact Nat.lt_succ_self _
  · rw [rows] at member member'
    rcases List.mem_append.mp member with old | new <;>
      rcases List.mem_append.mp member' with old' | new'
    · exact keyed.unique s old s' old' equal
    · rw [List.mem_singleton.mp new', fresh] at equal
      exact absurd equal (keyed.bounded s old).ne
    · rw [List.mem_singleton.mp new, fresh] at equal
      exact absurd equal.symm (keyed.bounded s' old').ne
    · rw [List.mem_singleton.mp new, List.mem_singleton.mp new']
  · rw [rows] at member
    rcases List.mem_append.mp member with old | new
    · exact Or.inl ⟨s, old, keep s⟩
    · rw [List.mem_singleton.mp new]
      exact Or.inr ⟨fresh, status⟩
  · rw [← requestId]
    intro used
    obtain ⟨r, old, same⟩ := List.mem_map.mp used
    exact unused r old same
  · rw [rows, List.map_append, List.map_singleton, requestId]

/-! ### The calls -/

theorem Thread.stepped_eq_some {τ : Type} {thread : τ → Thread} {next : Option (World × τ)}
    (h : Thread.stepped thread next = some (w', t')) : ∃ c', next = some (w', c') ∧ thread c' = t' := by
  obtain ⟨⟨v, c'⟩, taken, same⟩ := Option.map_eq_some_iff.mp h
  cases same
  exact ⟨c', taken, rfl⟩

/-- The procedure raises the attempts of the row, if it is there. -/
theorem Database.recordOtpAttempt_cases (db : Database) (id : Id) :
    (db.recordOtpAttempt id = (db, .notFound) ∧ ∀ r ∈ db.otpRequests, r.id ≠ id) ∨
      ∃ r ∈ db.otpRequests, r.id = id ∧
        (db.recordOtpAttempt id).1.otpRequests = db.otpRequests.map (fun s => if s.id = id then
          { s with
            attempts := r.attempts + 1
            status := if r.maxAttempts ≤ r.attempts + 1 then .failed else s.status } else s) ∧
        (db.recordOtpAttempt id).2 =
          .found (r.attempts + 1) r.maxAttempts (decide (r.maxAttempts ≤ r.attempts + 1)) := by
  unfold recordOtpAttempt
  cases found : db.otpRequests.find? (·.id == id) with
  | none => exact Or.inl ⟨rfl, fun r member => by simpa using List.find?_eq_none.mp found r member⟩
  | some r =>
    refine Or.inr ⟨r, List.mem_of_find?_eq_some found, by simpa using List.find?_some found, ?_⟩
    dsimp only
    split
    next exceeded => exact ⟨rfl, by rw [decide_eq_true exceeded]⟩
    next within => exact ⟨rfl, by rw [decide_eq_false within]⟩

theorem SendCall.step_rows {c c' : SendCall} (keyed : Keyed w) (h : c.step env w a = some (w', c')) :
    RowsStep (.send c) a w w' := by
  have same (rows : w'.db.otpRequests = w.db.otpRequests) (nextId : w'.nextId = w.nextId) :
      RowsStep (.send c) a w w' := .same keyed rows nextId (Or.inl rfl)
  cases pc : c.pc with
  | lookup key =>
    simp only [step, pc] at h
    split at h
    · split at h <;> cases h <;> exact same rfl rfl
    · cases h
      exact same rfl rfl
  | deduct description =>
    simp only [step, pc] at h
    split at h
    · cases h
      exact same rfl rfl
    · cases h
      exact same rfl rfl
    next db balance deducted =>
      have rows : db.otpRequests = w.db.otpRequests := by
        split at deducted
        · unfold Database.deductWalletCredit at deducted
          split at deducted
          · cases deducted
          · split at deducted <;> cases deducted
            rfl
        · cases deducted
      split at h <;> cases h <;> exact same rows rfl
  | hash otpCode =>
    simp only [step, pc] at h
    cases h
    exact same rfl rfl
  | dispatch otpCode d =>
    simp only [step, pc] at h
    cases h
    exact same rfl rfl
  | insert d metaResult =>
    simp only [step, pc] at h
    split at h
    next db inserted =>
      cases h
      have rows : db.otpRequests = w.db.otpRequests ++ [c.row w d metaResult] ∧
          ∀ r ∈ w.db.otpRequests, r.requestId ≠ (c.row w d metaResult).requestId := by
        split at inserted
        · unfold Database.insertOtpRequest at inserted
          split at inserted <;> cases inserted
          next unused => exact ⟨rfl, unused⟩
        · cases inserted
      refine .insert keyed rows.1 rfl rfl ?_ rfl (by simp only [Thread.prepared, pc, SendPc.prepared]) rfl rows.2
      unfold row
      dsimp only
      split <;> exact fun h => (by cases h)
    · cases h
      exact same rfl rfl
  | refund message =>
    simp only [step, pc] at h
    cases h
    refine same ?_ rfl
    dsimp only
    split
    next db balance refunded =>
      split at refunded
      · unfold Database.refundWalletCredit at refunded
        split at refunded <;> cases refunded
        rfl
      · cases refunded
    · rfl
  | answered reply writes =>
    cases writes with
    | nil => simp [step, pc] at h
    | cons first rest =>
      simp only [step, pc] at h
      cases h
      refine same ?_ ?_
      -- neither a message nor an idempotency key touches the rows
      · split
        · cases first with
          | message row => rfl
          | idempotencyKey row =>
            unfold write Database.upsertIdempotencyKey
            dsimp only
            split <;> rfl
        · rfl
      · split
        · cases first <;> rfl
        · rfl

theorem VerifyCall.step_rows {c c' : VerifyCall} (keyed : Keyed w)
    (h : c.step env w a = some (w', c')) : RowsStep (.verify c) a w w' := by
  cases pc : c.pc with
  | findRow =>
    have idle : (Thread.verify c).recording = none := by simp only [Thread.recording, pc]
    simp only [step, pc] at h
    split at h
    · cases h
      exact .same keyed rfl rfl (Or.inl idle)
    · split at h
      · cases h
        exact .same keyed rfl rfl (Or.inl idle)
      · split at h <;> cases h <;> exact .same keyed rfl rfl (Or.inl idle)
  | expire otp =>
    have idle : (Thread.verify c).recording = none := by simp only [Thread.recording, pc]
    simp only [step, pc] at h
    cases h
    split
    · refine .update keyed rfl rfl (fun other recording => ?_) fun r member here => .expire ?_
      · rw [idle] at recording
        cases recording
      · simp only [Thread.expiring, pc, here]
    · exact .same keyed rfl rfl (Or.inl idle)
  | recordAttempt otp =>
    have recording : (Thread.verify c).recording = some otp.id := by simp only [Thread.recording, pc]
    cases up : a.ok with
    | false =>
      simp only [step, pc, up, Bool.false_eq_true, if_false] at h
      split at h <;> cases h <;> exact .same keyed rfl rfl (Or.inr up)
    | true =>
      simp only [step, pc, up, if_true] at h
      -- whatever the procedure answers, the next database is the one it leaves
      have db : w' = { w with db := (w.db.recordOtpAttempt otp.id).1 } := by
        split at h <;> cases h <;> rfl
      subst db
      rcases Database.recordOtpAttempt_cases w.db otp.id with ⟨missing, absent⟩ | ⟨r, member, here, rows, -⟩
      -- no row has the id, so that the update changes none
      · have rows : (w.db.recordOtpAttempt otp.id).1.otpRequests =
            w.db.otpRequests.map fun r => if r.id = otp.id then r else r := by
          rw [missing]
          simp
        refine .update keyed rows rfl (fun other elsewhere => ?_)
          fun r member here => absurd here (absent r member)
        rw [recording] at elsewhere
        exact (Option.some.inj elsewhere).symm
      · refine .update keyed rows rfl (fun other elsewhere => ?_) fun s there same => ?_
        · rw [recording] at elsewhere
          exact (Option.some.inj elsewhere).symm
        -- the row that is updated is the one whose attempts were read
        · cases keyed.unique s there r member (same.trans here.symm)
          exact .attempt (recording.trans (congrArg some same.symm)) up
  | compare otp code attempts =>
    have idle : (Thread.verify c).recording = none := by simp only [Thread.recording, pc]
    simp only [step, pc] at h
    split at h <;> cases h <;> exact .same keyed rfl rfl (Or.inl idle)
  | markVerified otp now =>
    have idle : (Thread.verify c).recording = none := by simp only [Thread.recording, pc]
    simp only [step, pc] at h
    cases h
    split
    next up =>
      refine .update keyed rfl rfl (fun other recording => ?_) fun r member here => .verify ?_ up now
      · rw [idle] at recording
        cases recording
      · simp only [Thread.marking, pc, here]
    · exact .same keyed rfl rfl (Or.inl idle)
  | answered reply => simp [step, pc] at h

theorem ResendCall.step_rows {c c' : ResendCall} (keyed : Keyed w)
    (h : c.step env w a = some (w', c')) : RowsStep (.resend c) a w w' := by
  have same (rows : w'.db.otpRequests = w.db.otpRequests) (nextId : w'.nextId = w.nextId) :
      RowsStep (.resend c) a w w' := .same keyed rows nextId (Or.inl rfl)
  cases pc : c.pc with
  | findRow =>
    simp only [step, pc] at h
    split at h
    · cases h
      exact same rfl rfl
    · split at h
      · cases h
        exact same rfl rfl
      · split at h
        · cases h
          exact same rfl rfl
        · split at h <;> cases h <;> exact same rfl rfl
  | hash otp otpCode =>
    simp only [step, pc] at h
    cases h
    exact same rfl rfl
  | dispatch otp otpCode otpHash expiresAt =>
    simp only [step, pc] at h
    cases h
    exact same rfl rfl
  | update otp otpHash expiresAt =>
    simp only [step, pc] at h
    cases h
    split
    next up =>
      refine .update keyed rfl rfl (fun other recording => (by cases recording)) fun r member here =>
        .renew ?_ up otpHash expiresAt
      simp only [Thread.renewing, pc, here]
    · exact .same keyed rfl rfl (Or.inl rfl)
  | answered reply => simp [step, pc] at h

/-- What a step of a thread does to the rows. -/
theorem Thread.resume_rows (keyed : Keyed w) (h : t.resume env w a = some (w', t')) :
    RowsStep t a w w' := by
  cases t with
  | authenticating apiKey request =>
    simp only [resume] at h
    split at h <;> cases h <;> exact .same keyed rfl rfl (Or.inl rfl)
  | refused reply => cases h
  | send c =>
    obtain ⟨c', stepped, -⟩ := stepped_eq_some h
    exact SendCall.step_rows keyed stepped
  | verify c =>
    obtain ⟨c', stepped, -⟩ := stepped_eq_some h
    exact VerifyCall.step_rows keyed stepped
  | resend c =>
    obtain ⟨c', stepped, -⟩ := stepped_eq_some h
    exact ResendCall.step_rows keyed stepped

end Rows

/-! ### The environment -/

section External

variable {w w' : World} {event : Event} {born : List Thread} {t : Thread} {id : Id}

/-- Time passes, or a request arrives that has not read anything. -/
structure External (w w' : World) (born : List Thread) : Prop where
  now : w.now ≤ w'.now
  nextId : w'.nextId = w.nextId
  db : w'.db = w.db
  metaCalls : w'.metaCalls = w.metaCalls
  born : ∀ t ∈ born, ∃ request, t = .start request

theorem Thread.external_cases (acted : Thread.external w event = some (w', born)) :
    External w w' born := by
  cases event with
  | tick d =>
    cases acted
    exact ⟨Nat.le_add_right .., rfl, rfl, rfl, fun t there => (by cases there)⟩
  | post request =>
    cases acted
    exact ⟨le_refl _, rfl, rfl, rfl, fun t there => ⟨request, List.mem_singleton.mp there⟩⟩

/-- Requests that have just arrived do not count, where no arriving request does. -/
theorem total_born {m : Thread → ℕ} {event : Event} {born : List Thread}
    (acted : Thread.external w event = some (w', born)) (idle : ∀ request, m (.start request) = 0) :
    total m born = 0 := by
  refine total_eq_zero.mpr fun t there => ?_
  obtain ⟨request, rfl⟩ := (Thread.external_cases acted).born t there
  exact idle request

theorem Keyed.external (keyed : Keyed w) (same : External w w' born) : Keyed w' :=
  ⟨by rw [same.db, same.nextId]; exact keyed.bounded, by rw [same.db]; exact keyed.unique⟩

/-- Each position is one of a call that holds its row. -/
theorem Thread.row_of_position (position : t.recording = some id ∨ t.comparing = some id ∨
    t.marking = some id ∨ t.expiring = some id ∨ t.renewing = some id) :
    ∃ otp, t.row = some otp ∧ otp.id = id := by
  cases t with
  | verify c =>
    simp only [recording, comparing, marking, expiring, renewing] at position
    cases pc : c.pc <;> simp [pc] at position <;>
      exact ⟨_, by rw [row, pc, VerifyPc.row], position⟩
  | resend c =>
    simp only [recording, comparing, marking, expiring, renewing] at position
    cases pc : c.pc <;> simp [pc] at position
    exact ⟨_, by rw [row, pc, ResendPc.row], position⟩
  | authenticating | refused | send =>
    simp [recording, comparing, marking, expiring, renewing] at position

theorem Thread.start_row (request : Request) : (Thread.start request).row = none := by
  unfold start
  split <;> rfl

/-- Where a send starts. -/
theorem SendCall.start_pc {keyRecord : ApiKey} {request : Request} {c : SendCall}
    (started : SendCall.start keyRecord request = .ok c) :
    (∃ key, c.pc = .lookup key) ∨ (∃ description, c.pc = .deduct description) ∨
      c.pc = .answered .crashed [] := by
  unfold start at started
  dsimp only at started
  split at started
  · cases started
  · split at started
    · cases started
    · injection started with started
      rw [← started]
      dsimp only
      split
      · unfold textOr
        split
        · exact Or.inl ⟨_, rfl⟩
        · exact Or.inr (Or.inr rfl)
      · exact Or.inr (describe_cases _)

theorem VerifyCall.start_pc {keyRecord : ApiKey} {request : Request} {c : VerifyCall}
    (started : VerifyCall.start keyRecord request = .ok c) : c.pc = .findRow := by
  unfold start at started
  dsimp only at started
  split at started
  · split at started
    · unfold requestIdText at started
      split at started <;> cases started
      rfl
    · cases started
  · cases started

theorem ResendCall.start_pc {keyRecord : ApiKey} {request : Request} {c : ResendCall}
    (started : ResendCall.start keyRecord request = .ok c) : c.pc = .findRow := by
  unfold start at started
  split at started
  · cases started
  · split at started
    · cases started
    · unfold requestIdText at started
      split at started <;> cases started
      rfl

/-- A handler has not read anything when it starts. -/
theorem Thread.handler_row (keyRecord : ApiKey) (request : Request) :
    (handler keyRecord request).row = none := by
  unfold handler of
  cases request.action with
  | send =>
    dsimp only
    split <;> rfl
  | verify =>
    dsimp only
    split
    next c started => rw [row, VerifyCall.start_pc started, VerifyPc.row]
    · rfl
  | resend =>
    dsimp only
    split
    next c started => rw [row, ResendCall.start_pc started, ResendPc.row]
    · rfl

/-- A call is at one position at a time. -/
theorem Thread.recording_eq_none
    (position : t.comparing = some id ∨ t.marking = some id ∨ t.expiring = some id ∨
      t.renewing = some id) : t.recording = none := by
  cases t with
  | verify c =>
    simp only [recording, comparing, marking, expiring, renewing] at position ⊢
    cases pc : c.pc <;> simp [pc] at position ⊢
  | authenticating | refused | send | resend => rfl

end External

end SelfOtp.Edge
