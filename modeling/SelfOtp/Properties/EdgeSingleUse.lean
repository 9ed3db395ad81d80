import SelfOtp.Properties.EdgeRows

/-! The Edge function verifies a request once, as long as no verification overtakes another call. -/
namespace SelfOtp.Edge

open Pool Transition

namespace Thread

/-- The verification has answered with success for the row. -/
def succeeded (id : Id) : Thread → Bool
  | verify c =>
    match c.pc with
    | .answered (.verified data) => data.id == id
    | _ => false
  | authenticating .. | refused _ | send _ | resend _ => false

/-- The call has read the row and may still set its status, other than by exhausting the attempts. -/
def unsettled (env : Env) (id : Id) : Thread → Bool
  | verify c =>
    match c.pc with
    | .expire otp | .markVerified otp _ => otp.id == id
    | .recordAttempt otp =>
      otp.id == id && c.code.toText.any fun code => hashOtp env code.trim == otp.otpHash
    | .compare otp code _ => otp.id == id && hashOtp env code.trim == otp.otpHash
    | .findRow | .answered _ => false
  | resend c => c.pc.row.any (·.id == id)
  | authenticating .. | refused _ | send _ => false

/-- Whether the call is about to record an attempt. -/
def atRecord (id : Id) (t : Thread) : ℕ := if t.recording = some id then 1 else 0

end Thread

/-! ### The condition -/

/-- The attempts that calls are about to record do not exhaust the row. -/
def Room (id : Id) (p : System) (r : OtpRequest) : Prop :=
  total (Thread.atRecord id) p.threads = 0 ∨
    r.attempts + total (Thread.atRecord id) p.threads < r.maxAttempts

/-- A call marks the row verified only if the update is made, no other call is about to set the status
of the row, and the attempts about to be recorded do not exhaust it. -/
def MarksAlone (env : Env) (id : Id) (p : System) : Label → Prop
  | .resume i a => ∀ t ∈ p.threads[i]?, t.marking = some id →
      a.ok = true ∧ total (fun t => (t.unsettled env id).toNat) p.threads ≤ 1 ∧
        ∀ r ∈ p.shared.db.otpRequests, r.id = id → Room id p r
  | .external _ => True

instance (id : Id) (p : System) (r : OtpRequest) : Decidable (Room id p r) :=
  inferInstanceAs (Decidable (_ ∨ _))

instance (env : Env) (id : Id) : DecidableRel (MarksAlone env id)
  | p, .resume i _ => inferInstanceAs (Decidable (∀ t ∈ p.threads[i]?, t.marking = some id → _))
  | _, .external _ => isTrue trivial

/-- Only verifications are posted. -/
def PostsVerify : Label → Prop
  | .external (.post request) => request.action = .verify
  | .external (.tick _) | .resume .. => True

instance : DecidablePred PostsVerify
  | .external (.post request) => inferInstanceAs (Decidable (request.action = .verify))
  | .external (.tick _) | .resume .. => isTrue trivial

section Steps

variable {env : Env} {p q : System} {w w' : World} {t t' : Thread} {a : Answer} {r : OtpRequest}
  {id : Id} {n i : ℕ}

/-! ### One step -/

/-- A call about to mark or expire the row, or about to renew it, is unsettled. -/
theorem Thread.position_of_settled (settled : t.unsettled env id = false) :
    t.marking ≠ some id ∧ t.expiring ≠ some id ∧ t.renewing ≠ some id := by
  cases t with
  | verify c =>
    simp only [unsettled] at settled
    simp only [marking, expiring, renewing]
    cases pc : c.pc <;> simp_all
  | resend c =>
    simp only [unsettled] at settled
    simp only [marking, expiring, renewing]
    cases pc : c.pc <;> simp_all [ResendPc.row]
  | authenticating | refused | send => simp [marking, expiring, renewing]

theorem Thread.settled_of_row (unread : t.row = none) :
    t.unsettled env id = false ∧ t.recording ≠ some id := by
  refine ⟨?_, fun recording => ?_⟩
  · cases t with
    | verify c =>
      simp only [row] at unread
      simp only [unsettled]
      cases pc : c.pc <;> simp [pc, VerifyPc.row] at unread ⊢
    | resend c =>
      simp only [row] at unread
      simp only [unsettled, unread, Option.any_none]
    | authenticating | refused | send => rfl
  · obtain ⟨otp, held, -⟩ := row_of_position (Or.inl recording)
    rw [unread] at held
    cases held

/-- Success is answered by the call that marks the row, and by no other step. -/
theorem Thread.resume_succeeded (id : Id) (resumed : t.resume env w a = some (w', t')) :
    t.succeeded id = false ∧ (t'.succeeded id = true ↔ t.marking = some id) := by
  cases t with
  | verify c =>
    obtain ⟨c', stepped, rfl⟩ := stepped_eq_some resumed
    have move := (VerifyCall.step_move stepped).1
    simp only [succeeded, marking]
    generalize c.pc = pc at move ⊢
    generalize c'.pc = pc' at move ⊢
    cases move <;> simp [notFound, alreadyVerified, VerifyCall.invalidCode, errorResponse]
  | authenticating apiKey request =>
    simp only [resume] at resumed
    split at resumed <;> cases resumed
    next keyRecord accepted =>
      refine ⟨rfl, ?_⟩
      unfold handler of
      cases request.action with
      | send =>
        dsimp only
        split <;> simp [succeeded, marking]
      | verify =>
        dsimp only
        split
        next c started => simp [succeeded, marking, VerifyCall.start_pc started]
        · simp [succeeded, marking]
      | resend =>
        dsimp only
        split <;> simp [succeeded, marking]
    · simp [succeeded, marking]
  | refused reply => cases resumed
  | send c =>
    obtain ⟨c', -, rfl⟩ := stepped_eq_some resumed
    simp [succeeded, marking]
  | resend c =>
    obtain ⟨c', -, rfl⟩ := stepped_eq_some resumed
    simp [succeeded, marking]

/-- While the row is verified, a call that is settled stays so, and none comes to record an attempt. -/
theorem Thread.resume_settled (keyed : Keyed w) (member : r ∈ w.db.otpRequests) (here : r.id = id)
    (verified : r.status = .verified) (settled : t.unsettled env id = false)
    (resumed : t.resume env w a = some (w', t')) :
    t'.unsettled env id = false ∧ t'.recording ≠ some id := by
  -- a row that is read and not verified is another one
  have elsewhere {customerId : Id} {requestId : JsString} {otp : OtpRequest}
      (found : single (w.db.findOtpRequests customerId requestId) = some otp)
      (unverified : otp.status ≠ .verified) : otp.id ≠ id := by
    rintro rfl
    cases keyed.unique r member otp (Database.mem_of_findOtpRequests found) here
    exact unverified verified
  cases t with
  | verify c =>
    obtain ⟨c', stepped, rfl⟩ := stepped_eq_some resumed
    obtain ⟨move, same⟩ := VerifyCall.step_move stepped
    have code : c'.code = c.code := by rw [same, VerifyCall.goto]
    simp only [unsettled] at settled
    simp only [unsettled, recording, code]
    generalize c.pc = pc at move settled
    generalize c'.pc = pc' at move ⊢
    cases move with
    | lapse otp found unverified | read otp found unverified => simp [elsewhere found unverified]
    | count otp code attempts text => simpa [text] using settled
    | agree otp code attempts right => simpa [right] using settled
    | missing | used | expire | exceed | crash | differ | mark => simp
  | resend c =>
    obtain ⟨c', stepped, rfl⟩ := stepped_eq_some resumed
    have move := (ResendCall.step_move stepped).1
    simp only [unsettled] at settled
    refine ⟨?_, fun recording => (by cases recording)⟩
    simp only [unsettled]
    generalize c.pc = pc at move settled
    generalize c'.pc = pc' at move ⊢
    cases move with
    | read otp otpCode found unverified => simp [ResendPc.row, elsewhere found unverified]
    | hash | dispatch => exact settled
    | missing | used | wait | crash | update => rfl
  | authenticating apiKey request =>
    simp only [resume] at resumed
    split at resumed <;> cases resumed
    next keyRecord accepted => exact settled_of_row (handler_row keyRecord request)
    · exact ⟨rfl, fun recording => (by cases recording)⟩
  | refused reply => cases resumed
  | send c =>
    obtain ⟨c', -, rfl⟩ := stepped_eq_some resumed
    exact ⟨rfl, fun recording => (by cases recording)⟩

/-- The call that marks the row leaves it with its attempts, and is done. -/
theorem Thread.resume_marking (marking : t.marking = some id) (up : a.ok = true)
    (resumed : t.resume env w a = some (w', t')) :
    t'.unsettled env id = false ∧ t'.recording ≠ some id ∧
      ∃ now, w'.db.otpRequests = w.db.otpRequests.map fun r =>
        if r.id = id then { r with status := .verified, verifiedAt := some now } else r := by
  cases t with
  | verify c =>
    obtain ⟨c', stepped, rfl⟩ := stepped_eq_some resumed
    simp only [Thread.marking] at marking
    cases pc : c.pc with
    | markVerified otp now =>
      have same : otp.id = id := by simpa [pc] using marking
      subst same
      simp only [VerifyCall.step, pc, up, if_true] at stepped
      cases stepped
      exact ⟨rfl, fun recording => (by cases recording), now, rfl⟩
    | findRow | expire | recordAttempt | compare | answered => simp [pc] at marking
  | authenticating | refused | send | resend => cases marking

/-! ### Runs -/

/-- The row with the id is verified. -/
def Verified (w : World) (id : Id) : Prop := ∃ r ∈ w.db.otpRequests, r.id = id ∧ r.status = .verified

/-- The row exists and is not verified, and no verification has succeeded. -/
structure Unverified (id : Id) (p : System) : Prop where
  keyed : Keyed p.shared
  row : ∃ r ∈ p.shared.db.otpRequests, r.id = id ∧ r.status ≠ .verified
  none_succeeded : total (fun t => (t.succeeded id).toNat) p.threads = 0

/-- The row is verified, one verification has succeeded, and no call is left to change the status. -/
structure Sealed (env : Env) (id : Id) (p : System) : Prop where
  keyed : Keyed p.shared
  row : ∃ r ∈ p.shared.db.otpRequests, r.id = id ∧ r.status = .verified ∧ Room id p r
  settled : total (fun t => (t.unsettled env id).toNat) p.threads = 0
  one_succeeded : total (fun t => (t.succeeded id).toNat) p.threads = 1

theorem Unverified.mark (unverified : Unverified id p) (found : p.threads[i]? = some t)
    (resumed : t.resume env p.shared a = some (w', t')) (marking : t.marking = some id)
    (alone : MarksAlone env id p (.resume i a)) : Sealed env id ⟨w', p.threads.set i t'⟩ := by
  obtain ⟨r, member, rfl, status⟩ := unverified.row
  obtain ⟨up, one_unsettled, room⟩ := alone t (by rw [found]; rfl) marking
  obtain ⟨settled, recorded, now, marked⟩ := Thread.resume_marking marking up resumed
  obtain ⟨before, after⟩ := Thread.resume_succeeded r.id resumed
  have successes := total_set (m := fun t => (t.succeeded r.id).toNat) found t'
  have unsettled := total_set (m := fun t => (t.unsettled env r.id).toNat) found t'
  have records := total_set (m := Thread.atRecord r.id) found t'
  have none_succeeded := unverified.none_succeeded
  -- the only call that counted as unsettled is the one that is now done
  have counts : t.unsettled env r.id = true := by
    by_contra settled
    exact (Thread.position_of_settled (Bool.eq_false_iff.mpr settled)).1 marking
  refine ⟨(Thread.resume_rows unverified.keyed resumed).keyed,
    ⟨{ r with status := .verified, verifiedAt := some now }, ?_, rfl, rfl, ?_⟩, ?_, ?_⟩
  · rw [marked]
    exact List.mem_map.mpr ⟨r, member, if_pos rfl⟩
  -- the marking call itself records nothing, so the room is what it was
  · have idle : t.atRecord r.id = 0 := by
      rw [Thread.atRecord, Thread.recording_eq_none (.inr (.inl marking))]
      rfl
    have away : t'.atRecord r.id = 0 := if_neg recorded
    have room := room r member rfl
    simp only [Room] at room ⊢
    omega
  · simp only [counts, settled, Bool.toNat_true, Bool.toNat_false] at unsettled
    dsimp only
    omega
  · simp only [before, after.mpr marking, Bool.toNat_true, Bool.toNat_false] at successes
    dsimp only
    omega

theorem Unverified.keep (unverified : Unverified id p) (found : p.threads[i]? = some t)
    (resumed : t.resume env p.shared a = some (w', t')) (elsewhere : t.marking ≠ some id) :
    Unverified id ⟨w', p.threads.set i t'⟩ := by
  obtain ⟨r, member, rfl, status⟩ := unverified.row
  have rows := Thread.resume_rows unverified.keyed resumed
  obtain ⟨before, after⟩ := Thread.resume_succeeded r.id resumed
  have successes := total_set (m := fun t => (t.succeeded r.id).toNat) found t'
  have none_succeeded := unverified.none_succeeded
  have not_succeeded : t'.succeeded r.id = false := Bool.eq_false_iff.mpr fun succeeded =>
    elsewhere (after.mp succeeded)
  obtain ⟨s, there, step⟩ := rows.persists r member
  refine ⟨rows.keyed, ⟨s, there, step.id, fun verified => (step.marks verified).elim elsewhere status⟩, ?_⟩
  simp only [before, not_succeeded, Bool.toNat_false] at successes
  dsimp only
  omega

/-- Nothing that is left to run changes the status of a verified row. -/
theorem Sealed.resume (done : Sealed env id p)
    (found : p.threads[i]? = some t) (resumed : t.resume env p.shared a = some (w', t')) :
    Sealed env id ⟨w', p.threads.set i t'⟩ := by
  obtain ⟨r, member, rfl, verified, room⟩ := done.row
  have rows := Thread.resume_rows done.keyed resumed
  have settled : t.unsettled env r.id = false := by
    have none_unsettled := total_eq_zero.mp done.settled t (List.mem_of_getElem? found)
    simpa using none_unsettled
  obtain ⟨marking, expiring, renewing⟩ := Thread.position_of_settled settled
  obtain ⟨still, recorded⟩ := Thread.resume_settled done.keyed member rfl verified settled resumed
  obtain ⟨before, after⟩ := Thread.resume_succeeded r.id resumed
  have successes := total_set (m := fun t => (t.succeeded r.id).toNat) found t'
  have unsettled := total_set (m := fun t => (t.unsettled env r.id).toNat) found t'
  have records := total_set (m := Thread.atRecord r.id) found t'
  have away : t'.atRecord r.id = 0 := if_neg recorded
  have not_succeeded : t'.succeeded r.id = false := Bool.eq_false_iff.mpr fun succeeded =>
    marking (after.mp succeeded)
  have none_unsettled := done.settled
  have one_succeeded := done.one_succeeded
  obtain ⟨s, there, step⟩ := rows.persists r member
  refine ⟨rows.keyed, ⟨s, there, step.id, ?_⟩, ?_, ?_⟩
  · simp only [Room] at room ⊢
    -- of all that could change the status, only an attempt is left, and it does not exhaust the row
    cases step with
    | keep => exact ⟨verified, by omega⟩
    | attempt recording =>
      -- the attempt about to be recorded was counted in the room
      have counted : t.atRecord r.id = 1 := if_pos recording
      have within : ¬r.maxAttempts ≤ r.attempts + 1 := by omega
      exact ⟨by rw [if_neg within]; exact verified, by dsimp only; omega⟩
    | expire expires => exact absurd expires expiring
    | verify marks => exact absurd marks marking
    | renew renews => exact absurd renews renewing
  · simp only [settled, still, Bool.toNat_false] at unsettled
    dsimp only
    omega
  · simp only [before, not_succeeded, Bool.toNat_false] at successes
    dsimp only
    omega

theorem Thread.start_succeeded (request : Request) : (start request).succeeded id = false := by
  unfold start
  split <;> rfl

theorem Unverified.external {event : Event} {born : List Thread}
    (unverified : Unverified id p) (acted : Thread.external p.shared event = some (w', born)) :
    Unverified id ⟨w', p.threads ++ born⟩ := by
  have same := Thread.external_cases acted
  refine ⟨unverified.keyed.external same, by rw [same.db]; exact unverified.row, ?_⟩
  rw [total_append, unverified.none_succeeded, total_born acted fun request => ?_]
  rw [Thread.start_succeeded, Bool.toNat_false]

theorem Sealed.external {event : Event} {born : List Thread}
    (done : Sealed env id p) (acted : Thread.external p.shared event = some (w', born)) :
    Sealed env id ⟨w', p.threads ++ born⟩ := by
  have same := Thread.external_cases acted
  have settled (request : Request) : (Thread.start request).unsettled env id = false ∧
      (Thread.start request).recording ≠ some id :=
    Thread.settled_of_row (Thread.start_row request)
  have recorded := total_born (m := Thread.atRecord id) acted fun request => if_neg (settled request).2
  refine ⟨done.keyed.external same, ?_, ?_, ?_⟩
  · obtain ⟨r, member, here, verified, room⟩ := done.row
    refine ⟨r, by rw [same.db]; exact member, here, verified, ?_⟩
    simp only [Room, total_append, recorded, Nat.add_zero] at room ⊢
    exact room
  · rw [total_append, done.settled, total_born acted fun request => ?_]
    rw [(settled request).1, Bool.toNat_false]
  · rw [total_append, done.one_succeeded, total_born acted fun request => ?_]
    rw [Thread.start_succeeded, Bool.toNat_false]

theorem Sealed.step {l : Label} (done : Sealed env id p)
    (taken : Pool.step (program env) p l = some q) : Sealed env id q := by
  cases l with
  | resume i a =>
    obtain ⟨t, w', t', found, resumed, rfl⟩ := step_resume taken
    exact done.resume found resumed
  | external event =>
    obtain ⟨w', born, acted, rfl⟩ := step_external taken
    exact done.external acted

theorem Unverified.step {l : Label} (unverified : Unverified id p) (alone : MarksAlone env id p l)
    (taken : Pool.step (program env) p l = some q) : Unverified id q ∨ Sealed env id q := by
  cases l with
  | resume i a =>
    obtain ⟨t, w', t', found, resumed, rfl⟩ := step_resume taken
    by_cases marking : t.marking = some id
    · exact Or.inr (unverified.mark found resumed marking alone)
    · exact Or.inl (unverified.keep found resumed marking)
  | external event =>
    obtain ⟨w', born, acted, rfl⟩ := step_external taken
    exact Or.inl (unverified.external acted)

theorem Unverified.not_verified (unverified : Unverified id p) : ¬Verified p.shared id := by
  rintro ⟨s, there, here, verified⟩
  obtain ⟨r, member, same, open_status⟩ := unverified.row
  cases unverified.keyed.unique r member s there (same.trans here.symm)
  exact open_status verified

theorem unverified_or_sealed {labels : List Label} (unverified : Unverified id p)
    (alone : Respects (step (program env)) (MarksAlone env id) p labels)
    (returned : run (step (program env)) p labels = some q) : Unverified id q ∨ Sealed env id q := by
  refine run_invariant_of_respects (fun s => Unverified id s ∨ Sealed env id s) ?_ (Or.inl unverified)
    alone returned
  rintro s l t (unverified | done) alone taken
  · exact unverified.step alone taken
  · exact Or.inr (done.step taken)

/-- In a run in which every call marks the row alone, at most one verification succeeds, and once the
row is verified it stays so. -/
theorem verified_once {labels later : List Label} {q' : System} (unverified : Unverified id p)
    (alone : Respects (step (program env)) (MarksAlone env id) p (labels ++ later))
    (reached : run (step (program env)) p labels = some q)
    (returned : run (step (program env)) q later = some q') :
    total (fun t => (t.succeeded id).toNat) q'.threads ≤ 1 ∧
      (Verified q.shared id → Verified q'.shared id) := by
  obtain ⟨first, second⟩ := alone.append reached
  -- whether the row has been marked before or only after the state `q`, or never
  rcases unverified_or_sealed unverified first reached with still | done
  · rcases unverified_or_sealed still second returned with never | done
    · exact ⟨never.none_succeeded.trans_le (Nat.zero_le 1), fun verified => absurd verified still.not_verified⟩
    · obtain ⟨r, member, here, verified, -⟩ := done.row
      exact ⟨done.one_succeeded.le, fun _ => ⟨r, member, here, verified⟩⟩
  · have done := run_invariant (Sealed env id) (fun _ _ _ done taken => done.step taken) done returned
    obtain ⟨r, member, here, verified, -⟩ := done.row
    exact ⟨done.one_succeeded.le, fun _ => ⟨r, member, here, verified⟩⟩

/-- A wrong code and then the right one, while a third verification is about to record its attempt. -/
theorem verified_once_of_three :
    ∃ q q', run (step (program sampleEnv)) sampleSent (sampleVerify "111111" ::
        sampleVerify "222222" :: sampleVerify "123456" :: resolve 0 4 ++ resolve 1 2 ++ resolve 2 5) = some q ∧
      run (step (program sampleEnv)) q (resolve 1 2) = some q' ∧
      total (fun t => (t.succeeded 10).toNat) q'.threads ≤ 1 ∧
      (Verified q.shared 10 → Verified q'.shared 10) :=
  ⟨_, _, (Option.some_get (by decide +kernel)).symm, (Option.some_get (by decide +kernel)).symm,
    verified_once (p := sampleSent)
      ⟨⟨by decide +kernel, by decide +kernel⟩, ⟨sampleRow, by decide +kernel, rfl, by decide⟩,
        by decide +kernel⟩
      (by decide +kernel) (Option.some_get (by decide +kernel)).symm (Option.some_get (by decide +kernel)).symm⟩

/-- Two verifications with the right code, step by step in turn, both succeed. -/
theorem verified_twice :
    ¬∀ (env : Env) (p q : System) (id : Id) (labels : List Label), p.threads = [] →
      Unverified id p → (∀ l ∈ labels, PostsVerify l) →
      run (step (program env)) p labels = some q →
      total (fun t => (t.succeeded id).toNat) q.threads ≤ 1 := by
  intro once
  have violated := once sampleEnv sampleSent _ 10
    (sampleVerify "123456" :: sampleVerify "123456" :: resolve 0 2 ++ resolve 1 2 ++ resolve 0 3 ++ resolve 1 3)
    rfl ⟨⟨by decide +kernel, by decide +kernel⟩, ⟨sampleRow, by decide +kernel, rfl, by decide⟩, rfl⟩
    (by decide +kernel) (Option.some_get (by decide +kernel)).symm
  revert violated
  decide +kernel

end Steps

end SelfOtp.Edge
