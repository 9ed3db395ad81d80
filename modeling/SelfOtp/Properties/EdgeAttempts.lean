import SelfOtp.Properties.EdgeRows

/-! The attempts that the Edge function grants for a request. -/
namespace SelfOtp.Edge

open Pool Transition

/-- The row has `n` attempts of at most `m`. -/
structure Attempts (w : World) (id : Id) (n m : ℕ) : Prop where
  keyed : Keyed w
  row : ∃ r ∈ w.db.otpRequests, r.id = id ∧ r.attempts = n ∧ r.maxAttempts = m

/-! ### What is counted -/

/-- `record_otp_attempt` is executed for the row. -/
def Records (id : Id) (p : System) : Label → Prop
  | .resume i _ => ∃ t ∈ p.threads[i]?, t.recording = some id
  | .external _ => False

/-- The submitted code is compared with a hash of the row. -/
def Compares (id : Id) (p : System) : Label → Prop
  | .resume i _ => ∃ t ∈ p.threads[i]?, t.comparing = some id
  | .external _ => False

/-- `record_otp_attempt` returns its result. -/
def ProcedureReturns (id : Id) (p : System) : Label → Prop
  | .resume i a => ∀ t ∈ p.threads[i]?, t.recording = some id → a.ok = true
  | .external _ => True

instance (id : Id) : DecidableRel (Records id)
  | p, .resume i _ => inferInstanceAs (Decidable (∃ t ∈ p.threads[i]?, t.recording = some id))
  | _, .external _ => isFalse fun h => h

instance (id : Id) : DecidableRel (Compares id)
  | p, .resume i _ => inferInstanceAs (Decidable (∃ t ∈ p.threads[i]?, t.comparing = some id))
  | _, .external _ => isFalse fun h => h

instance (id : Id) : DecidableRel (ProcedureReturns id)
  | p, .resume i _ => inferInstanceAs (Decidable (∀ t ∈ p.threads[i]?, t.recording = some id → _))
  | _, .external _ => isTrue trivial

/-- Whether the call is about to compare. -/
def Thread.atComparison (id : Id) (t : Thread) : ℕ := if t.comparing = some id then 1 else 0

section Counts

variable {env : Env} {p q : System} {w w' : World} {t t' : Thread} {a : Answer} {id : Id} {n m k i : ℕ}

@[simp] theorem records_resume (found : p.threads[i]? = some t) :
    Records id p (.resume i a) ↔ t.recording = some id := by
  simp [Records, found]

@[simp] theorem compares_resume (found : p.threads[i]? = some t) :
    Compares id p (.resume i a) ↔ t.comparing = some id := by
  simp [Compares, found]

/-! ### One step -/

theorem Attempts.of_rows (attempts : Attempts w id n m) (rows : RowsStep t a w w')
    (returns : t.recording = some id → a.ok = true) :
    Attempts w' id (n + if t.recording = some id then 1 else 0) m := by
  obtain ⟨r, member, rfl, rfl, rfl⟩ := attempts.row
  obtain ⟨s, there, step⟩ := rows.persists r member
  refine ⟨rows.keyed, s, there, step.id, ?_⟩
  have idle (none_recorded : t.recording = none) :
      (r.attempts + if t.recording = some r.id then 1 else 0) = r.attempts := by
    rw [none_recorded]
    rfl
  cases step with
  | keep unrecorded =>
    rw [if_neg fun recording => Bool.false_ne_true ((unrecorded recording).symm.trans (returns recording))]
    exact ⟨rfl, rfl⟩
  | attempt recording => exact ⟨by rw [if_pos recording], rfl⟩
  | expire expiring => exact ⟨(idle (Thread.recording_eq_none (.inr (.inr (.inl expiring))))).symm, rfl⟩
  | verify marking => exact ⟨(idle (Thread.recording_eq_none (.inr (.inl marking)))).symm, rfl⟩
  | renew renewing => exact ⟨(idle (Thread.recording_eq_none (.inr (.inr (.inr renewing))))).symm, rfl⟩

theorem Attempts.external {born : List Thread} (attempts : Attempts w id n m)
    (same : External w w' born) : Attempts w' id n m :=
  ⟨attempts.keyed.external same, by rw [same.db]; exact attempts.row⟩

/-- A call comes to its comparison through an attempt that was not the last one. -/
theorem Thread.resume_comparing (attempts : Attempts w id n m)
    (resumed : t.resume env w a = some (w', t')) (returns : t.recording = some id → a.ok = true)
    (comparing : t'.comparing = some id) : t.recording = some id ∧ n + 1 < m := by
  cases t with
  | verify c =>
    obtain ⟨c', stepped, rfl⟩ := stepped_eq_some resumed
    have move := (VerifyCall.step_move stepped).1
    simp only [Thread.comparing] at comparing
    generalize at_pc : c.pc = pc at move
    generalize after : c'.pc = pc' at move comparing
    cases move with
    | count otp code counted text =>
      have same : otp.id = id := Option.some.inj comparing
      subst same
      have position : (Thread.verify c).recording = some otp.id := by simp only [recording, at_pc]
      refine ⟨position, ?_⟩
      obtain ⟨r, member, here, rfl, rfl⟩ := attempts.row
      simp only [VerifyCall.step, at_pc, returns position, if_true] at stepped
      rcases Database.recordOtpAttempt_cases w.db otp.id with ⟨-, absent⟩ | ⟨s, there, here', -, answer⟩
      · exact absurd here (absent r member)
      · cases attempts.keyed.unique r member s there (here.trans here'.symm)
        -- an attempt that exhausts the row is answered at once
        by_contra exceeded
        rw [answer, decide_eq_true (not_lt.mp exceeded)] at stepped
        cases stepped
        cases after
    | _ => cases comparing
  | authenticating apiKey request =>
    simp only [resume] at resumed
    split at resumed <;> cases resumed
    next keyRecord accepted =>
      obtain ⟨otp, held, -⟩ := row_of_position (Or.inr (Or.inl comparing))
      rw [handler_row] at held
      cases held
    · cases comparing
  | refused reply => cases resumed
  | send c =>
    obtain ⟨c', -, rfl⟩ := stepped_eq_some resumed
    cases comparing
  | resend c =>
    obtain ⟨c', -, rfl⟩ := stepped_eq_some resumed
    cases comparing

/-! ### Runs -/

/-- The comparisons made and about to be made are no more than the attempts before the last. -/
structure Capped (id : Id) (m : ℕ) (p : System) (k : ℕ) : Prop where
  attempts : ∃ n, Attempts p.shared id n m ∧ k + total (Thread.atComparison id) p.threads ≤ n
  below : k + total (Thread.atComparison id) p.threads ≤ m - 1

theorem Thread.atComparison_eq_zero (away : t.comparing ≠ some id) : t.atComparison id = 0 :=
  if_neg away

theorem total_append_born (id : Id) {event : Event} {born : List Thread}
    (acted : Thread.external w event = some (w', born)) (threads : List Thread) :
    total (Thread.atComparison id) (threads ++ born) = total (Thread.atComparison id) threads := by
  rw [total_append, total_born acted fun request => Thread.atComparison_eq_zero fun comparing => ?_,
    Nat.add_zero]
  obtain ⟨otp, held, -⟩ := Thread.row_of_position (Or.inr (Or.inl comparing))
  rw [Thread.start_row] at held
  cases held

theorem Attempts.step {l : Label} (attempts : Attempts p.shared id n m)
    (returns : ProcedureReturns id p l) (taken : Pool.step (program env) p l = some q) :
    Attempts q.shared id (n + if Records id p l then 1 else 0) m := by
  cases l with
  | resume i a =>
    obtain ⟨t, w', t', found, resumed, rfl⟩ := step_resume taken
    simp only [records_resume found]
    exact attempts.of_rows (Thread.resume_rows attempts.keyed resumed) (returns t (by rw [found]; rfl))
  | external event =>
    obtain ⟨w', born, acted, rfl⟩ := step_external taken
    rw [if_neg (show ¬Records id p (.external event) from fun h => h)]
    exact attempts.external (Thread.external_cases acted)

theorem Capped.step {l : Label} (capped : Capped id m p k) (returns : ProcedureReturns id p l)
    (taken : Pool.step (program env) p l = some q) :
    Capped id m q (k + if Compares id p l then 1 else 0) := by
  obtain ⟨n, attempts, covered⟩ := capped.attempts
  have below := capped.below
  have after := attempts.step returns taken
  cases l with
  | resume i a =>
    obtain ⟨t, w', t', found, resumed, rfl⟩ := step_resume taken
    simp only [records_resume found] at after
    simp only [compares_resume found]
    have balance := total_set (m := Thread.atComparison id) found t'
    have returns := returns t (by rw [found]; rfl)
    -- a new comparison is paid for by the attempt that this very step records
    by_cases comes : t'.comparing = some id
    · obtain ⟨recording, room⟩ := Thread.resume_comparing attempts resumed returns comes
      have leaves : t.comparing ≠ some id := fun comparing => by
        rw [Thread.recording_eq_none (.inl comparing)] at recording
        cases recording
      rw [if_pos recording] at after
      simp only [Thread.atComparison, if_pos comes, if_neg leaves] at balance
      rw [if_neg leaves]
      exact ⟨⟨n + 1, after, by dsimp only; omega⟩, by dsimp only; omega⟩
    -- a comparison made is one less to make
    · have fewer : t'.atComparison id = 0 := Thread.atComparison_eq_zero comes
      have still : (if t.comparing = some id then 1 else 0) +
          total (Thread.atComparison id) (p.threads.set i t') =
            total (Thread.atComparison id) p.threads := by
        simp only [Thread.atComparison] at balance fewer ⊢
        omega
      exact ⟨⟨_, after, by dsimp only; omega⟩, by dsimp only; omega⟩
  | external event =>
    obtain ⟨w', born, acted, rfl⟩ := step_external taken
    have idle : ¬Compares id p (.external event) := fun h => h
    rw [if_neg idle]
    have same := total_append_born id acted p.threads
    refine ⟨⟨_, after, ?_⟩, ?_⟩
    · dsimp only
      omega
    · dsimp only
      omega

/-- Of all verifications of a row with at most `m` attempts, at most `m - 1` come to their
comparison, and the row counts the calls of `record_otp_attempt`. -/
theorem comparisons_lt_max {labels : List Label} (created : Attempts p.shared id 0 m)
    (positive : 1 ≤ m) (none_compares : ∀ t ∈ p.threads, t.comparing ≠ some id)
    (returns : Respects (step (program env)) (ProcedureReturns id) p labels)
    (returned : run (step (program env)) p labels = some q) :
    tally (step (program env)) (Compares id) p labels + total (Thread.atComparison id) q.threads < m ∧
      ∀ r ∈ q.shared.db.otpRequests, r.id = id →
        r.attempts = tally (step (program env)) (Records id) p labels := by
  have idle : total (Thread.atComparison id) p.threads = 0 :=
    total_eq_zero.mpr fun t there => Thread.atComparison_eq_zero (none_compares t there)
  constructor
  -- the bound by the cap of the row, not by the attempts, which other calls raise
  · have capped := run_tally (Capped id m)
      (fun _ _ _ _ capped returns taken => capped.step returns taken)
      (⟨⟨0, created, by omega⟩, by omega⟩ : Capped id m p 0) returns returned
    have below : 0 + tally (step (program env)) (Compares id) p labels +
        total (Thread.atComparison id) q.threads ≤ m - 1 := capped.below
    omega
  · intro r member here
    have attempts := run_tally (fun s n => Attempts s.shared id n m)
      (fun _ _ _ _ attempts returns taken => attempts.step returns taken) created returns returned
    obtain ⟨s, there, here', counted, -⟩ := attempts.row
    rw [attempts.keyed.unique r member s there (here.trans here'.symm), counted, Nat.zero_add]

/-- Two verifications with wrong codes, step by step in turn. -/
theorem comparisons_lt_max_of_two :
    ∃ q, run (step (program sampleEnv)) sampleSent
        (sampleVerify "111111" :: sampleVerify "222222" :: resolve 0 2 ++ resolve 1 3 ++ resolve 0 2) =
          some q ∧
      tally (step (program sampleEnv)) (Compares 10) sampleSent
          (sampleVerify "111111" :: sampleVerify "222222" :: resolve 0 2 ++ resolve 1 3 ++ resolve 0 2) +
        total (Thread.atComparison 10) q.threads < 5 ∧
      ∀ r ∈ q.shared.db.otpRequests, r.id = 10 →
        r.attempts = tally (step (program sampleEnv)) (Records 10) sampleSent
          (sampleVerify "111111" :: sampleVerify "222222" :: resolve 0 2 ++ resolve 1 3 ++ resolve 0 2) :=
  ⟨_, (Option.some_get (by decide +kernel)).symm,
    comparisons_lt_max (p := sampleSent)
      ⟨⟨by decide +kernel, by decide +kernel⟩, sampleRow, by decide +kernel, rfl, rfl, rfl⟩ (by decide)
      (by decide +kernel) (by decide +kernel) (Option.some_get (by decide +kernel)).symm⟩

end Counts

end SelfOtp.Edge
