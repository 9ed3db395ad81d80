import SelfOtp.Properties.EdgeRequests

/-! What the Edge function answers to the current code of a request, when no other call interferes. -/
namespace SelfOtp.Edge

open Pool Transition

/-- The request submits the current code of the row. -/
structure Submits (env : Env) (w : World) (r : OtpRequest) (keyRecord : ApiKey) (request : Request)
    (submitted : Json) : Prop where
  action : request.action = .verify
  apiKey : ∃ apiKey, request.apiKey = some apiKey ∧ apiKey ≠ "" ∧
    w.db.findApiKey (hashApiKey env apiKey) = some keyRecord
  active : keyRecord.status = .active
  customer : keyRecord.customerId = r.customerId
  requestId : request.json.either "request_id" "id" = some (some (.string r.requestId))
  code : request.json.either "code" "otp" = some (some submitted)
  correct : ∃ code, submitted.toText = some code ∧ hashOtp env code = r.otpHash

/-- The request is thread `i` and the only one to arrive, and its calls resolve before the code and the
key expire. -/
def Served (i : ℕ) (r : OtpRequest) (keyRecord : ApiKey) (p : System) : Label → Prop
  | .resume j a => (j = i → a.ok = true) ∧ p.shared.now ≤ r.expiresAt ∧
      ∀ e ∈ keyRecord.expiresAt, p.shared.now ≤ e
  | .external (.tick _) => True
  | .external (.post _) => p.threads.length = i

/-- The code is not refused, and the row takes the attempt. -/
structure Accepts (r : OtpRequest) (submitted : Json) : Prop where
  truthy : submitted.truthy = true
  unverified : r.status ≠ .verified
  attempt : r.attempts + 1 < r.maxAttempts

instance (i : ℕ) (r : OtpRequest) (keyRecord : ApiKey) : DecidableRel (Served i r keyRecord)
  | p, .resume j a => inferInstanceAs (Decidable ((j = i → a.ok = true) ∧ p.shared.now ≤ r.expiresAt ∧
      ∀ e ∈ keyRecord.expiresAt, p.shared.now ≤ e))
  | _, .external (.tick _) => isTrue trivial
  | p, .external (.post _) => inferInstanceAs (Decidable (p.threads.length = i))

/-- The verification once the key has been accepted. -/
def submission (r : OtpRequest) (submitted : Json) (pc : VerifyPc) : Thread :=
  .verify ⟨r.customerId, r.requestId, submitted, pc⟩

/-- Where the verification is, in the world `w'`, that arrived in the world `w`. -/
inductive Submission (r : OtpRequest) (request : Request) (submitted : Json) (w w' : World) : Thread → Prop
  | authenticating (apiKey : String) (same : request.apiKey = some apiKey)
      (apiKeys : w'.db.apiKeys = w.db.apiKeys) (rows : w'.db.otpRequests = w.db.otpRequests) :
      Submission r request submitted w w' (.authenticating apiKey request)
  | findRow (truthy : submitted.truthy = true) (rows : w'.db.otpRequests = w.db.otpRequests) :
      Submission r request submitted w w' (submission r submitted .findRow)
  | recordAttempt (truthy : submitted.truthy = true) (unverified : r.status ≠ .verified)
      (rows : w'.db.otpRequests = w.db.otpRequests) :
      Submission r request submitted w w' (submission r submitted (.recordAttempt r))
  | compare (accepts : Accepts r submitted) (code : JsString) (text : submitted.toText = some code)
      (attempts : Option ℕ) :
      Submission r request submitted w w' (submission r submitted (.compare r code attempts))
  | markVerified (accepts : Accepts r submitted) (now : Millis) :
      Submission r request submitted w w' (submission r submitted (.markVerified r now))
  | answered (t : Thread) (reply : Reply) (replied : t.reply = some reply)
      (outcome : (∃ now, reply = .verified ⟨r.id, r.requestId, now⟩) ↔ Accepts r submitted) :
      Submission r request submitted w w' t

section Steps

variable {env : Env} {p q : System} {w w' w'' : World} {t t' : Thread} {a : Answer} {r : OtpRequest}
  {keyRecord : ApiKey} {request : Request} {submitted : Json} {i : ℕ}

/-- The handler takes a truthy code and refuses any other. -/
theorem Submits.handler (submits : Submits env w r keyRecord request submitted)
    (named : r.requestId ≠ []) :
    Thread.handler keyRecord request = if submitted.truthy then submission r submitted .findRow
      else .refused (errorResponse "request_id and code are required" "VALIDATION_ERROR" 400) := by
  have given : (some (Json.string r.requestId)).filter Json.truthy = some (.string r.requestId) := by
    simp [Option.filter, Json.truthy, named]
  unfold Thread.handler
  rw [submits.action]
  dsimp only
  unfold VerifyCall.start
  simp only [submits.requestId, submits.code, given]
  cases truthy : submitted.truthy with
  | true =>
    simp [Option.filter, truthy, requestIdText, Json.toText, Thread.of, submission, submits.customer]
  | false => simp [Option.filter, truthy, Thread.of]

/-- The verification depends on the keys and the rows only. -/
theorem Submission.of_same (stage : Submission r request submitted w w' t)
    (apiKeys : w''.db.apiKeys = w'.db.apiKeys) (rows : w''.db.otpRequests = w'.db.otpRequests) :
    Submission r request submitted w w'' t := by
  cases stage with
  | authenticating apiKey same keys old => exact .authenticating apiKey same (apiKeys.trans keys) (rows.trans old)
  | findRow truthy old => exact .findRow truthy (rows.trans old)
  | recordAttempt truthy unverified old => exact .recordAttempt truthy unverified (rows.trans old)
  | compare accepts code text attempts => exact .compare accepts code text attempts
  | markVerified accepts now => exact .markVerified accepts now
  | answered t reply replied outcome => exact .answered t reply replied outcome

/-- An error is answered to a code that is not accepted. -/
theorem Submission.refused {message : JsString} {code : String} {status : ℕ}
    (replied : t.reply = some (.error message code status)) (rejects : ¬Accepts r submitted) :
    Submission r request submitted w w' t := by
  refine .answered t _ replied ⟨?_, fun accepts => absurd accepts rejects⟩
  rintro ⟨now, wrong⟩
  cases wrong

theorem Submission.authenticate {apiKey : String} (submits : Submits env w r keyRecord request submitted)
    (named : r.requestId ≠ []) (same : request.apiKey = some apiKey)
    (apiKeys : w'.db.apiKeys = w.db.apiKeys) (rows : w'.db.otpRequests = w.db.otpRequests)
    (valid : ∀ e ∈ keyRecord.expiresAt, w'.now ≤ e) (up : a.ok = true)
    (resumed : (Thread.authenticating apiKey request).resume env w' a = some (w'', t')) :
    Submission r request submitted w w'' t' := by
  obtain ⟨key, presented, -, registered⟩ := submits.apiKey
  rw [same] at presented
  cases presented
  have current : keyRecord.expiresAt.any (· < w'.now) = false := by
    cases expires : keyRecord.expiresAt with
    | none => rfl
    | some e => simpa using valid e expires
  have accepted : authenticateApiKey env w' apiKey a.ok = .ok keyRecord := by
    have found : w'.db.findApiKey (hashApiKey env apiKey) = some keyRecord := by
      rw [← registered, Database.findApiKey, Database.findApiKey, apiKeys]
    simp [authenticateApiKey, up, found, submits.active, current]
  simp only [Thread.resume, accepted, submits.handler named] at resumed
  cases resumed
  cases truthy : submitted.truthy with
  | true => exact .findRow truthy rows
  | false => exact .refused rfl fun accepts => Bool.false_ne_true (truthy.symm.trans accepts.truthy)

theorem Submission.find (requests : Requests p) (member : r ∈ p.shared.db.otpRequests)
    (truthy : submitted.truthy = true) (rows : w'.db.otpRequests = p.shared.db.otpRequests)
    (in_time : w'.now ≤ r.expiresAt) (up : a.ok = true)
    (resumed : (submission r submitted .findRow).resume env w' a = some (w'', t')) :
    Submission r request submitted p.shared w'' t' := by
  obtain ⟨c', stepped, rfl⟩ := Thread.stepped_eq_some resumed
  have found : single (w'.db.findOtpRequests r.customerId r.requestId) = some r := by
    rw [← requests.find member, Database.findOtpRequests, Database.findOtpRequests, rows]
  simp only [VerifyCall.step, up, if_true, found, if_neg (not_lt.mpr in_time)] at stepped
  split at stepped <;> cases stepped
  next verified => exact .refused rfl fun accepts => accepts.unverified verified
  next unverified => exact .recordAttempt truthy unverified rows

theorem Submission.record (keyed : Keyed p.shared) (member : r ∈ p.shared.db.otpRequests)
    (text : ∃ code, submitted.toText = some code) (truthy : submitted.truthy = true)
    (unverified : r.status ≠ .verified) (rows : w'.db.otpRequests = p.shared.db.otpRequests)
    (up : a.ok = true)
    (resumed : (submission r submitted (.recordAttempt r)).resume env w' a = some (w'', t')) :
    Submission r request submitted p.shared w'' t' := by
  obtain ⟨c', stepped, rfl⟩ := Thread.stepped_eq_some resumed
  obtain ⟨code, text⟩ := text
  have answer : (w'.db.recordOtpAttempt r.id).2 =
      .found (r.attempts + 1) r.maxAttempts (decide (r.maxAttempts ≤ r.attempts + 1)) := by
    rcases Database.recordOtpAttempt_cases w'.db r.id with ⟨-, absent⟩ | ⟨s, there, here, -, answer⟩
    · exact absurd rfl (absent r (rows ▸ member))
    · cases keyed.unique s (rows ▸ there) r member here
      exact answer
  simp only [VerifyCall.step, up, if_true, answer, text] at stepped
  -- the procedure counts first: the attempt that reaches the maximum is refused, whatever the code
  by_cases exceeded : r.maxAttempts ≤ r.attempts + 1
  · rw [decide_eq_true exceeded] at stepped
    cases stepped
    exact .refused rfl fun accepts => absurd accepts.attempt (not_lt.mpr exceeded)
  · rw [decide_eq_false exceeded] at stepped
    cases stepped
    exact .compare ⟨truthy, unverified, not_le.mp exceeded⟩ code text _

/-- The verification goes on to its answer. -/
theorem Submission.resume (requests : Requests p) (member : r ∈ p.shared.db.otpRequests)
    (submits : Submits env p.shared r keyRecord request submitted)
    (stage : Submission r request submitted p.shared w' t) (in_time : w'.now ≤ r.expiresAt)
    (valid : ∀ e ∈ keyRecord.expiresAt, w'.now ≤ e) (up : a.ok = true)
    (resumed : t.resume env w' a = some (w'', t')) : Submission r request submitted p.shared w'' t' := by
  obtain ⟨code, text, correct⟩ := submits.correct
  cases stage with
  | authenticating apiKey same apiKeys rows =>
    have named : r.requestId ≠ [] := by
      obtain ⟨uuid, name⟩ := requests.named _ (List.mem_map_of_mem member)
      exact name ▸ newRequestId_ne_nil uuid
    exact .authenticate submits named same apiKeys rows valid up resumed
  | findRow truthy rows => exact .find requests member truthy rows in_time up resumed
  | recordAttempt truthy unverified rows =>
    exact .record requests.keyed member ⟨code, text⟩ truthy unverified rows up resumed
  | compare accepts other same attempts =>
    obtain ⟨c', stepped, rfl⟩ := Thread.stepped_eq_some resumed
    rw [text] at same
    cases same
    simp only [VerifyCall.step, hashOtp_trim, correct, ne_eq, not_true, if_false] at stepped
    cases stepped
    exact .markVerified accepts w'.now
  | markVerified accepts now =>
    obtain ⟨c', stepped, rfl⟩ := Thread.stepped_eq_some resumed
    simp only [VerifyCall.step] at stepped
    cases stepped
    exact .answered _ _ rfl ⟨fun _ => accepts, fun _ => ⟨now, rfl⟩⟩
  | answered t reply replied outcome =>
    obtain ⟨-, same⟩ := Thread.resume_replied (by rw [replied]; rfl) resumed
    exact .answered t' reply (same.trans replied) outcome

/-! ### Runs -/

/-- Thread `i` is the verification, and all others have been answered. -/
structure Submitted (r : OtpRequest) (request : Request) (submitted : Json) (w : World) (i : ℕ)
    (p : System) : Prop where
  stage : ∃ t, p.threads[i]? = some t ∧ Submission r request submitted w p.shared t
  others : ∀ j t, j ≠ i → p.threads[j]? = some t → t.reply.isSome = true

theorem Submitted.arrival (submits : Submits env p.shared r keyRecord request submitted)
    (answered : ∀ t ∈ p.threads, t.reply.isSome = true)
    (taken : step (program env) p (.external (.post request)) = some q) :
    Submitted r request submitted p.shared p.threads.length q := by
  obtain ⟨w', born, acted, rfl⟩ := step_external taken
  cases acted
  obtain ⟨apiKey, presented, nonempty, -⟩ := submits.apiKey
  constructor
  case stage =>
    refine ⟨Thread.start request, by simp, ?_⟩
    have starts : Thread.start request = .authenticating apiKey request := by
      simp [Thread.start, presented, Option.filter, nonempty]
    rw [starts]
    exact .authenticating apiKey presented rfl rfl
  case others =>
    intro j t apart found
    -- every thread but the new one has been there before
    have inside : j < p.threads.length := by
      have bound := (List.getElem?_eq_some_iff.mp found).1
      simp only [List.length_append, List.length_singleton] at bound
      omega
    rw [List.getElem?_append_left inside] at found
    exact answered t (List.mem_of_getElem? found)

theorem Submitted.step {s s' : System} {l : Label} (requests : Requests p)
    (member : r ∈ p.shared.db.otpRequests) (submits : Submits env p.shared r keyRecord request submitted)
    (under_way : Submitted r request submitted p.shared i s) (served : Served i r keyRecord s l)
    (taken : Pool.step (program env) s l = some s') : Submitted r request submitted p.shared i s' := by
  obtain ⟨t, found, stage⟩ := under_way.stage
  have inside : i < s.threads.length := (List.getElem?_eq_some_iff.mp found).1
  cases l with
  | resume j a =>
    obtain ⟨u, w', u', there, resumed, rfl⟩ := step_resume taken
    obtain ⟨up, in_time, valid⟩ := served
    by_cases same : j = i
    · subst same
      rw [found] at there
      cases there
      refine ⟨⟨u', List.getElem?_set_self inside,
        stage.resume requests member submits in_time valid (up rfl) resumed⟩, fun k v apart other => ?_⟩
      exact under_way.others k v apart (List.getElem?_set_ne (Ne.symm apart) ▸ other)
    -- another thread has been answered, and its writes do not concern the verification
    · have replied := under_way.others j u same there
      obtain ⟨settled, unchanged⟩ := Thread.resume_replied replied resumed
      refine ⟨⟨t, by rwa [List.getElem?_set_ne same], stage.of_same settled.apiKeys settled.rows⟩,
        fun k v apart other => ?_⟩
      rcases getElem?_set_cases other with ⟨rfl, rfl⟩ | ⟨-, old⟩
      · rw [unchanged]
        exact replied
      · exact under_way.others k v apart old
  | external event =>
    obtain ⟨w', born, acted, rfl⟩ := step_external taken
    cases event with
    | tick d =>
      cases acted
      refine ⟨⟨t, by rw [List.append_nil]; exact found, stage.of_same rfl rfl⟩, fun k v apart other => ?_⟩
      rw [List.append_nil] at other
      exact under_way.others k v apart other
    | post other => exact absurd served inside.ne'

/-- The verification succeeds just when the row accepts the code. -/
theorem verified_iff_accepts {labels : List Label} {reply : Reply} (requests : Requests p)
    (answered : ∀ t ∈ p.threads, t.reply.isSome = true) (member : r ∈ p.shared.db.otpRequests)
    (submits : Submits env p.shared r keyRecord request submitted)
    (served : Respects (step (program env)) (Served p.threads.length r keyRecord) p
      (.external (.post request) :: labels))
    (returned : run (step (program env)) p (.external (.post request) :: labels) = some q)
    (found : q.threads[p.threads.length]? = some t) (replied : t.reply = some reply) :
    (∃ now, reply = .verified ⟨r.id, r.requestId, now⟩) ↔ Accepts r submitted := by
  obtain ⟨s, taken, rest⟩ := run_cons returned
  simp only [Respects, taken] at served
  have final := run_invariant_of_respects (Submitted r request submitted p.shared p.threads.length)
    (fun _ _ _ under_way served taken => under_way.step requests member submits served taken)
    (Submitted.arrival submits answered taken) served.2 rest
  obtain ⟨u, same, stage⟩ := final.stage
  rw [found] at same
  cases same
  cases stage with
  | answered t other told outcome =>
    rw [replied] at told
    cases told
    exact outcome
  | authenticating | findRow | recordAttempt | compare | markVerified => cases replied

end Steps

end SelfOtp.Edge
