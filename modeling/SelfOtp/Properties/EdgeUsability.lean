import SelfOtp.Properties.EdgeSubmission

/-! Whether a code can be used that the last answer of the Edge function calls usable. -/
namespace SelfOtp.Edge

open Pool Transition

/-! ### Answers about a request -/

/-- An answer about the request with the row `id`. `replayed` tells that it is the cached answer of an
earlier send. -/
structure Told where
  id : Id
  reply : Reply
  replayed : Bool
  deriving DecidableEq

/-- The code can be used: it was sent, or attempts remain. -/
def Reply.Usable (reply : Reply) : Prop :=
  (∃ status data, reply = .sent status data ∧ data.status = .sent) ∨ (∃ data, reply = .resent data) ∨
    ∃ remaining : ℤ, 1 ≤ remaining ∧ reply = VerifyCall.invalidCode remaining

namespace Thread

/-- The cached answers are looked up. -/
def replaying : Thread → Bool
  | send c =>
    match c.pc with
    | .lookup _ => true
    | _ => false
  | authenticating .. | refused _ | verify _ | resend _ => false

/-- The row that the answer is about. -/
def subject (w : World) (reply : Reply) : Thread → Option Id
  | send _ =>
    match reply with
    | .sent _ data => some data.id
    | _ => none
  | verify c =>
    match c.pc with
    | .findRow => (single (w.db.findOtpRequests c.customerId c.requestId)).map (·.id)
    | pc => pc.row.map (·.id)
  | resend c =>
    match c.pc with
    | .findRow => (single (w.db.findOtpRequests c.customerId c.requestId)).map (·.id)
    | pc => pc.row.map (·.id)
  | authenticating .. | refused _ => none

/-- What the client is told about a request when the call is answered. -/
def tells (env : Env) (w : World) (a : Answer) (t : Thread) : Option Told :=
  match t.reply, t.resume env w a with
  | none, some (_, t') => t'.reply.bind fun reply => (t.subject w reply).map (⟨·, reply, t.replaying⟩)
  | _, _ => none

end Thread

/-- What the client is told in a step. -/
def tellings (env : Env) (p : System) : Label → List Told
  | .resume i a => (p.threads[i]?.bind (·.tells env p.shared a)).toList
  | .external _ => []

/-- The last answer about a request. -/
def lastTold (id : Id) (log : List Told) : Option Told := (log.filter (·.id == id)).getLast?

/-- A request arrives when all others have been answered. -/
def InTurn (p : System) : Label → Prop
  | .external (.post _) => ∀ t ∈ p.threads, t.reply.isSome = true
  | .external (.tick _) | .resume .. => True

instance : DecidableRel InTurn
  | p, .external (.post _) => inferInstanceAs (Decidable (∀ t ∈ p.threads, t.reply.isSome = true))
  | _, .external (.tick _) | _, .resume .. => isTrue trivial

/-- The call has not been answered. -/
def Thread.unanswered (t : Thread) : ℕ := if t.reply.isNone then 1 else 0

/-- What the answers promise while calls are made in turn. -/
structure Promise (p : System) (log : List Told) : Prop where
  requests : Requests p
  in_turn : total Thread.unanswered p.threads ≤ 1
  held : ∀ t ∈ p.threads, ∀ otp, t.row = some otp →
    ∀ r ∈ p.shared.db.otpRequests, r.id = otp.id → r.status ≠ .verified
  kept : ∀ r ∈ p.shared.db.otpRequests, r.status = .verified →
    ∀ told, lastTold r.id log = some told → told.reply.Usable → told.replayed = true

section Answers

variable {env : Env} {p q : System} {w w' : World} {t t' : Thread} {a : Answer} {r : OtpRequest}
  {id : Id} {told : Told} {log : List Told} {i : ℕ}

theorem Thread.unanswered_le_one (t : Thread) : t.unanswered ≤ 1 := by
  unfold unanswered
  split
  · exact le_refl 1
  · exact Nat.zero_le 1

theorem Thread.unanswered_eq_zero : t.unanswered = 0 ↔ t.reply.isSome = true := by
  unfold unanswered
  cases t.reply <;> simp

theorem lastTold_append (first second : List Told) :
    lastTold id (first ++ second) = (lastTold id second).or (lastTold id first) := by
  simp only [lastTold, List.filter_append, List.getLast?_append]

theorem usable_error {message : JsString} {code : String} {status : ℕ}
    (usable : (Reply.error message code status).Usable) : code = "INVALID_CODE" := by
  rcases usable with ⟨_, _, same, -⟩ | ⟨_, same⟩ | ⟨_, -, same⟩
  · cases same
  · cases same
  · unfold VerifyCall.invalidCode errorResponse at same
    injection same

theorem Thread.tells_eq_some : t.tells env w a = some told ↔ t.reply = none ∧
    ∃ w' t', t.resume env w a = some (w', t') ∧ t'.reply = some told.reply ∧
      t.subject w told.reply = some told.id ∧ told.replayed = t.replaying := by
  unfold tells
  cases t.reply with
  | some reply => simp
  | none =>
    cases resumed : t.resume env w a with
    | none => simp
    | some next =>
      obtain ⟨w', t'⟩ := next
      simp only [Option.bind_eq_some_iff, Option.map_eq_some_iff]
      constructor
      · rintro ⟨reply, replied, id, about, rfl⟩
        exact ⟨trivial, w', t', rfl, replied, about, rfl⟩
      · rintro ⟨-, u, v, same, replied, about, replayed⟩
        cases same
        exact ⟨told.reply, replied, told.id, about, by rw [← replayed]⟩

/-- A usable answer is a cached one, or is about the row inserted with it, or about the row that the
call holds. -/
theorem Thread.tells_usable (tells : t.tells env w a = some told) (usable : told.reply.Usable) :
    told.replayed = true ∨ told.id = w.nextId ∨ ∃ otp, t.row = some otp ∧ otp.id = told.id := by
  obtain ⟨unanswered, w', t', resumed, replied, about, replayed⟩ := tells_eq_some.mp tells
  cases t with
  | send c =>
    obtain ⟨c', stepped, rfl⟩ := stepped_eq_some resumed
    have is_sent : ∃ status data, told.reply = .sent status data ∧ data.id = told.id := by
      simp only [subject] at about
      split at about
      next status data same => exact ⟨status, data, same, Option.some.inj about⟩
      · cases about
    obtain ⟨status, data, sent, here⟩ := is_sent
    have move := (SendCall.step_move stepped).1
    rw [replayed, replaying]
    rw [sent] at replied
    simp only [reply] at replied unanswered
    generalize c.pc = pc at move unanswered ⊢
    generalize c'.pc = pc' at move replied
    cases move with
    | cached => exact Or.inl rfl
    | insert =>
      cases replied
      exact Or.inr (Or.inl here.symm)
    | write => cases unanswered
    | describe | unreadable | refuse | charge | crash | hash | dispatch | fail | refund => cases replied
  | verify c =>
    obtain ⟨c', stepped, rfl⟩ := stepped_eq_some resumed
    have move := (VerifyCall.step_move stepped).1
    simp only [subject] at about
    simp only [row]
    simp only [reply] at replied
    generalize c.pc = pc at move about ⊢
    generalize c'.pc = pc' at move replied
    cases move with
    | missing | used =>
      rw [← Option.some.inj replied] at usable
      exact absurd (usable_error usable) (by decide)
    | lapse | read => cases replied
    | expire otp | exceed otp | crash otp | count otp | differ otp | agree otp | mark otp =>
      exact Or.inr (Or.inr ⟨otp, rfl, Option.some.inj about⟩)
  | resend c =>
    obtain ⟨c', stepped, rfl⟩ := stepped_eq_some resumed
    have move := (ResendCall.step_move stepped).1
    simp only [subject] at about
    simp only [row]
    simp only [reply] at replied
    generalize c.pc = pc at move about ⊢
    generalize c'.pc = pc' at move replied
    cases move with
    | missing | used | wait =>
      rw [← Option.some.inj replied] at usable
      exact absurd (usable_error usable) (by decide)
    | crash =>
      rw [← Option.some.inj replied] at usable
      rcases usable with ⟨_, _, same, -⟩ | ⟨_, same⟩ | ⟨_, -, same⟩ <;> cases same
    | read => cases replied
    | hash otp | dispatch otp | update otp => exact Or.inr (Or.inr ⟨otp, rfl, Option.some.inj about⟩)
  | authenticating | refused => cases about

/-- The call that marks a row verified says so. -/
theorem Thread.tells_marking (marking : t.marking = some id) (resumed : t.resume env w a = some (w', t')) :
    ∃ told, t.tells env w a = some told ∧ told.id = id ∧ ¬told.reply.Usable := by
  cases t with
  | verify c =>
    obtain ⟨c', stepped, rfl⟩ := stepped_eq_some resumed
    simp only [Thread.marking] at marking
    cases pc : c.pc with
    | markVerified otp now =>
      have same : otp.id = id := by simpa [pc] using marking
      simp only [VerifyCall.step, pc] at stepped
      cases stepped
      refine ⟨⟨id, .verified ⟨otp.id, otp.requestId, now⟩, false⟩,
        tells_eq_some.mpr ⟨by simp only [reply, pc], _, _, resumed, rfl, ?_, rfl⟩, rfl, ?_⟩
      · simp only [subject, pc, VerifyPc.row, Option.map_some, same]
      · rintro (⟨_, _, wrong, -⟩ | ⟨_, wrong⟩ | ⟨_, -, wrong⟩) <;> cases wrong
    | findRow | expire | recordAttempt | compare | answered => simp [pc] at marking
  | authenticating | refused | send | resend => cases marking

/-! ### Calls in turn -/

/-- At most one call waits for its answer, before and after a step. -/
theorem in_turn_resume (in_turn : total Thread.unanswered p.threads ≤ 1) (found : p.threads[i]? = some t)
    (resumed : t.resume env p.shared a = some (w', t')) :
    total Thread.unanswered (p.threads.set i t') ≤ 1 := by
  have counts := total_set (m := Thread.unanswered) found t'
  have one := t'.unanswered_le_one
  cases replied : t.reply with
  | none =>
    have alone : t.unanswered = 1 := by rw [Thread.unanswered, replied]; rfl
    omega
  | some reply =>
    have level : t'.unanswered = t.unanswered := by
      rw [Thread.unanswered, Thread.unanswered, (Thread.resume_replied (by rw [replied]; rfl) resumed).2]
    omega

theorem in_turn_external {event : Event} {born : List Thread}
    (in_turn : total Thread.unanswered p.threads ≤ 1)
    (acted : Thread.external p.shared event = some (w', born)) (turn : InTurn p (.external event)) :
    total Thread.unanswered (p.threads ++ born) ≤ 1 := by
  cases event with
  | tick d =>
    cases acted
    rw [List.append_nil]
    exact in_turn
  | post request =>
    cases acted
    have none_waits : total Thread.unanswered p.threads = 0 :=
      total_eq_zero.mpr fun t there => Thread.unanswered_eq_zero.mpr (turn t there)
    rw [total_append, none_waits, total_cons, total_nil]
    simpa using (Thread.start request).unanswered_le_one

/-- A call that has been answered breaks no promise. -/
theorem Promise.resume_replied (promise : Promise p log) (found : p.threads[i]? = some t)
    (resumed : t.resume env p.shared a = some (w', t')) (replied : t.reply.isSome = true) :
    Promise ⟨w', p.threads.set i t'⟩ log := by
  obtain ⟨settled, same⟩ := Thread.resume_replied replied resumed
  refine ⟨promise.requests.resume found resumed, in_turn_resume promise.in_turn found resumed,
    fun u there otp holds => ?_, ?_⟩
  · rw [settled.rows]
    rcases List.mem_or_eq_of_mem_set there with old | rfl
    · exact promise.held u old otp holds
    · rw [Thread.row_of_replied (same ▸ replied)] at holds
      cases holds
  · rw [settled.rows]
    exact promise.kept

/-- The call in turn keeps the promises. -/
theorem Promise.resume_unanswered (promise : Promise p log) (found : p.threads[i]? = some t)
    (resumed : t.resume env p.shared a = some (w', t')) (unanswered : t.reply = none) :
    Promise ⟨w', p.threads.set i t'⟩ (log ++ (t.tells env p.shared a).toList) := by
  have member := List.mem_of_getElem? found
  have keyed := promise.requests.keyed
  have rows := Thread.resume_rows keyed resumed
  have alone : t.unanswered = 1 := by rw [Thread.unanswered, unanswered]; rfl
  refine ⟨promise.requests.resume found resumed, in_turn_resume promise.in_turn found resumed,
    fun u there otp holds r present here => ?_, fun r present verified told last usable => ?_⟩
  · rcases mem_set_cases there with rfl | ⟨j, apart, other⟩
    -- the call in turn holds a row that was not verified when it read it, and nobody else has run
    · obtain ⟨unmarked, origin⟩ := Thread.resume_row resumed holds
      rcases rows.origin r present with ⟨s, old, step⟩ | ⟨-, fresh⟩
      · have before : s.status ≠ .verified := by
          rcases origin with kept | ⟨read, open_status⟩
          · exact promise.held t member otp kept s old (step.id.symm.trans here)
          · rwa [keyed.unique s old otp read (step.id.symm.trans here)]
        intro verified
        rcases step.marks verified with marking | still
        · rw [unmarked] at marking
          cases marking
        · exact before still
      · exact fresh
    -- all other calls have been answered and hold no row
    · have quiet : u.unanswered = 0 := eq_zero_of_total_le_one found other apart promise.in_turn (by omega)
      rw [Thread.row_of_replied (Thread.unanswered_eq_zero.mp quiet)] at holds
      cases holds
  · rcases rows.origin r present with ⟨s, old, step⟩ | ⟨-, fresh⟩
    · rw [lastTold_append, step.id] at last
      rcases step.marks verified with marking | still
      · -- the call has just said that the row is verified
        obtain ⟨said, tells, here, useless⟩ := Thread.tells_marking marking resumed
        have latest : lastTold s.id [said] = some said := by simp [lastTold, here]
        rw [tells, Option.toList_some, latest, Option.some_or] at last
        cases last
        exact absurd usable useless
      · cases tells : t.tells env p.shared a with
        | none =>
          rw [tells] at last
          exact promise.kept s old still told last usable
        | some said =>
          by_cases here : said.id = s.id
          · have latest : lastTold s.id [said] = some said := by simp [lastTold, here]
            rw [tells, Option.toList_some, latest, Option.some_or] at last
            cases last
            -- a usable answer about a verified row is a cached one: the row is neither new nor held
            rcases Thread.tells_usable tells usable with replayed | inserted | ⟨otp, holds, names⟩
            · exact replayed
            · exact absurd (keyed.bounded s old) (by rw [← here, inserted]; exact lt_irrefl _)
            · exact absurd still (promise.held t member otp holds s old (here.symm.trans names.symm))
          · have nothing : lastTold s.id [said] = none := by simp [lastTold, here]
            rw [tells, Option.toList_some, nothing, Option.none_or] at last
            exact promise.kept s old still told last usable
    · exact absurd verified fresh

theorem Promise.external {event : Event} {born : List Thread} (promise : Promise p log)
    (acted : Thread.external p.shared event = some (w', born)) (turn : InTurn p (.external event)) :
    Promise ⟨w', p.threads ++ born⟩ log := by
  have same := Thread.external_cases acted
  refine ⟨promise.requests.external acted, in_turn_external promise.in_turn acted turn, ?_,
    by rw [same.db]; exact promise.kept⟩
  rw [same.db]
  intro t there otp holds
  rcases List.mem_append.mp there with old | new
  · exact promise.held t old otp holds
  · obtain ⟨request, rfl⟩ := same.born t new
    rw [Thread.start_row] at holds
    cases holds

theorem Promise.step {l : Label} (promise : Promise p log) (turn : InTurn p l)
    (taken : Pool.step (program env) p l = some q) : Promise q (log ++ tellings env p l) := by
  cases l with
  | resume i a =>
    obtain ⟨t, w', t', found, resumed, rfl⟩ := step_resume taken
    simp only [tellings, found, Option.bind_some]
    cases replied : t.reply with
    | none => exact promise.resume_unanswered found resumed replied
    | some reply =>
      have silent : t.tells env p.shared a = none := by simp only [Thread.tells, replied]
      rw [silent, Option.toList_none, List.append_nil]
      exact promise.resume_replied found resumed (by rw [replied]; rfl)
  | external event =>
    obtain ⟨w', born, acted, rfl⟩ := step_external taken
    rw [tellings, List.append_nil]
    exact promise.external acted turn

/-- No request has been made yet. -/
structure Fresh (p : System) : Prop where
  threads : p.threads = []
  rows : p.shared.db.otpRequests = []

theorem Promise.fresh (fresh : Fresh p) : Promise p [] := by
  refine ⟨⟨⟨?_, ?_⟩, ?_, ?_, ?_⟩, ?_, ?_, ?_⟩ <;> simp [fresh.threads, fresh.rows]

theorem promise_of_run {labels : List Label} (fresh : Fresh p)
    (turns : Respects (step (program env)) InTurn p labels)
    (reached : run (step (program env)) p labels = some q) :
    Promise q (observed (step (program env)) (tellings env) p labels) := by
  have promise := run_observed_of_respects Promise
    (fun _ _ _ _ promise turn taken => promise.step turn taken) (Promise.fresh fresh) turns reached
  rwa [List.nil_append] at promise

/-- The current code of a request that the last answer called usable succeeds just when it is not the
last attempt, the submitted value is not taken for a missing one, and a cached answer has not outlived the
verification of the request. -/
theorem succeeds_iff {s : System} {labels attempt : List Label} {keyRecord : ApiKey} {request : Request}
    {submitted : Json} {reply : Reply} (fresh : Fresh s)
    (turns : Respects (step (program env)) InTurn s labels)
    (reached : run (step (program env)) s labels = some p)
    (answered : ∀ t ∈ p.threads, t.reply.isSome = true) (member : r ∈ p.shared.db.otpRequests)
    (last : lastTold r.id (observed (step (program env)) (tellings env) s labels) = some told)
    (usable : told.reply.Usable) (submits : Submits env p.shared r keyRecord request submitted)
    (served : Respects (step (program env)) (Served p.threads.length r keyRecord) p
      (.external (.post request) :: attempt))
    (returned : run (step (program env)) p (.external (.post request) :: attempt) = some q)
    (found : q.threads[p.threads.length]? = some t) (replied : t.reply = some reply) :
    (∃ now, reply = .verified ⟨r.id, r.requestId, now⟩) ↔ submitted.truthy = true ∧
      r.attempts + 1 < r.maxAttempts ∧ (told.replayed = true → r.status ≠ .verified) := by
  have promise := promise_of_run fresh turns reached
  rw [verified_iff_accepts promise.requests answered member submits served returned found replied]
  constructor
  · rintro ⟨truthy, unverified, attempt⟩
    exact ⟨truthy, attempt, fun _ => unverified⟩
  · rintro ⟨truthy, attempt, cached⟩
    refine ⟨truthy, fun verified => ?_, attempt⟩
    exact cached (promise.kept r member verified told last usable) verified

/-- A send, and `n` verifications with a wrong code. -/
def sampleHistory (n : ℕ) : List Label :=
  samplePost .send [(js "phone_number", .string (js "+4915112345678"))] :: resolve 0 5 ++
    (List.range n).flatMap fun i => sampleVerify "111111" :: resolve (i + 1) 4

/-- The sample key. -/
def sampleKey : ApiKey := ⟨3, 1, 2, "wotp_live_00:pepper", .active, none⟩

/-- The sample verification with the right code. -/
theorem sampleVerify_submits {w : World} {r : OtpRequest}
    (registered : w.db.findApiKey (hashApiKey sampleEnv "wotp_live_00") = some sampleKey)
    (customer : sampleKey.customerId = r.customerId) (requestId : r.requestId = newRequestId 7)
    (otpHash : hashOtp sampleEnv (js "123456") = r.otpHash) :
    Submits sampleEnv w r sampleKey ⟨.verify, some "wotp_live_00", none,
      some (.object [(js "request_id", .string (newRequestId 7)), (js "code", .string (js "123456"))]),
      fun i => (i + 1).toUInt8, 7⟩ (.string (js "123456")) := by
  refine ⟨rfl, ⟨_, rfl, by decide, registered⟩, rfl, customer, ?_, rfl, _, rfl, otpHash⟩
  rw [requestId]
  rfl

/-- The right code after a wrong one. -/
theorem succeeds_after_wrong_code :
    ∃ p q t told reply, run (step (program sampleEnv)) sampleSystem (sampleHistory 1) = some p ∧
      lastTold 10 (observed (step (program sampleEnv)) (tellings sampleEnv) sampleSystem (sampleHistory 1)) =
        some told ∧
      run (step (program sampleEnv)) p (sampleVerify "123456" :: resolve 2 5) = some q ∧
      q.threads[p.threads.length]? = some t ∧ t.reply = some reply ∧
      ((∃ now, reply = .verified ⟨10, newRequestId 7, now⟩) ↔
        (Json.string (js "123456")).truthy = true ∧ 1 + 1 < 5 ∧
          (told.replayed = true → OtpStatus.sent ≠ .verified)) := by
  obtain ⟨p, reached, turns, answered, member, last, registered, served, q, returned, t, found, replied⟩ :
      ∃ p ∈ run (step (program sampleEnv)) sampleSystem (sampleHistory 1),
        Respects (step (program sampleEnv)) InTurn sampleSystem (sampleHistory 1) ∧
        (∀ t ∈ p.threads, t.reply.isSome = true) ∧
        { sampleRow with attempts := 1 } ∈ p.shared.db.otpRequests ∧
        lastTold 10 (observed (step (program sampleEnv)) (tellings sampleEnv) sampleSystem (sampleHistory 1)) =
          some ⟨10, VerifyCall.invalidCode 4, false⟩ ∧
        p.shared.db.findApiKey (hashApiKey sampleEnv "wotp_live_00") = some sampleKey ∧
        Respects (step (program sampleEnv)) (Served p.threads.length sampleRow sampleKey) p
          (sampleVerify "123456" :: resolve 2 5) ∧
        ∃ q ∈ run (step (program sampleEnv)) p (sampleVerify "123456" :: resolve 2 5),
          ∃ t ∈ q.threads[p.threads.length]?,
            t.reply = some (.verified ⟨10, newRequestId 7, 1700000000000⟩) := by
    decide +kernel
  exact ⟨p, q, t, _, _, reached, last, returned, found, replied,
    succeeds_iff ⟨rfl, rfl⟩ turns reached answered member last (Or.inr (Or.inr ⟨4, by decide, rfl⟩))
      (sampleVerify_submits registered rfl rfl rfl) served returned found replied⟩

/-- After four wrong codes the client is told that one attempt remains, and then the right code fails. -/
theorem last_attempt_fails :
    ¬∀ (env : Env) (s p q : System) (labels attempt : List Label) (r : OtpRequest) (told : Told)
      (keyRecord : ApiKey) (request : Request) (submitted : Json) (t : Thread) (reply : Reply),
      Fresh s → Respects (step (program env)) InTurn s labels →
      run (step (program env)) s labels = some p → (∀ t ∈ p.threads, t.reply.isSome = true) →
      r ∈ p.shared.db.otpRequests →
      lastTold r.id (observed (step (program env)) (tellings env) s labels) = some told →
      told.reply.Usable → Submits env p.shared r keyRecord request submitted →
      Respects (step (program env)) (Served p.threads.length r keyRecord) p
        (.external (.post request) :: attempt) →
      run (step (program env)) p (.external (.post request) :: attempt) = some q →
      q.threads[p.threads.length]? = some t → t.reply = some reply →
      ∃ now, reply = .verified ⟨r.id, r.requestId, now⟩ := by
  intro promise
  obtain ⟨p, reached, turns, answered, member, last, registered, served, q, returned, t, found, replied⟩ :
      ∃ p ∈ run (step (program sampleEnv)) sampleSystem (sampleHistory 4),
        Respects (step (program sampleEnv)) InTurn sampleSystem (sampleHistory 4) ∧
        (∀ t ∈ p.threads, t.reply.isSome = true) ∧
        { sampleRow with attempts := 4 } ∈ p.shared.db.otpRequests ∧
        lastTold 10 (observed (step (program sampleEnv)) (tellings sampleEnv) sampleSystem (sampleHistory 4)) =
          some ⟨10, VerifyCall.invalidCode 1, false⟩ ∧
        p.shared.db.findApiKey (hashApiKey sampleEnv "wotp_live_00") = some sampleKey ∧
        Respects (step (program sampleEnv)) (Served p.threads.length sampleRow sampleKey) p
          (sampleVerify "123456" :: resolve 5 3) ∧
        ∃ q ∈ run (step (program sampleEnv)) p (sampleVerify "123456" :: resolve 5 3),
          ∃ t ∈ q.threads[p.threads.length]?, t.reply = some (errorResponse
            "Maximum verification attempts exceeded" "MAX_ATTEMPTS_EXCEEDED" 400) := by
    decide +kernel
  obtain ⟨now, violated⟩ := promise sampleEnv sampleSystem p q _ _ _ _ sampleKey _ _ t _ ⟨rfl, rfl⟩ turns
    reached answered member last (Or.inr (Or.inr ⟨1, le_refl 1, rfl⟩))
    (sampleVerify_submits registered rfl rfl rfl) served returned found replied
  cases violated

end Answers

end SelfOtp.Edge
