import SelfOtp.Properties.EdgeTenants

/-! A call of the Edge function that succeeds, also one that is answered from an idempotency key, names a
request that its customer has. -/
namespace SelfOtp.Edge

open Pool Transition

/-! ### What an answer names -/

def Reply.Names (w : World) (customerId : Id) : Reply → Prop
  | sent status data => status = 200 ∧
      (data.id, customerId, data.requestId, data.phoneNumber) ∈ w.db.otpRequests.map (·.stub)
  | verified data => ∃ phoneNumber,
      (data.id, customerId, data.requestId, phoneNumber) ∈ w.db.otpRequests.map (·.stub)
  | resent data => ∃ phoneNumber,
      (data.id, customerId, data.requestId, phoneNumber) ∈ w.db.otpRequests.map (·.stub)
  | error .. | crashed => True

def Party.Names (w : World) : Party → Prop
  | call (.send c) =>
    match c.pc with
    | .answered reply _ => reply.Names w c.keyRecord.customerId
    | _ => True
  | call (.verify c) =>
    match c.pc with
    | .answered reply => reply.Names w c.customerId
    | _ => True
  | call (.resend c) =>
    match c.pc with
    | .answered reply => reply.Names w c.customerId
    | _ => True
  | call _ | webhook _ => True

/-- Not the same key of the same customer. -/
def IdempotencyKey.Apart (k l : IdempotencyKey) : Prop := ¬(k.customerId = l.customerId ∧ k.key = l.key)

/-- Each kept response names its request, and no key is kept twice. -/
structure Kept (w : World) : Prop where
  names : ∀ k ∈ w.db.idempotencyKeys, k.Names w
  apart : w.db.idempotencyKeys.Pairwise IdempotencyKey.Apart

section Names

variable {env : Env} {w w' : World} {a : Answer} {customerId : Id} {owner : Option Id}

theorem Reply.Names.mono {reply : Reply} (names : reply.Names w customerId) (persists : Persists w w') :
    reply.Names w' customerId := by
  cases reply with
  | sent status data => exact ⟨names.1, persists _ names.2⟩
  | verified data | resent data =>
    obtain ⟨phoneNumber, there⟩ := names
    exact ⟨phoneNumber, persists _ there⟩
  | error | crashed => trivial

theorem Party.Names.mono {t : Party} (names : t.Names w) (persists : Persists w w') : t.Names w' := by
  cases t with
  | webhook c => trivial
  | call t =>
    cases t with
    | authenticating apiKey request => trivial
    | refused reply => trivial
    | send c =>
      simp only [Names] at names ⊢
      split
      next reply writes pc =>
        rw [pc] at names
        exact Reply.Names.mono names persists
      · trivial
    | verify c =>
      simp only [Names] at names ⊢
      split
      next reply pc =>
        rw [pc] at names
        exact Reply.Names.mono names persists
      · trivial
    | resend c =>
      simp only [Names] at names ⊢
      split
      next reply pc =>
        rw [pc] at names
        exact Reply.Names.mono names persists
      · trivial

/-- A row that was read is named by its id and its request id. -/
theorem ReadFor.names {otp : OtpRequest} (read : ReadFor w customerId (some otp)) :
    (otp.id, customerId, otp.requestId, otp.phoneNumber) ∈ w.db.otpRequests.map (·.stub) := by
  obtain ⟨own, there⟩ := read otp rfl
  rw [← own]
  exact there

/-! ### The kept responses -/

theorem Kept.of_same (kept : Kept w) (same : w'.db.idempotencyKeys = w.db.idempotencyKeys)
    (persists : Persists w w') : Kept w' := by
  refine ⟨fun k there => ?_, by rw [same]; exact kept.apart⟩
  rw [same] at there
  exact ⟨(kept.names k there).1, persists _ (kept.names k there).2⟩

theorem Effect.kept (kept : Kept w) (effect : Effect owner w w') : Kept w' := by
  have persists := effect.grows.stubs
  cases effect with
  | same db | insert row own fresh db | message row own there db | report index msg status own found db =>
    exact kept.of_same (by rw [db]) persists
  | wallet id wallet own db | update id customerId f own there same db =>
    exact kept.of_same (by rw [db]; rfl) persists
  | cache row own names db =>
    unfold Database.upsertIdempotencyKey at db
    split at db
    next fresh =>
      refine ⟨fun k there => ?_, ?_⟩
      · rw [db] at there
        rcases List.mem_append.mp there with old | added
        · exact ⟨(kept.names k old).1, persists _ (kept.names k old).2⟩
        · rw [List.mem_singleton.mp added]
          exact ⟨names.1, persists _ names.2⟩
      · rw [db]
        refine List.pairwise_append.mpr ⟨kept.apart, List.pairwise_singleton _ _, fun k old l added => ?_⟩
        rw [List.mem_singleton.mp added]
        exact fresh k old
    · exact kept.of_same (by rw [db]) persists

/-! ### The calls -/

theorem SendCall.step_names {c c' : SendCall} (kept : Kept w) (persists : Persists w w')
    (names : (Party.call (.send c)).Names w) (h : c.step env w a = some (w', c')) :
    (Party.call (.send c')).Names w' := by
  have described : (Party.call (.send (c.goto (describe c.phoneNumber)))).Names w := by
    rcases describe_cases c.phoneNumber with ⟨description, charges⟩ | crashes
    · rw [charges]
      trivial
    · rw [crashes]
      trivial
  cases pc : c.pc with
  | lookup key =>
    simp only [step, pc] at h
    split at h
    next cached found =>
      split at h <;> cases h
      -- what is kept under the key is answered again
      · obtain ⟨there, matching⟩ := List.mem_filter.mp (mem_of_single (lookup_cases found))
        rw [Bool.and_eq_true] at matching
        obtain ⟨code, named⟩ := kept.names cached there
        rw [beq_iff_eq.mp matching.1] at named
        exact ⟨code, named⟩
      · exact described
    · cases h
      exact described
  | deduct description =>
    simp only [step, pc] at h
    split at h
    · cases h
      trivial
    · cases h
      trivial
    · split at h <;> cases h <;> trivial
  | hash otpCode | dispatch otpCode d | refund message =>
    simp only [step, pc] at h
    cases h
    trivial
  | insert d metaResult =>
    simp only [step, pc] at h
    split at h
    next db inserted =>
      cases h
      split at inserted
      · unfold Database.insertOtpRequest at inserted
        split at inserted <;> cases inserted
        refine ⟨rfl, ?_⟩
        rw [List.map_append]
        exact List.mem_append_right _ (List.mem_singleton_self _)
      · cases inserted
    · cases h
      trivial
  | answered reply writes =>
    cases writes with
    | nil => simp [step, pc] at h
    | cons first rest =>
      simp only [step, pc] at h
      cases h
      simp only [Party.Names, pc] at names
      exact names.mono persists

theorem VerifyCall.step_names {c c' : VerifyCall} (own : ReadFor w c.customerId c.pc.row)
    (persists : Persists w w') (h : c.step env w a = some (w', c')) :
    (Party.call (.verify c')).Names w' := by
  obtain ⟨move, same⟩ := step_move h
  rw [same]
  simp only [Party.Names, goto]
  generalize c.pc = pc at move own
  generalize c'.pc = pc' at move ⊢
  cases move with
  | mark otp now => exact ⟨otp.phoneNumber, persists _ own.names⟩
  | missing | used | lapse | read | expire | exceed | crash | count | differ | agree => trivial

theorem ResendCall.step_names {c c' : ResendCall} (own : ReadFor w c.customerId c.pc.row)
    (persists : Persists w w') (h : c.step env w a = some (w', c')) :
    (Party.call (.resend c')).Names w' := by
  obtain ⟨move, same⟩ := step_move h
  rw [same]
  simp only [Party.Names, goto]
  generalize c.pc = pc at move own
  generalize c'.pc = pc' at move ⊢
  cases move with
  | update otp => exact ⟨otp.phoneNumber, persists _ own.names⟩
  | missing | used | wait | crash | read | hash | dispatch => trivial

theorem Thread.handler_names (keyRecord : ApiKey) (request : Request) :
    (Party.call (handler keyRecord request)).Names w := by
  unfold handler of
  cases request.action with
  | send =>
    dsimp only
    split
    next c started =>
      simp only [Party.Names]
      rcases SendCall.start_pc started with ⟨key, pc⟩ | ⟨description, pc⟩ | pc <;> rw [pc] <;> trivial
    · trivial
  | verify =>
    dsimp only
    split
    next c started => simp only [Party.Names, VerifyCall.start_pc started]
    · trivial
  | resend =>
    dsimp only
    split
    next c started => simp only [Party.Names, ResendCall.start_pc started]
    · trivial

theorem Party.resume_names {t t' : Party} (kept : Kept w) (own : t.Own w) (names : t.Names w)
    (persists : Persists w w') (resumed : t.resume env w a = some (w', t')) : t'.Names w' := by
  cases t with
  | webhook c =>
    obtain ⟨⟨v, c'⟩, stepped, same⟩ := Option.map_eq_some_iff.mp resumed
    cases same
    trivial
  | call t =>
    obtain ⟨⟨v, u⟩, called, same⟩ := Option.map_eq_some_iff.mp resumed
    cases same
    cases t with
    | authenticating apiKey request =>
      simp only [Thread.resume] at called
      split at called <;> cases called
      · exact Thread.handler_names _ request
      · trivial
    | refused reply => cases called
    | send c =>
      obtain ⟨c', stepped, rfl⟩ := Thread.stepped_eq_some called
      exact SendCall.step_names kept persists names stepped
    | verify c =>
      obtain ⟨c', stepped, rfl⟩ := Thread.stepped_eq_some called
      exact VerifyCall.step_names own persists stepped
    | resend c =>
      obtain ⟨c', stepped, rfl⟩ := Thread.stepped_eq_some called
      exact ResendCall.step_names own persists stepped

theorem Party.born_names {event : PartyEvent} {born : List Party}
    (acted : Party.external w event = some (w', born)) : ∀ t ∈ born, t.Names w' := by
  intro t there
  cases event with
  | call event =>
    obtain ⟨⟨v, threads⟩, arrived, same⟩ := Option.map_eq_some_iff.mp acted
    cases same
    obtain ⟨u, among, rfl⟩ := List.mem_map.mp there
    obtain ⟨request, rfl⟩ := (Thread.external_cases arrived).born u among
    unfold Thread.start
    split <;> trivial
  | webhook payload =>
    cases acted
    rw [List.mem_singleton.mp there]
    trivial

end Names

/-! ### Runs -/

section Runs

variable {env : Env} {p q : PartySystem}

/-- All answers and all kept responses name requests of their customers. -/
structure Truthful (p : PartySystem) : Prop where
  kept : Kept p.shared
  answers : ∀ t ∈ p.threads, t.Names p.shared

theorem Truthful.step {l : PartyLabel} (orderly : Orderly p) (truthful : Truthful p)
    (taken : Pool.step (partyProgram env) p l = some q) : Truthful q := by
  cases l with
  | resume i a =>
    obtain ⟨t, w', t', there, resumed, rfl⟩ := step_resume taken
    have member := List.mem_of_getElem? there
    have own := orderly.threads t member
    have effect := (Party.resume_effect own resumed).1
    refine ⟨effect.kept truthful.kept, fun u among => ?_⟩
    rcases mem_set_cases among with rfl | ⟨j, -, other⟩
    · exact Party.resume_names truthful.kept own (truthful.answers t member) effect.grows.stubs resumed
    · exact (truthful.answers u (List.mem_of_getElem? other)).mono effect.grows.stubs
  | external event =>
    obtain ⟨w', born, acted, rfl⟩ := step_external taken
    obtain ⟨db, nextId, -⟩ := Party.external_own acted
    have effect : Effect none p.shared w' := .same db nextId
    refine ⟨effect.kept truthful.kept, fun u among => ?_⟩
    rcases List.mem_append.mp among with old | new
    · exact (truthful.answers u old).mono effect.grows.stubs
    · exact Party.born_names acted u new

/-- In every run of both Edge functions from an empty system, an answer that reports success names a
request of the customer who gets it, and so does every response that is kept for an idempotency key; a key
is kept once. -/
theorem answers_truthful {labels : List PartyLabel} (idle : p.threads = [])
    (empty : p.shared.db.otpRequests = []) (unsent : p.shared.db.messages = [])
    (uncached : p.shared.db.idempotencyKeys = [])
    (returned : run (step (partyProgram env)) p labels = some q) : Truthful q := by
  have start : Orderly p ∧ Truthful p := by
    refine ⟨.unused idle empty unsent, ⟨⟨?_, ?_⟩, ?_⟩⟩
    · simp [uncached]
    · simp [uncached]
    · simp [idle]
  exact (run_invariant (fun s => Orderly s ∧ Truthful s)
    (fun _ _ _ held taken => ⟨(held.1.step 0 taken).1, held.2.step held.1 taken⟩) start returned).2

def Party.reply : Party → Option Reply
  | call t => t.reply
  | webhook _ => none

/-- A send with an idempotency key, and another one with the same key and another number. -/
def sentAndReplayed : List PartyLabel :=
  let send (phoneNumber : String) (uuid : ℕ) : PartyLabel :=
    .external (.call (.post ⟨.send, some "wotp_live_00", some (js "order-17"),
      some (.object [(js "phone_number", .string (js phoneNumber))]), fun i => (i + 1).toUInt8, uuid⟩))
  send "+4915112345678" 7 :: settle 0 8 ++ send "+4915112345679" 8 :: settle 1 2

theorem answers_truthful_replayed :
    ∃ q, run (step (partyProgram sampleEnv)) ⟨sampleSystem.shared, []⟩ sentAndReplayed = some q ∧
      q.threads.map Party.reply = List.replicate 2 (some (.sent 200
        ⟨10, newRequestId 7, js "+4915112345678", .sent, 1700000300000, 60⟩)) ∧ Truthful q :=
  ⟨_, (Option.some_get (by decide +kernel)).symm, by decide +kernel,
    answers_truthful (p := ⟨sampleSystem.shared, []⟩) rfl rfl rfl rfl
      (Option.some_get (by decide +kernel)).symm⟩

end Runs

end SelfOtp.Edge
