import SelfOtp.Properties.EdgeRows

/-! The rows that the calls of the Edge function find, and what a call does that has been answered. -/
namespace SelfOtp.Edge

open Pool Transition

/-! ### Request ids -/

theorem hexDigits_length (k n : ℕ) : (hexDigits k n).length = k := by
  induction k generalizing n with
  | zero => rfl
  | succ k ih => rw [hexDigits, List.length_append, ih, List.length_singleton]

theorem newRequestId_ne_nil (uuid : ℕ) : newRequestId uuid ≠ [] := by
  simp [newRequestId, js]

/-- No request id of a send is a UUID. -/
theorem isId_newRequestId (uuid : ℕ) (id : Id) : Database.isId (newRequestId uuid) id = false := by
  unfold Database.isId
  rw [beq_eq_false_iff_ne]
  intro same
  have lengths := congrArg List.length same
  simp [newRequestId, js, uuidText, hexDigits_length] at lengths

/-- The code is trimmed before it is hashed, and again in the hash. -/
theorem hashOtp_trim (env : Env) (code : JsString) : hashOtp env code.trim = hashOtp env code := by
  rw [hashOtp, hashOtp, JsString.trim_trim]

/-- The rows have different request ids, all of them made by a send. -/
structure Requests (p : System) : Prop where
  keyed : Keyed p.shared
  unique : (p.shared.db.otpRequests.map (·.requestId)).Nodup
  named : ∀ requestId ∈ p.shared.db.otpRequests.map (·.requestId), ∃ uuid, requestId = newRequestId uuid
  prepared : ∀ t ∈ p.threads, ∀ d, t.prepared = some d → ∃ uuid, d.requestId = newRequestId uuid

section Requests

variable {env : Env} {p q : System} {w w' : World} {t t' : Thread} {a : Answer} {r : OtpRequest} {i : ℕ}

theorem filter_eq_singleton {α β : Type} [BEq β] [LawfulBEq β] {f : α → β} {rows : List α} {row : α}
    (unique : (rows.map f).Nodup) (member : row ∈ rows) :
    rows.filter (fun other => f other == f row) = [row] := by
  induction rows with
  | nil => cases member
  | cons first rest ih =>
    rw [List.map_cons, List.nodup_cons] at unique
    by_cases same : f first = f row
    · have none_other : ∀ other ∈ rest, f other ≠ f row := fun other there equal =>
        unique.1 (same ▸ equal ▸ List.mem_map_of_mem there)
      have here : row = first := by
        rcases List.mem_cons.mp member with here | there
        · exact here
        · exact absurd rfl (none_other row there)
      rw [List.filter_cons_of_pos (by simp [same]), List.filter_eq_nil_iff.mpr (by simpa using none_other), here]
    · rw [List.filter_cons_of_neg (by simp [same]), ih unique.2]
      exact (List.mem_cons.mp member).resolve_left fun here => same (here ▸ rfl)

/-- The request id of a row leads its customer to this row. -/
theorem Requests.find (requests : Requests p) (member : r ∈ p.shared.db.otpRequests) :
    single (p.shared.db.findOtpRequests r.customerId r.requestId) = some r := by
  obtain ⟨uuid, name⟩ := requests.named _ (List.mem_map_of_mem member)
  have only : p.shared.db.otpRequests.filter (fun s => s.requestId == r.requestId) = [r] :=
    filter_eq_singleton requests.unique member
  -- the id does not match, and the request id belongs to no other customer
  have matching (s : OtpRequest) (there : s ∈ p.shared.db.otpRequests) :
      (s.customerId == r.customerId && (s.requestId == r.requestId || Database.isId r.requestId s.id)) =
        (s.requestId == r.requestId) := by
    rw [name, isId_newRequestId, Bool.or_false, ← name]
    by_cases same : s.requestId = r.requestId
    · have here : s ∈ p.shared.db.otpRequests.filter (fun s => s.requestId == r.requestId) :=
        List.mem_filter.mpr ⟨there, beq_iff_eq.mpr same⟩
      rw [only] at here
      rw [List.mem_singleton.mp here, beq_self_eq_true, Bool.true_and]
    · rw [beq_eq_false_iff_ne.mpr same, Bool.and_false]
  rw [Database.findOtpRequests, List.filter_congr matching, only, single]

/-- The request id is made before the message is sent, and kept up to the insert. -/
theorem Thread.resume_prepared {d : Prepared} (resumed : t.resume env w a = some (w', t'))
    (prepared : t'.prepared = some d) : t.prepared = some d ∨ ∃ uuid, d.requestId = newRequestId uuid := by
  cases t with
  | send c =>
    obtain ⟨c', stepped, rfl⟩ := stepped_eq_some resumed
    have move := (SendCall.step_move stepped).1
    simp only [Thread.prepared] at prepared ⊢
    generalize c.pc = pc at move ⊢
    generalize c'.pc = pc' at move prepared
    cases move with
    | hash otpCode =>
      rw [← Option.some.inj prepared]
      exact Or.inr ⟨c.uuid, by dsimp only⟩
    | dispatch => exact Or.inl prepared
    | cached | describe | unreadable | refuse | charge | crash | insert | fail | refund | write =>
      cases prepared
  | authenticating apiKey request =>
    simp only [resume] at resumed
    split at resumed <;> cases resumed
    next keyRecord accepted =>
      unfold handler of at prepared
      cases action : request.action with
      | send =>
        simp only [action] at prepared
        split at prepared
        next c started =>
          simp only [Thread.prepared] at prepared
          rcases SendCall.start_pc started with ⟨key, pc⟩ | ⟨description, pc⟩ | pc <;>
            rw [pc] at prepared <;> cases prepared
        · cases prepared
      | verify | resend =>
        simp only [action] at prepared
        split at prepared <;> cases prepared
    · cases prepared
  | refused reply => cases resumed
  | verify c =>
    obtain ⟨c', -, rfl⟩ := stepped_eq_some resumed
    cases prepared
  | resend c =>
    obtain ⟨c', -, rfl⟩ := stepped_eq_some resumed
    cases prepared

theorem Requests.resume (requests : Requests p) (found : p.threads[i]? = some t)
    (resumed : t.resume env p.shared a = some (w', t')) : Requests ⟨w', p.threads.set i t'⟩ := by
  have rows := Thread.resume_rows requests.keyed resumed
  have member := List.mem_of_getElem? found
  refine ⟨rows.keyed, ?_, ?_, fun u there d prepared => ?_⟩
  -- the insert has refused a request id that is in use
  · rcases rows.requestIds with same | ⟨d, -, unused, inserted⟩
    · exact same ▸ requests.unique
    · exact inserted ▸ List.nodup_append.mpr ⟨requests.unique, by simp,
        fun x old y new => fun same => unused (List.mem_singleton.mp new ▸ same ▸ old)⟩
  · intro requestId there
    rcases rows.requestIds with same | ⟨d, prepared, -, inserted⟩
    · exact requests.named requestId (same ▸ there)
    · rcases List.mem_append.mp (inserted ▸ there) with old | new
      · exact requests.named requestId old
      · rw [List.mem_singleton.mp new]
        exact requests.prepared t member d prepared
  · rcases List.mem_or_eq_of_mem_set there with old | rfl
    · exact requests.prepared u old d prepared
    · rcases Thread.resume_prepared resumed prepared with before | made
      · exact requests.prepared t member d before
      · exact made

theorem Requests.external {event : Event} {born : List Thread} (requests : Requests p)
    (acted : Thread.external p.shared event = some (w', born)) : Requests ⟨w', p.threads ++ born⟩ := by
  have same := Thread.external_cases acted
  refine ⟨requests.keyed.external same, by rw [same.db]; exact requests.unique,
    by rw [same.db]; exact requests.named, fun t there d prepared => ?_⟩
  rcases List.mem_append.mp there with old | new
  · exact requests.prepared t old d prepared
  · obtain ⟨request, rfl⟩ := same.born t new
    unfold Thread.start at prepared
    split at prepared <;> cases prepared

/-- A call goes on with the row it holds, or with one it has found that is not verified. -/
theorem Thread.resume_row {otp : OtpRequest} (resumed : t.resume env w a = some (w', t'))
    (held : t'.row = some otp) :
    t.marking = none ∧ (t.row = some otp ∨ otp ∈ w.db.otpRequests ∧ otp.status ≠ .verified) := by
  cases t with
  | verify c =>
    obtain ⟨c', stepped, rfl⟩ := stepped_eq_some resumed
    have move := (VerifyCall.step_move stepped).1
    simp only [row, marking] at held ⊢
    generalize c.pc = pc at move ⊢
    generalize c'.pc = pc' at move held
    cases move with
    | lapse read found unverified | read read found unverified =>
      cases held
      exact ⟨rfl, Or.inr ⟨Database.mem_of_findOtpRequests found, unverified⟩⟩
    | count | agree =>
      cases held
      exact ⟨rfl, Or.inl rfl⟩
    | missing | used | expire | exceed | crash | differ | mark => cases held
  | resend c =>
    obtain ⟨c', stepped, rfl⟩ := stepped_eq_some resumed
    have move := (ResendCall.step_move stepped).1
    refine ⟨rfl, ?_⟩
    simp only [row] at held ⊢
    generalize c.pc = pc at move ⊢
    generalize c'.pc = pc' at move held
    cases move with
    | read read otpCode found unverified =>
      cases held
      exact Or.inr ⟨Database.mem_of_findOtpRequests found, unverified⟩
    | hash | dispatch => exact Or.inl held
    | missing | used | wait | crash | update => cases held
  | authenticating apiKey request =>
    simp only [resume] at resumed
    split at resumed <;> cases resumed
    · rw [handler_row] at held
      cases held
    · cases held
  | refused reply => cases resumed
  | send c =>
    obtain ⟨c', -, rfl⟩ := stepped_eq_some resumed
    cases held

/-! ### Answered calls -/

/-- What a call leaves alone that has been answered. -/
structure Settled (w w' : World) : Prop where
  now : w'.now = w.now
  nextId : w'.nextId = w.nextId
  apiKeys : w'.db.apiKeys = w.db.apiKeys
  rows : w'.db.otpRequests = w.db.otpRequests

theorem Thread.row_of_replied (replied : t.reply.isSome = true) : t.row = none := by
  cases t with
  | verify c =>
    simp only [reply] at replied
    cases pc : c.pc <;> simp [pc] at replied
    rw [row, pc, VerifyPc.row]
  | resend c =>
    simp only [reply] at replied
    cases pc : c.pc <;> simp [pc] at replied
    rw [row, pc, ResendPc.row]
  | authenticating | refused | send => rfl

/-- A call that has been answered only makes the writes that its answer did not wait for. -/
theorem Thread.resume_replied (replied : t.reply.isSome = true)
    (resumed : t.resume env w a = some (w', t')) : Settled w w' ∧ t'.reply = t.reply := by
  cases t with
  | send c =>
    obtain ⟨c', stepped, rfl⟩ := stepped_eq_some resumed
    simp only [reply] at replied
    cases pc : c.pc with
    | answered reply writes =>
      cases writes with
      | nil => simp [SendCall.step, pc] at stepped
      | cons first rest =>
        simp only [SendCall.step, pc] at stepped
        cases stepped
        refine ⟨?_, by simp only [Thread.reply, SendCall.goto, pc]⟩
        split
        · cases first with
          | message row => exact ⟨rfl, rfl, rfl, rfl⟩
          | idempotencyKey row =>
            unfold SendCall.write Database.upsertIdempotencyKey
            dsimp only
            split <;> exact ⟨rfl, rfl, rfl, rfl⟩
        · exact ⟨rfl, rfl, rfl, rfl⟩
    | lookup | deduct | hash | dispatch | insert | refund => simp [pc] at replied
  | authenticating apiKey request => cases replied
  | refused reply => cases resumed
  | verify c =>
    obtain ⟨c', stepped, rfl⟩ := stepped_eq_some resumed
    simp only [reply] at replied
    cases pc : c.pc <;> simp [pc] at replied
    simp [VerifyCall.step, pc] at stepped
  | resend c =>
    obtain ⟨c', stepped, rfl⟩ := stepped_eq_some resumed
    simp only [reply] at replied
    cases pc : c.pc <;> simp [pc] at replied
    simp [ResendCall.step, pc] at stepped

end Requests

end SelfOtp.Edge
