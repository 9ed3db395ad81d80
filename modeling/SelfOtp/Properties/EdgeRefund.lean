import SelfOtp.Model.EdgeWebhook
import SelfOtp.Properties.EdgeMoves

/-! How often, and with how much, the Edge functions refund a request whose message has failed. -/
namespace SelfOtp.Edge

open Pool Transition

/-! ### What is counted -/

namespace Party

/-- `refund_wallet_credit` is executed for the request, with this amount. -/
def refunds (id : Id) (a : Answer) : Party → List ℚ
  | webhook c =>
    match c.pc with
    | .refund otp _ => if a.ok && otp.id == id then [WebhookCall.refundAmount] else []
    | _ => []
  | call _ => []

/-- A status `failed` meets the request, and the request is not verified. -/
def reportsFailure (id : Id) (w : World) (a : Answer) : Party → Bool
  | webhook c =>
    match c.pc with
    | .findOtp otpRequestId status _ => a.ok && otpRequestId == id && statusIs status "failed" &&
        (single (w.db.otpRequests.filter (·.id == id))).any fun otp => otp.status ≠ .verified
    | _ => false
  | call _ => false

/-- The handler is about to refund the request. -/
def owes (id : Id) : Party → Bool
  | webhook c =>
    match c.pc with
    | .updateOtp otp true _ => otp.id == id
    | .refund otp _ => otp.id == id
    | _ => false
  | call _ => false

/-- The call is one of `refund_wallet_credit`. -/
def refunding : Party → Bool
  | webhook c =>
    match c.pc with
    | .refund _ _ => true
    | _ => false
  | call _ => false

end Party

/-- The refunds of the request, as their calls are executed. -/
def refundsOf (id : Id) (p : PartySystem) : PartyLabel → List ℚ
  | .resume i a => (p.threads[i]?.map (Party.refunds id a)).getD []
  | .external _ => []

def ReportsFailure (id : Id) (p : PartySystem) : PartyLabel → Prop
  | .resume i a => ∃ t ∈ p.threads[i]?, t.reportsFailure id p.shared a = true
  | .external _ => False

/-- `refund_wallet_credit` returns its result. -/
def ProcedureAnswers (p : PartySystem) : PartyLabel → Prop
  | .resume i a => ∀ t ∈ p.threads[i]?, t.refunding = true → a.ok = true
  | .external _ => True

instance (id : Id) : DecidableRel (ReportsFailure id)
  | p, .resume i a => inferInstanceAs (Decidable (∃ t ∈ p.threads[i]?, t.reportsFailure id p.shared a = true))
  | _, .external _ => isFalse fun h => h

instance : DecidableRel ProcedureAnswers
  | p, .resume i a => inferInstanceAs (Decidable (∀ t ∈ p.threads[i]?, t.refunding = true → a.ok = true))
  | _, .external _ => isTrue trivial

/-- The calls that are about to refund the request. -/
def owing (id : Id) (p : PartySystem) : ℕ := total (fun t => (t.owes id).toNat) p.threads

/-- The request is refunded at most once, and with what a send costs. -/
def RefundedOnce (env : Env) (refunds : List ℚ) : Prop :=
  refunds.length ≤ 1 ∧ ∀ amount ∈ refunds, amount = env.otpCreditCost

/-- One failure at most has been reported, and the price is the fixed amount of a refund. -/
def FailsOnce (env : Env) (failures : ℕ) : Prop :=
  failures = 0 ∨ failures = 1 ∧ env.otpCreditCost = WebhookCall.refundAmount

section Steps

variable {env : Env} {p q : PartySystem} {w w' : World} {t t' : Party} {a : Answer} {id : Id}

/-! ### One step -/

/-- The loops go on to the next status, or end. -/
theorem WebhookCall.proceed_cases (w : World) (rest : Updates) :
    (∃ messageId status later, proceed w rest = .logEvent messageId status later) ∨
      ∃ reply, proceed w rest = .answered reply := by
  cases rest with
  | nil => exact Or.inr ⟨_, rfl⟩
  | cons first rest =>
    cases first with
    | none => exact Or.inr ⟨_, rfl⟩
    | some update =>
      unfold proceed
      dsimp only
      split
      · exact Or.inl ⟨_, _, _, rfl⟩
      · exact Or.inr ⟨_, rfl⟩

theorem proceed_owes (w : World) (rest : Updates) :
    (Party.webhook ⟨WebhookCall.proceed w rest⟩).owes id = false := by
  rcases WebhookCall.proceed_cases w rest with ⟨messageId, status, later, goes_on⟩ | ⟨reply, ends⟩
  · rw [goes_on]
    rfl
  · rw [ends]
    rfl

/-- The look-up meets the request, and it is one of an unverified request with the status `failed`. -/
theorem reportsFailure_findOtp (otpRequestId : Id) (status : Option Json) (rest : Updates) :
    (Party.webhook ⟨.findOtp otpRequestId status rest⟩).reportsFailure id w a =
      (statusIs status "failed" &&
        (if a.ok then single (w.db.otpRequests.filter (·.id == otpRequestId)) else none).any
          fun otp => otp.id == id && otp.status ≠ .verified) := by
  simp only [Party.reportsFailure]
  cases up : a.ok with
  | false => simp
  | true =>
    simp only [Bool.true_and, if_true]
    by_cases same : otpRequestId = id
    · subst same
      cases found : single (w.db.otpRequests.filter (·.id == otpRequestId)) with
      | none => simp
      | some otp =>
        have here : (otp.id == otpRequestId) = true := (List.mem_filter.mp (mem_of_single found)).2
        simp [here]
    · have apart : (otpRequestId == id) = false := beq_eq_false_iff_ne.mpr same
      cases found : single (w.db.otpRequests.filter (·.id == otpRequestId)) with
      | none => simp [apart]
      | some otp =>
        have there : (otp.id == otpRequestId) = true := (List.mem_filter.mp (mem_of_single found)).2
        simp [beq_iff_eq.mp there, apart]

theorem statusIs_disjoint {status : Option Json} (delivered : statusIs status "delivered" = true) :
    statusIs status "failed" = false := by
  unfold statusIs at delivered ⊢
  split at delivered
  next s =>
    rw [beq_iff_eq.mp delivered]
    decide
  · cases delivered

/-- A failure that meets the request leads to one refund, and only its execution settles it. -/
theorem WebhookCall.step_owes {c c' : WebhookCall} (stepped : c.step w a = some (w', c')) :
    ((Party.webhook c).refunds id a).length + ((Party.webhook c').owes id).toNat ≤
        ((Party.webhook c).owes id).toNat + ((Party.webhook c).reportsFailure id w a).toNat ∧
      (((Party.webhook c).refunding = true → a.ok = true) →
        ((Party.webhook c).owes id).toNat + ((Party.webhook c).reportsFailure id w a).toNat ≤
          ((Party.webhook c).refunds id a).length + ((Party.webhook c').owes id).toNat) := by
  obtain ⟨pc⟩ := c
  cases pc with
  | logEvent messageId status rest =>
    simp only [step] at stepped
    cases stepped
    exact ⟨le_refl _, fun _ => le_refl _⟩
  | findMessage messageId status rest =>
    simp only [step] at stepped
    split at stepped <;> cases stepped
    · exact ⟨le_refl _, fun _ => le_refl _⟩
    · rw [proceed_owes]
      exact ⟨le_refl _, fun _ => le_refl _⟩
  | updateMessage index msg status rest =>
    simp only [step] at stepped
    split at stepped <;> cases stepped <;> exact ⟨le_refl _, fun _ => le_refl _⟩
  | findOtp otpRequestId status rest =>
    rw [reportsFailure_findOtp]
    have idle : (Party.webhook ⟨.findOtp otpRequestId status rest⟩).refunds id a = [] := rfl
    have quiet : (Party.webhook ⟨.findOtp otpRequestId status rest⟩).owes id = false := rfl
    simp only [idle, quiet, List.length_nil, Bool.toNat_false, Nat.zero_add]
    suffices same : (Party.webhook c').owes id = (statusIs status "failed" &&
        (if a.ok then single (w.db.otpRequests.filter (·.id == otpRequestId)) else none).any
          fun otp => otp.id == id && otp.status ≠ .verified) by
      rw [same]
      exact ⟨le_refl _, fun _ => le_refl _⟩
    simp only [step] at stepped
    split at stepped
    next otp found =>
      simp only [found, Option.any_some]
      split at stepped
      next verified =>
        cases stepped
        rw [proceed_owes]
        simp [verified]
      next unverified =>
        split at stepped
        next delivered =>
          cases stepped
          rw [statusIs_disjoint delivered]
          rfl
        · split at stepped
          next failed =>
            cases stepped
            simp [Party.owes, failed, unverified]
          next other =>
            cases stepped
            rw [proceed_owes, Bool.eq_false_iff.mpr other, Bool.false_and]
    next missing =>
      cases stepped
      rw [proceed_owes, missing, Option.any_none, Bool.and_false]
  | updateOtp otp failed rest =>
    simp only [step] at stepped
    cases stepped
    cases failed with
    | false =>
      simp only [Bool.false_eq_true, if_false, proceed_owes]
      exact ⟨le_refl _, fun _ => le_refl _⟩
    -- whether the update succeeds or not, the refund comes next
    | true => exact ⟨le_of_eq (Nat.add_comm _ _), fun _ => le_of_eq (Nat.add_comm _ _)⟩
  | refund otp rest =>
    simp only [step] at stepped
    cases stepped
    rw [proceed_owes]
    simp only [Party.refunds, Party.owes, Party.refunding, Party.reportsFailure]
    -- the call that is executed settles what was owed; one that fails does not
    cases otp.id == id with
    | false => simp
    | true => cases a.ok <;> simp
  | answered reply => cases stepped

theorem Party.resume_owes (id : Id) (resumed : t.resume env w a = some (w', t')) :
    (t.refunds id a).length + (t'.owes id).toNat ≤ (t.owes id).toNat + (t.reportsFailure id w a).toNat ∧
      ((t.refunding = true → a.ok = true) →
        (t.owes id).toNat + (t.reportsFailure id w a).toNat ≤
          (t.refunds id a).length + (t'.owes id).toNat) := by
  cases t with
  | call t =>
    obtain ⟨⟨v, u⟩, -, same⟩ := Option.map_eq_some_iff.mp resumed
    cases same
    exact ⟨le_refl _, fun _ => le_refl _⟩
  | webhook c =>
    obtain ⟨⟨v, c'⟩, stepped, same⟩ := Option.map_eq_some_iff.mp resumed
    cases same
    exact WebhookCall.step_owes stepped

/-- What arrives owes nothing yet. -/
theorem owes_born (id : Id) {event : PartyEvent} {born : List Party}
    (acted : Party.external w event = some (w', born)) :
    total (fun t => (t.owes id).toNat) born = 0 := by
  apply total_eq_zero.mpr
  intro t there
  cases event with
  | call event =>
    obtain ⟨⟨v, threads⟩, -, same⟩ := Option.map_eq_some_iff.mp acted
    cases same
    obtain ⟨u, -, rfl⟩ := List.mem_map.mp there
    rfl
  | webhook payload =>
    cases acted
    rw [List.mem_singleton.mp there, WebhookCall.start, proceed_owes]
    rfl

/-! ### Runs -/

theorem refunds_step (id : Id) {l : PartyLabel} (taken : Pool.step (partyProgram env) p l = some q) :
    (refundsOf id p l).length + owing id q ≤ owing id p + (if ReportsFailure id p l then 1 else 0) ∧
      (ProcedureAnswers p l →
        owing id p + (if ReportsFailure id p l then 1 else 0) ≤ (refundsOf id p l).length + owing id q) := by
  cases l with
  | resume i a =>
    obtain ⟨t, w', t', found, resumed, rfl⟩ := step_resume taken
    have balance := total_set (m := fun t => (t.owes id).toNat) found t'
    obtain ⟨most, least⟩ := Party.resume_owes id resumed
    have reports : (if ReportsFailure id p (.resume i a) then 1 else 0) =
        (t.reportsFailure id p.shared a).toNat := by
      have same : ReportsFailure id p (.resume i a) ↔ t.reportsFailure id p.shared a = true := by
        simp [ReportsFailure, found]
      simp only [same]
      cases t.reportsFailure id p.shared a <;> rfl
    have executed : refundsOf id p (.resume i a) = t.refunds id a := by
      simp only [refundsOf, found, Option.map_some, Option.getD_some]
    rw [reports, executed]
    simp only [owing]
    constructor
    · omega
    · intro answers
      have least := least (answers t (by rw [found]; rfl))
      omega
  | external event =>
    obtain ⟨w', born, acted, rfl⟩ := step_external taken
    have idle : ¬ReportsFailure id p (.external event) := fun h => h
    have born := owes_born id acted
    simp only [owing, refundsOf, if_neg idle, total_append, born, List.length_nil]
    exact ⟨by omega, fun _ => by omega⟩

theorem refundsOf_amount {l : PartyLabel} : ∀ amount ∈ refundsOf id p l, amount = WebhookCall.refundAmount := by
  intro amount member
  cases l with
  | resume i a =>
    simp only [refundsOf] at member
    cases found : p.threads[i]? with
    | none => simp [found] at member
    | some t =>
      simp only [found, Option.map_some, Option.getD_some] at member
      unfold Party.refunds at member
      split at member
      · split at member
        · split at member
          · exact List.mem_singleton.mp member
          · cases member
        · cases member
      · cases member
  | external event => cases member

theorem refunds_le_reports {labels : List PartyLabel} (idle : owing id p = 0)
    (returned : run (step (partyProgram env)) p labels = some q) :
    (observed (step (partyProgram env)) (refundsOf id) p labels).length + owing id q ≤
      tally (step (partyProgram env)) (ReportsFailure id) p labels := by
  have always : Respects (step (partyProgram env)) (fun _ _ => True) p labels :=
    respects_of_forall (fun _ _ _ => trivial) p
  have preserved (s : PartySystem) (seen : List ℚ) (n : ℕ) (e : PartyLabel) (t : PartySystem)
      (bound : seen.length + owing id s ≤ n) (_ : True) (taken : step (partyProgram env) s e = some t) :
      (seen ++ refundsOf id s e).length + owing id t ≤ n + if ReportsFailure id s e then 1 else 0 := by
    have step := (refunds_step id taken).1
    rw [List.length_append]
    omega
  have start : ([] : List ℚ).length + owing id p ≤ 0 := by simp [idle]
  have bound := run_observed_tally (fun s seen n => seen.length + owing id s ≤ n) preserved start always returned
  simpa using bound

theorem reports_le_refunds (id : Id) {labels : List PartyLabel}
    (answers : Respects (step (partyProgram env)) ProcedureAnswers p labels)
    (returned : run (step (partyProgram env)) p labels = some q) :
    tally (step (partyProgram env)) (ReportsFailure id) p labels ≤
      (observed (step (partyProgram env)) (refundsOf id) p labels).length + owing id q := by
  have preserved (s : PartySystem) (seen : List ℚ) (n : ℕ) (e : PartyLabel) (t : PartySystem)
      (bound : n ≤ seen.length + owing id s) (answers : ProcedureAnswers s e)
      (taken : step (partyProgram env) s e = some t) :
      (n + if ReportsFailure id s e then 1 else 0) ≤ (seen ++ refundsOf id s e).length + owing id t := by
    have step := (refunds_step id taken).2 answers
    rw [List.length_append]
    omega
  have start : 0 ≤ ([] : List ℚ).length + owing id p := Nat.zero_le _
  have bound := run_observed_tally (fun s seen n => n ≤ seen.length + owing id s) preserved start answers
    returned
  simpa using bound

theorem refunds_amount (env : Env) (id : Id) (labels : List PartyLabel) (p : PartySystem) :
    ∀ amount ∈ observed (step (partyProgram env)) (refundsOf id) p labels,
      amount = WebhookCall.refundAmount := by
  induction labels generalizing p with
  | nil =>
    intro amount member
    cases member
  | cons l labels ih =>
    intro amount member
    simp only [observed] at member
    rcases List.mem_append.mp member with first | later
    · exact refundsOf_amount amount first
    · split at later
      · exact ih _ amount later
      · cases later

/-- A request is refunded at most once and with its price when at most one failure is reported while
it is not verified and the price is one credit; and only then, when every refund that is called returns
and no handler is left on its way to one. -/
theorem refundedOnce_iff_failsOnce {labels : List PartyLabel} (idle : owing id p = 0)
    (returned : run (step (partyProgram env)) p labels = some q) :
    (FailsOnce env (tally (step (partyProgram env)) (ReportsFailure id) p labels) →
        RefundedOnce env (observed (step (partyProgram env)) (refundsOf id) p labels)) ∧
      (Respects (step (partyProgram env)) ProcedureAnswers p labels → owing id q = 0 →
        RefundedOnce env (observed (step (partyProgram env)) (refundsOf id) p labels) →
        FailsOnce env (tally (step (partyProgram env)) (ReportsFailure id) p labels)) := by
  have most := refunds_le_reports idle returned
  have least := fun answers => reports_le_refunds id answers returned
  have amounts := refunds_amount env id labels p
  generalize observed (step (partyProgram env)) (refundsOf id) p labels = refunds at most least amounts ⊢
  constructor
  -- no more refunds than failures, and each of one credit
  · rintro (none_fails | ⟨once, price⟩)
    · have nothing : refunds = [] := List.length_eq_zero_iff.mp (by omega)
      rw [nothing]
      exact ⟨Nat.zero_le 1, fun amount member => (by cases member)⟩
    · exact ⟨by omega, fun amount member => by rw [amounts amount member, price]⟩
  -- every failure has been refunded by now, so there was one at most
  · rintro answers settled ⟨one, priced⟩
    have least := least answers
    rcases Nat.eq_zero_or_pos (tally (step (partyProgram env)) (ReportsFailure id) p labels) with
      none_fails | fails
    · exact Or.inl none_fails
    · have alone : refunds.length = 1 := by omega
      obtain ⟨amount, rfl⟩ := List.length_eq_one_iff.mp alone
      refine Or.inr ⟨by omega, ?_⟩
      rw [← priced amount (List.mem_singleton_self amount), amounts amount (List.mem_singleton_self amount)]

/-- One report of a failure, and one of a delivery after it. -/
theorem refundedOnce_of_failure :
    ∃ q, run (step (partyProgram sampleEnv)) sampleDelivery
        (.external (.webhook (statusPayload "wamid.1" "failed")) :: settle 0 6 ++
          .external (.webhook (statusPayload "wamid.1" "delivered")) :: settle 1 5) = some q ∧
      tally (step (partyProgram sampleEnv)) (ReportsFailure 10) sampleDelivery
        (.external (.webhook (statusPayload "wamid.1" "failed")) :: settle 0 6 ++
          .external (.webhook (statusPayload "wamid.1" "delivered")) :: settle 1 5) = 1 ∧
      RefundedOnce sampleEnv (observed (step (partyProgram sampleEnv)) (refundsOf 10) sampleDelivery
        (.external (.webhook (statusPayload "wamid.1" "failed")) :: settle 0 6 ++
          .external (.webhook (statusPayload "wamid.1" "delivered")) :: settle 1 5)) :=
  ⟨_, (Option.some_get (by decide +kernel)).symm, by decide +kernel,
    (refundedOnce_iff_failsOnce (p := sampleDelivery) rfl (Option.some_get (by decide +kernel)).symm).1
      (Or.inr ⟨by decide +kernel, rfl⟩)⟩

/-- The failure of one message is reported twice, and refunded twice. -/
theorem refunded_twice :
    ¬∀ (env : Env) (p q : PartySystem) (id : Id) (labels : List PartyLabel), owing id p = 0 →
      run (step (partyProgram env)) p labels = some q →
      RefundedOnce env (observed (step (partyProgram env)) (refundsOf id) p labels) := by
  intro once
  have violated := (once sampleEnv sampleDelivery _ 10
    (.external (.webhook (statusPayload "wamid.1" "failed")) :: settle 0 6 ++
      .external (.webhook (statusPayload "wamid.1" "failed")) :: settle 1 6)
    rfl (Option.some_get (by decide +kernel)).symm).1
  revert violated
  decide +kernel

end Steps

end SelfOtp.Edge
