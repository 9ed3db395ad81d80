import SelfOtp.Properties.IssuedCodes

/-! Verified requests are paid for: each of them has a debit of its own, in the wallet of the customer
who has first issued a code for it. -/
namespace SelfOtp

open Pool Transition MessageBound

/-- The customer who has first issued a code for the request. -/
def payer (known : List Issue) (requestId : String) : Option Id :=
  (known.find? (·.requestId == requestId)).map (·.customerId)

/-- The verified requests that the customer pays for. -/
def verifiedBy (known : List Issue) (customerId : Id) (rows : List OtpRequest) : ℕ :=
  rows.countP fun r => r.status == .verified && payer known r.requestId == some customerId

/-- The debit is made and its code is not issued yet. -/
def SendPc.awaitsIssue : SendPc → Bool
  | store _ => true
  | _ => false

def ResendPc.awaitsIssue : ResendPc → Bool
  | update _ | store _ => true
  | _ => false

/-- The codes for which the thread has debited the customer and that it has not issued. -/
def Thread.unissued (customerId : Id) : Thread → ℕ
  | send c => if c.pc.awaitsIssue && c.customer.id == customerId then 1 else 0
  | resend c => if c.pc.awaitsIssue && c.customer.id == customerId then 1 else 0
  | authenticating .. | verify .. | status .. | dashboard _ | register _ | sendOtpJob _ | webhook _ => 0

def issuedBy (customerId : Id) (issues : List Issue) : ℕ := issues.countP (·.customerId == customerId)

section Steps

variable {env : Env} {w w' : World} {a : Answer} {customerId : Id}

theorem SendPc.checking_awaitsIssue {pc : SendPc} (checking : pc.checking = true) : pc.awaitsIssue = false := by
  cases pc <;> first | rfl | cases checking

theorem SendCall.finish_awaitsIssue (c : SendCall) (d : Dispatch) : (c.finish env d).awaitsIssue = false := by
  unfold finish
  split <;> rfl

/-- What a thread has issued or has yet to issue after a step is covered by its debits. -/
def Covers (env : Env) (customerId : Id) (w w' : World) (t t' : Thread) : Prop :=
  issuedBy customerId (t.issues env) + t'.unissued customerId + debits w customerId ≤
    t.unissued customerId + debits w' customerId

theorem Covers.quiet {t t' : Thread} (debited : debits w customerId ≤ debits w' customerId)
    (before : t.issues env = []) (after : t'.unissued customerId = 0) : Covers env customerId w w' t t' := by
  rw [Covers, before, after, issuedBy, List.countP_nil]
  omega

/-- Nothing is issued, and nothing is due afterwards. -/
theorem covers_idle {before : ℕ} {issuing own : Bool} (debited : debits w customerId ≤ debits w' customerId)
    (idle : issuing = false) :
    issuedBy customerId [] + (if issuing && own then 1 else 0) + debits w customerId ≤
      before + debits w' customerId := by
  rw [idle, issuedBy, List.countP_nil, Bool.false_and, if_neg Bool.false_ne_true]
  omega

theorem debits_paid {owner : Id} {cost balance : ℚ} {wallet : Wallet} {kind reference : String}
    (debited : debits w customerId ≤ debits (w.mapDb (·.setWallet owner wallet)) customerId)
    (paid : WalletService.deductCreditsAtomic resolves (w.db.wallets owner) cost kind reference =
      .ok (balance, wallet)) :
    (if owner == customerId then 1 else 0) + debits w customerId ≤
      debits (w.mapDb (·.setWallet owner wallet)) customerId := by
  by_cases same : owner = customerId
  · subst same
    rw [debits_deduct paid, if_pos (beq_self_eq_true owner), Nat.add_comm]
  · rw [if_neg (by simpa using same), Nat.zero_add]
    exact debited

/-- A send issues a code only after a debit of its own. -/
theorem SendCall.step_covers {c c' : SendCall} (h : c.step env w a = some (w', c')) (customerId : Id) :
    Covers env customerId w w' (.send c) (.send c') := by
  have debited := WalletsStep.debits_le (SendCall.step_wallets h) customerId
  obtain ⟨move, same⟩ := step_move h
  have after : (Thread.send c').unissued customerId =
      if c'.pc.awaitsIssue && c.customer.id == customerId then 1 else 0 := by
    rw [same]
    rfl
  rw [Covers, after]
  simp only [Thread.issues, Thread.unissued]
  clear after
  generalize c.pc = pc at move
  generalize c'.pc = pc' at move
  cases move with
  | debit d balance wallet paid =>
    have covered := debits_paid debited paid
    simp only [SendPc.awaitsIssue, issuedBy, List.countP_nil, Bool.true_and, Bool.false_and,
      Bool.false_eq_true, if_false]
    omega
  | store d =>
    simp only [SendPc.awaitsIssue, issuedBy, issue, List.countP_singleton, Bool.true_and, Bool.false_and,
      Bool.false_eq_true, if_false]
    omega
  | check before core after =>
    cases pc <;> first | exact covers_idle debited (SendPc.checking_awaitsIssue after) | cases before
  | early before after =>
    obtain rfl | ⟨key, -, rfl⟩ | ⟨-, rfl⟩ := after <;>
    · cases pc <;> first | exact covers_idle debited rfl | cases before
  | refuse before core error =>
    cases pc <;> first | exact covers_idle debited rfl | (rcases before with early | checking <;> contradiction)
  | deliver d after => exact covers_idle debited (by rw [after]; split <;> rfl)
  | enqueue d | markSent d | refund d => exact covers_idle debited (finish_awaitsIssue c d)
  | crash before cause => cases pc <;> first | exact covers_idle debited rfl | cases before
  | hit | miss | known | unknown | prepare | create | unpaid | setCooldown | offline | markFailed | saveCache
  | saveRecord => exact covers_idle debited rfl

theorem ResendCall.step_covers {c c' : ResendCall} (h : c.step env w a = some (w', c')) (customerId : Id) :
    Covers env customerId w w' (.resend c) (.resend c') := by
  have debited := WalletsStep.debits_le (ResendCall.step_wallets h) customerId
  obtain ⟨move, same⟩ := step_move h
  have after : (Thread.resend c').unissued customerId =
      if c'.pc.awaitsIssue && c.customer.id == customerId then 1 else 0 := by
    rw [same]
    rfl
  rw [Covers, after]
  simp only [Thread.issues, Thread.unissued]
  clear after
  generalize c.pc = pc at move
  generalize c'.pc = pc' at move
  cases move with
  | debit d balance wallet paid =>
    have covered := debits_paid debited paid
    simp only [ResendPc.awaitsIssue, issuedBy, List.countP_nil, Bool.true_and, Bool.false_and,
      Bool.false_eq_true, if_false]
    omega
  | update d =>
    simp only [ResendPc.awaitsIssue, issuedBy, List.countP_nil, Bool.true_and]
    omega
  | store d =>
    simp only [ResendPc.awaitsIssue, issuedBy, issue, List.countP_singleton, Bool.true_and, Bool.false_and,
      Bool.false_eq_true, if_false]
    omega
  | deliver d after => exact covers_idle debited (by rw [after]; split <;> rfl)
  | reject before => cases pc <;> first | exact covers_idle debited rfl | cases before
  | crash before down => cases pc <;> first | exact covers_idle debited rfl | cases before
  | lapse | found | expire | prepare | setCooldown | enqueue | offline | markSent =>
    exact covers_idle debited rfl

theorem Thread.handler_unissued (s : Session) (request : ApiRequest) :
    (handler s request).unissued customerId = 0 := by
  unfold handler
  split <;> rfl

theorem Thread.resume_covers {t t' : Thread} (h : Thread.resume env w t a = some (w', t')) (customerId : Id) :
    Covers env customerId w w' t t' := by
  have debited := WalletsStep.debits_le (Thread.resume_wallets h) customerId
  cases t with
  | authenticating request c =>
    simp only [resume] at h
    obtain ⟨c', -, rfl⟩ := stepped_eq_some h
    refine .quiet debited rfl ?_
    split
    · exact handler_unissued _ request
    · rfl
  | send c =>
    obtain ⟨c', stepped, rfl⟩ := stepped_eq_some h
    exact SendCall.step_covers stepped customerId
  | resend c =>
    obtain ⟨c', stepped, rfl⟩ := stepped_eq_some h
    exact ResendCall.step_covers stepped customerId
  | verify | status | dashboard | register | sendOtpJob | webhook =>
    obtain ⟨c', -, rfl⟩ := stepped_eq_some h
    exact .quiet debited rfl rfl

theorem Thread.external_unissued {event : SystemEvent} {born : List Thread}
    (acted : Thread.external w event = some (w', born)) (customerId : Id) :
    total (Thread.unissued customerId) born = 0 := by
  cases event with
  | takeSendOtpJob i =>
    simp only [external] at acted
    split at acted <;> cases acted
    rfl
  | tick | api | dashboard | register | processWebhook =>
    cases acted
    rfl

end Steps

/-! ### Runs -/

/-- Request ids stay distinct. -/
theorem RowsStep.distinct {rows rows' : List OtpRequest} {nextId nextId' : Id} {change : Option RowChange}
    (step : RowsStep rows nextId rows' nextId' change) (distinct : (rows.map (·.requestId)).Nodup) :
    (rows'.map (·.requestId)).Nodup := by
  cases step with
  | same => exact distinct
  | create row fresh unused =>
    rw [List.map_append, List.map_singleton]
    refine List.nodup_append.mpr ⟨distinct, List.pairwise_singleton _ _, fun old there new one => ?_⟩
    obtain ⟨r, member, rfl⟩ := List.mem_map.mp there
    rw [List.mem_singleton.mp one]
    exact unused r member
  | edit id f keeps | write id s f keeps =>
    have same : (rows.map fun r => if r.id = id then f r else r).map (·.requestId) =
        rows.map (·.requestId) := by
      rw [List.map_map]
      refine List.map_congr_left fun r _ => ?_
      simp only [Function.comp_apply]
      split
      · exact (keeps r).requestId
      · rfl
    rwa [same]

structure Paying (env : Env) (p : System) (known : List Issue) : Prop where
  issuing : Issuing env p known
  distinct : (p.shared.db.otpRequests.map (·.requestId)).Nodup
  covered : ∀ customerId, issuedBy customerId known + total (Thread.unissued customerId) p.threads ≤
    debits p.shared customerId

/-- Each verified request is paid for by the customer who has first issued a code for it, with a debit
of its own. -/
structure VerifiedPaid (p : System) (known : List Issue) : Prop where
  payers : ∀ r ∈ p.shared.db.otpRequests, r.status = .verified → (payer known r.requestId).isSome
  charged : ∀ customerId, verifiedBy known customerId p.shared.db.otpRequests ≤ debits p.shared customerId

section Runs

variable {env : Env} {p q : System} {known : List Issue}

theorem Paying.step (paying : Paying env p known) {l : SystemLabel}
    (taken : Pool.step (systemProgram env) p l = some q) : Paying env q (known ++ issued env p l) := by
  refine ⟨paying.issuing.step taken, ?_, fun customerId => ?_⟩
  · cases l with
    | resume i a =>
      obtain ⟨t, w', t', found, resumed, rfl⟩ := step_resume taken
      obtain ⟨change, rows, -⟩ := Thread.resume_rows resumed
      exact rows.distinct paying.distinct
    | external event =>
      obtain ⟨w', born, acted, rfl⟩ := step_external taken
      have same : External env p.shared w' born := Thread.external_cases acted
      simp only [same.db]
      exact paying.distinct
  · have before := paying.covered customerId
    cases l with
    | resume i a =>
      obtain ⟨t, w', t', found, resumed, rfl⟩ := step_resume taken
      have covers := Thread.resume_covers resumed customerId
      have moved := total_set (m := Thread.unissued customerId) found t'
      simp only [issued, found, issuedBy, List.countP_append, Covers] at before covers ⊢
      omega
    | external event =>
      obtain ⟨w', born, acted, rfl⟩ := step_external taken
      have same : External env p.shared w' born := Thread.external_cases acted
      have none_due := Thread.external_unissued acted customerId
      have unmoved : debits w' customerId = debits p.shared customerId := by
        simp only [debits, JobCall.ledger, same.db]
      simp only [issued, List.append_nil, total_append, none_due, unmoved, Nat.add_zero]
      exact before

theorem Unused.paying (unused : Unused p) (unsent : p.shared.provider = []) : Paying env p [] := by
  refine ⟨unused.issuing unsent, ?_, fun customerId => ?_⟩
  · rw [unused.rows]
    exact List.nodup_nil
  · rw [unused.threads]
    exact Nat.zero_le _

theorem payer_eq_some {requestId : String} {customerId : Id} (pays : payer known requestId = some customerId) :
    ∃ issue ∈ known, issue.customerId = customerId ∧ issue.requestId = requestId := by
  obtain ⟨issue, found, rfl⟩ := Option.map_eq_some_iff.mp pays
  exact ⟨issue, List.mem_of_find?_eq_some found, rfl, by simpa using List.find?_some found⟩

/-- Distinct requests take distinct codes. -/
theorem Paying.verifiedBy_le (paying : Paying env p known) (customerId : Id) :
    verifiedBy known customerId p.shared.db.otpRequests ≤ issuedBy customerId known := by
  let verified := p.shared.db.otpRequests.filter fun r =>
    r.status == .verified && payer known r.requestId == some customerId
  let codes := known.filter (·.customerId == customerId)
  have distinct : (verified.map (·.requestId)).Nodup :=
    paying.distinct.sublist (List.filter_sublist.map _)
  have within : verified.map (·.requestId) ⊆ codes.map (·.requestId) := by
    intro requestId member
    obtain ⟨r, there, rfl⟩ := List.mem_map.mp member
    have conditions := (List.mem_filter.mp there).2
    simp only [Bool.and_eq_true, beq_iff_eq] at conditions
    obtain ⟨issue, issued, of_customer, names⟩ := payer_eq_some conditions.2
    exact List.mem_map.mpr ⟨issue, List.mem_filter.mpr ⟨issued, by simpa using of_customer⟩, names⟩
  have le := (List.subperm_of_subset distinct within).length_le
  rw [List.length_map, List.length_map] at le
  rwa [verifiedBy, issuedBy, List.countP_eq_length_filter, List.countP_eq_length_filter]

theorem Paying.verifiedPaid (paying : Paying env p known) : VerifiedPaid p known := by
  refine ⟨fun r there verified => ?_, fun customerId => ?_⟩
  · obtain ⟨issue, issued, names, -⟩ := paying.issuing.verified r there verified
    rw [payer, Option.isSome_map]
    exact List.find?_isSome.mpr ⟨issue, issued, by simpa using names⟩
  · have covered := paying.covered customerId
    exact (paying.verifiedBy_le customerId).trans ((Nat.le_add_right _ _).trans covered)

/-- Whatever is interleaved, retried or lost, a customer's debits are at least as many as the verified
requests that it pays for, and every verified request has a payer. -/
theorem verified_requests_paid {es : List SystemLabel} (unused : Unused p) (unsent : p.shared.provider = [])
    (ran : Transition.run (Pool.step (systemProgram env)) p es = some q) :
    VerifiedPaid q (observed (Pool.step (systemProgram env)) (issued env) p es) := by
  have paying := run_observed (Paying env) (fun _ _ _ _ paying taken => paying.step taken)
    (unused.paying unsent) ran
  exact paying.verifiedPaid

end Runs

/-- A send is verified, and the next one is sent and not verified. -/
def oneOfTwoVerified : List SystemLabel :=
  customVerified ++ Billing.sampleSend "+4915112345679" 8 3

theorem verified_requests_paid_oneOfTwo :
    ∃ q, Transition.run (Pool.step (systemProgram OtpPool.sampleEnv)) sampleSystem oneOfTwoVerified =
        some q ∧
      debits q.shared 1 = 2 ∧
      verifiedBy (observed (Pool.step (systemProgram OtpPool.sampleEnv)) (issued OtpPool.sampleEnv) sampleSystem
        oneOfTwoVerified) 1 q.shared.db.otpRequests = 1 ∧
      VerifiedPaid q (observed (Pool.step (systemProgram OtpPool.sampleEnv)) (issued OtpPool.sampleEnv)
        sampleSystem oneOfTwoVerified) :=
  ⟨_, (Option.some_get (by decide +kernel)).symm, by decide +kernel, by decide +kernel,
    verified_requests_paid sampleSystem_opening.toUnused rfl (Option.some_get (by decide +kernel)).symm⟩

end SelfOtp
