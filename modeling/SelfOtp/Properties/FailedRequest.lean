import SelfOtp.Properties.Dispatches
import SelfOtp.Properties.Filing
import SelfOtp.Properties.OtpPool

/-! What a send or a resend that ends in an error leaves behind. -/
namespace SelfOtp

/-- The debit has been made. -/
def ResendPc.charged : ResendPc → Bool
  | update _ | store _ | setCooldown _ | enqueue _ | fallback _ | fallbackSent _ | replied _ => true
  | findRecord | expire _ | cooldown .. | debit _ | rejected _ | internalError => false

/-- The look-up in the state finds a code that the submitted one matches. -/
def VerifyCall.accepts (env : Env) (w : World) (ok : Bool) (c : VerifyCall) : Prop :=
  ∃ f, c.lookup env w ok = some f ∧ verifyOtpCode env c.submittedCode f.data.otpHash = true

namespace Thread

/-- The request has been answered with an error. -/
def failed : Thread → Bool
  | authenticating _ c =>
    match c.pc with
    | .rejected _ | .internalError => true
    | _ => false
  | send c =>
    match c.pc with
    | .rejected _ | .internalError => true
    | _ => false
  | resend c =>
    match c.pc with
    | .rejected _ | .internalError => true
    | _ => false
  | verify .. | status .. | dashboard _ | register _ | sendOtpJob _ | webhook _ => false

/-- The next step creates the row of a send or charges a resend. -/
def commits (env : Env) (w : World) (a : Answer) : Thread → Bool
  | send c =>
    match c.pc with
    | .create otpCode requestId expiresAt => a.ok &&
        (w.db.createOtpRequest (c.row env w.nextId otpCode requestId expiresAt)).isSome
    | _ => false
  | resend c =>
    match c.pc with
    | .debit _ => a.ok && decide (env.otpCreditCost ≤
        (WalletService.getOrCreateWallet (w.db.wallets c.customer.id)).balance)
    | _ => false
  | authenticating .. | verify .. | status .. | dashboard _ | register _ | sendOtpJob _
  | webhook _ => false

/-- A send or a resend that has not committed anything. -/
def uncommitted : Thread → Bool
  | authenticating request _ => request.endpoint.otp false
  | send c => c.pc.dispatch.isNone
  | resend c => !c.pc.charged
  | verify .. | status .. | dashboard _ | register _ | sendOtpJob _ | webhook _ => false

end Thread

namespace FailedRequest

open Pool Transition

/-- No wallet and no ledger has changed, there is no new request row, and no code is accepted that
would not be accepted now without the request. -/
structure NoTrace (env : Env) (w w' : World) : Prop where
  wallets : ∀ customerId, w'.db.wallets customerId = w.db.wallets customerId
  rows : ∀ r ∈ w'.db.otpRequests, ∃ s ∈ w.db.otpRequests, s.requestId = r.requestId
  codes : ∀ (c : VerifyCall) (ok : Bool), c.accepts env w' ok →
    c.accepts env { w with now := w'.now } ok

/-- If thread `i` has answered with an error in `q`, it leaves no trace. -/
def FailsCleanly (env : Env) (p q : System) (i : ℕ) : Prop :=
  ∀ t ∈ q.threads[i]?, t.failed = true → NoTrace env p.shared q.shared

/-- Thread `i` runs and time passes. -/
def Alone (i : ℕ) : SystemLabel → Prop
  | .resume j _ => j = i
  | .external (.tick _) => True
  | .external (.api ..) | .external (.dashboard ..) | .external (.register ..)
  | .external (.takeSendOtpJob _) | .external (.processWebhook ..) => False

def Commits (env : Env) (p : System) : SystemLabel → Prop
  | .resume i a => ∃ t ∈ p.threads[i]?, t.commits env p.shared a = true
  | .external _ => False

instance (env : Env) : DecidableRel (Commits env)
  | p, .resume i a => inferInstanceAs (Decidable (∃ t ∈ p.threads[i]?, t.commits env p.shared a = true))
  | _, .external _ => isFalse id

instance (i : ℕ) : DecidablePred (Alone i)
  | .resume j _ => inferInstanceAs (Decidable (j = i))
  | .external (.tick _) => isTrue trivial
  | .external (.api ..) | .external (.dashboard ..) | .external (.register ..)
  | .external (.takeSendOtpJob _) | .external (.processWebhook ..) => isFalse id

/-! ### Nothing committed -/

/-- What a request leaves untouched that has not committed anything. -/
structure Untouched (w w' : World) : Prop where
  wallets : w'.db.wallets = w.db.wallets
  requestIds : w'.db.otpRequests.map (·.requestId) = w.db.otpRequests.map (·.requestId)
  otp : w'.redis.otp = w.redis.otp
  memory : ∀ process, (w'.memory process).otp = (w.memory process).otp ∧
    (w'.memory process).heap = (w.memory process).heap

section Untouched

variable {env : Env} {w w' : World} {a : Answer}

theorem Untouched.refl (w : World) : Untouched w w := ⟨rfl, rfl, rfl, fun _ => ⟨rfl, rfl⟩⟩

theorem Untouched.trans {w'' : World} (first : Untouched w w') (second : Untouched w' w'') :
    Untouched w w'' :=
  ⟨second.wallets.trans first.wallets, second.requestIds.trans first.requestIds,
    second.otp.trans first.otp, fun process => ⟨(second.memory process).1.trans (first.memory process).1,
      (second.memory process).2.trans (first.memory process).2⟩⟩

theorem Untouched.of_core (same : SameCore w w') : Untouched w w' :=
  ⟨by rw [same.db], by rw [same.db], same.otp,
    fun process => ⟨(same.memory process).1, (same.memory process).2.1⟩⟩

theorem Untouched.noTrace (untouched : Untouched w w') : NoTrace env w w' := by
  constructor
  case wallets =>
    intro customerId
    rw [untouched.wallets]
  case rows =>
    intro r member
    have there := List.mem_map_of_mem (f := OtpRequest.requestId) member
    rw [untouched.requestIds] at there
    exact List.mem_map.mp there
  case codes =>
    rintro c ok ⟨f, found, right⟩
    refine ⟨f, ?_, right⟩
    rw [← found]
    unfold VerifyCall.lookup
    simp only [untouched.otp, (untouched.memory c.process).1, (untouched.memory c.process).2]

/-- A handler that starts has not committed anything. -/
theorem Thread.handler_uncommitted (session : Session) {request : ApiRequest}
    (otp : request.endpoint.otp false = true) :
    (Thread.handler session request).uncommitted = true := by
  unfold Thread.handler
  cases endpoint : request.endpoint with
  | send body idempotencyKey => rfl
  | resend requestId => rfl
  | verify | status | account =>
    rw [endpoint] at otp
    cases otp

theorem SendCall.step_uncommitted {c c' : SendCall} (h : c.step env w a = some (w', c'))
    (early : c.pc.dispatch = none) (spared : (Thread.send c).commits env w a = false) :
    Untouched w w' ∧ c'.pc.dispatch = none := by
  have move := (SendCall.step_move h).1
  simp only [Thread.commits] at spared
  generalize at_pc : c.pc = pc at move early spared
  generalize after : c'.pc = pc' at move
  cases move with
  | create otpCode requestId expiresAt db created =>
    -- the row can be created, so the call must have failed
    simp only [created, Option.isSome_some, Bool.and_true] at spared
    simp only [SendCall.step, at_pc, spared, Bool.false_eq_true, if_false] at h
    have crashed : c.goto .internalError = c' := (Prod.ext_iff.mp (Option.some.inj h)).2
    rw [← crashed] at after
    cases after
  | refuse before same => exact ⟨.of_core same, rfl⟩
  | check before same late => exact ⟨.of_core same, SendPc.checking_dispatch late⟩
  | early before late =>
    rcases late with rfl | ⟨key, -, rfl⟩ | ⟨-, rfl⟩ <;> exact ⟨.refl w, rfl⟩
  | hit | miss | known | unknown | prepare | crash => exact ⟨.refl w, rfl⟩
  | _ => cases early

theorem ResendCall.step_uncommitted {c c' : ResendCall} (h : c.step env w a = some (w', c'))
    (early : c.pc.charged = false) (spared : (Thread.resend c).commits env w a = false) :
    Untouched w w' ∧ c'.pc.charged = false := by
  have move := (ResendCall.step_move h).1
  simp only [Thread.commits] at spared
  generalize at_pc : c.pc = pc at move early spared
  generalize after : c'.pc = pc' at move
  cases move with
  | debit d balance wallet paid =>
    -- the balance suffices, so the call must have failed
    have enough : env.otpCreditCost ≤
        (WalletService.getOrCreateWallet (w.db.wallets c.customer.id)).balance := by
      unfold WalletService.deductCreditsAtomic at paid
      dsimp only at paid
      split at paid <;> cases paid
      next enough => exact not_lt.mp enough
    simp only [decide_eq_true enough, Bool.and_true] at spared
    simp only [ResendCall.step, at_pc, spared, Bool.false_eq_true, if_false] at h
    have crashed : c.goto .internalError = c' := (Prod.ext_iff.mp (Option.some.inj h)).2
    rw [← crashed] at after
    cases after
  | expire record =>
    exact ⟨⟨rfl, w.db.map_updateOtpRequest (·.requestId) record _ fun _ => rfl, rfl,
      fun _ => ⟨rfl, rfl⟩⟩, rfl⟩
  | reject | lapse | found | prepare | crash => exact ⟨.refl w, rfl⟩
  | _ => cases early

/-- A request that does not commit in this step has still not committed anything. -/
theorem Thread.resume_uncommitted {t t' : Thread} (resumed : t.resume env w a = some (w', t'))
    (early : t.uncommitted = true) (spared : t.commits env w a = false) :
    Untouched w w' ∧ t'.uncommitted = true := by
  cases t with
  | authenticating request c =>
    simp only [Thread.resume] at resumed
    obtain ⟨c', stepped, rfl⟩ := Thread.stepped_eq_some resumed
    refine ⟨.of_core (AuthCall.step_session stepped).1, ?_⟩
    split
    · exact Thread.handler_uncommitted _ early
    · exact early
  | send c =>
    obtain ⟨c', stepped, rfl⟩ := Thread.stepped_eq_some resumed
    obtain ⟨untouched, still⟩ := SendCall.step_uncommitted stepped (Option.isNone_iff_eq_none.mp early) spared
    exact ⟨untouched, Option.isNone_iff_eq_none.mpr still⟩
  | resend c =>
    obtain ⟨c', stepped, rfl⟩ := Thread.stepped_eq_some resumed
    obtain ⟨untouched, still⟩ := ResendCall.step_uncommitted stepped
      (by simpa [Thread.uncommitted] using early) spared
    exact ⟨untouched, by simpa [Thread.uncommitted] using still⟩
  | verify | status | dashboard | register | sendOtpJob | webhook => cases early

end Untouched

/-! ### Something committed -/

/-- The row of the send is there, or the customer of the resend has been charged. -/
def Committed (w w' : World) : Thread → Prop
  | .send _ => ∃ r ∈ w'.db.otpRequests, ∀ s ∈ w.db.otpRequests, s.requestId ≠ r.requestId
  | .resend c => (c.pc.charged || c.pc.answered) = true ∧
      w'.db.wallets c.customer.id ≠ w.db.wallets c.customer.id
  | .authenticating .. | .verify .. | .status .. | .dashboard _ | .register _ | .sendOtpJob _
  | .webhook _ => False

section Committed

variable {env : Env} {w w' w'' : World} {a : Answer}

theorem Committed.trace {t : Thread} (committed : Committed w w' t) : ¬NoTrace env w w' := by
  intro clean
  cases t with
  | send c =>
    obtain ⟨r, member, new⟩ := committed
    obtain ⟨s, old, names⟩ := clean.rows r member
    exact new s old names
  | resend c => exact committed.2 (clean.wallets c.customer.id)
  | authenticating | verify | status | dashboard | register | sendOtpJob | webhook => exact committed

/-- A wallet that has been posted to is not what it was. -/
theorem deducted_ne {row : Option Wallet} {cost balance : ℚ} {type id : String} {wallet : Wallet}
    (paid : WalletService.deductCreditsAtomic resolves row cost type id = .ok (balance, wallet)) :
    some wallet ≠ row := by
  unfold WalletService.deductCreditsAtomic at paid
  dsimp only at paid
  split at paid <;> cases paid
  cases row with
  | none => exact fun same => (by cases same)
  | some old =>
    intro same
    have entries := congrArg (fun x => (WalletService.getOrCreateWallet x).transactions.length) same
    simp [Wallet.enter, WalletService.getOrCreateWallet] at entries

theorem Thread.resume_commits {t t' : Thread} (resumed : t.resume env w' a = some (w'', t'))
    (untouched : Untouched w w') (commits : t.commits env w' a = true) : Committed w w'' t' := by
  cases t with
  | send c =>
    obtain ⟨c', stepped, rfl⟩ := Thread.stepped_eq_some resumed
    simp only [Thread.commits] at commits
    split at commits
    next otpCode requestId expiresAt at_create =>
      rw [Bool.and_eq_true] at commits
      obtain ⟨db, created⟩ := Option.isSome_iff_exists.mp commits.2
      simp only [SendCall.step, at_create, commits.1, if_true, created] at stepped
      cases stepped
      unfold Database.createOtpRequest at created
      split at created <;> cases created
      next valid =>
        refine ⟨_, List.mem_append_right _ (List.mem_singleton_self _), fun s old => ?_⟩
        have there := List.mem_map_of_mem (f := OtpRequest.requestId) old
        rw [← untouched.requestIds] at there
        obtain ⟨r, member, names⟩ := List.mem_map.mp there
        rw [← names]
        exact valid.1 r member
    · cases commits
  | resend c =>
    obtain ⟨c', stepped, rfl⟩ := Thread.stepped_eq_some resumed
    simp only [Thread.commits] at commits
    split at commits
    next d at_debit =>
      rw [Bool.and_eq_true, decide_eq_true_eq] at commits
      simp only [ResendCall.step, at_debit, commits.1, if_true] at stepped
      split at stepped
      next balance wallet paid =>
        cases stepped
        refine ⟨rfl, ?_⟩
        show Function.update w'.db.wallets c.customer.id (some wallet) c.customer.id ≠ _
        rw [Function.update_self, ← untouched.wallets]
        exact deducted_ne paid
      next error unpaid =>
        rw [WalletService.deductCreditsAtomic_sufficient commits.2] at unpaid
        cases unpaid
      next refused => exact absurd refused WalletService.deductCreditsAtomic_ne_database
    · cases commits
  | authenticating | verify | status | dashboard | register | sendOtpJob | webhook => cases commits

/-- What has been committed stays. -/
theorem Thread.resume_committed {t t' : Thread} (resumed : t.resume env w' a = some (w'', t'))
    (committed : Committed w w' t) : Committed w w'' t' := by
  have rows := Thread.resume_rows resumed
  cases t with
  | send c =>
    obtain ⟨c', stepped, rfl⟩ := Thread.stepped_eq_some resumed
    obtain ⟨r, member, new⟩ := committed
    obtain ⟨s, kept, same⟩ := RowsTo.persists rows member
    exact ⟨s, kept, fun old there => same.requestId ▸ new old there⟩
  | resend c =>
    obtain ⟨c', stepped, rfl⟩ := Thread.stepped_eq_some resumed
    obtain ⟨late, charged⟩ := committed
    obtain ⟨move, same_call⟩ := ResendCall.step_move stepped
    rw [same_call]
    show (c'.pc.charged || c'.pc.answered) = true ∧ w''.db.wallets c.customer.id ≠ _
    generalize c.pc = pc at move late
    generalize c'.pc = pc' at move
    cases move with
    | update | enqueue | offline | markSent | crash => exact ⟨rfl, charged⟩
    | deliver d after =>
      rw [after]
      split <;> exact ⟨rfl, charged⟩
    | store d =>
      refine ⟨rfl, ?_⟩
      unfold storeOtp
      split <;> exact charged
    | setCooldown d same =>
      rw [same.db]
      exact ⟨rfl, charged⟩
    | expire | lapse | found | prepare | debit => cases late
    | reject before error =>
      cases pc <;> first
        | exact (Bool.false_ne_true late).elim
        | exact (Bool.false_ne_true before).elim
  | authenticating | verify | status | dashboard | register | sendOtpJob | webhook =>
    exact committed.elim

end Committed

/-! ### The run of one request -/

section Runs

variable {env : Env} {p q : System} {i : ℕ}

/-- The thread has not committed anything yet. -/
def Clean (w : World) (i : ℕ) (s : System) : Prop :=
  ∃ t, s.threads[i]? = some t ∧ t.uncommitted = true ∧ Untouched w s.shared

/-- The thread has committed something. -/
def Tracked (w : World) (i : ℕ) (s : System) : Prop :=
  ∃ t, s.threads[i]? = some t ∧ Committed w s.shared t

variable {w : World} {s t : System} {l : SystemLabel}

theorem Clean.noTrace (clean : Clean w i s) : NoTrace env w s.shared := by
  obtain ⟨t, -, -, untouched⟩ := clean
  exact untouched.noTrace

theorem Tracked.trace (tracked : Tracked w i s) : ¬NoTrace env w s.shared := by
  obtain ⟨t, -, committed⟩ := tracked
  exact committed.trace

theorem Clean.step (clean : Clean w i s) (alone : Alone i l)
    (taken : Pool.step (systemProgram env) s l = some t) :
    ¬Commits env s l ∧ Clean w i t ∨ Commits env s l ∧ Tracked w i t := by
  obtain ⟨x, found, early, untouched⟩ := clean
  cases l with
  | resume j a =>
    cases alone
    obtain ⟨y, w', u, there, resumed, rfl⟩ := step_resume taken
    cases found.symm.trans there
    have now_there : (s.threads.set i u)[i]? = some u :=
      List.getElem?_set_self (List.getElem?_eq_some_iff.mp found).1
    cases commits : x.commits env s.shared a with
    | true =>
      exact Or.inr ⟨⟨x, by rw [found]; rfl, commits⟩, u, now_there,
        Thread.resume_commits resumed untouched commits⟩
    | false =>
      obtain ⟨same, still⟩ := Thread.resume_uncommitted resumed early commits
      refine Or.inl ⟨?_, u, now_there, still, untouched.trans same⟩
      rintro ⟨z, here, commits'⟩
      rw [found] at here
      cases here
      rw [commits] at commits'
      cases commits'
  | external event =>
    obtain ⟨w', born, acted, rfl⟩ := step_external taken
    cases event with
    | tick d =>
      cases acted
      refine Or.inl ⟨id, x, ?_, early, untouched.trans ⟨rfl, rfl, rfl, fun _ => ⟨rfl, rfl⟩⟩⟩
      simpa using found
    | api | dashboard | register | takeSendOtpJob | processWebhook => cases alone

theorem Tracked.step (tracked : Tracked w i s) (alone : Alone i l)
    (taken : Pool.step (systemProgram env) s l = some t) : Tracked w i t := by
  obtain ⟨x, found, committed⟩ := tracked
  cases l with
  | resume j a =>
    cases alone
    obtain ⟨y, w', u, there, resumed, rfl⟩ := step_resume taken
    cases found.symm.trans there
    exact ⟨u, List.getElem?_set_self (List.getElem?_eq_some_iff.mp found).1,
      Thread.resume_committed resumed committed⟩
  | external event =>
    obtain ⟨w', born, acted, rfl⟩ := step_external taken
    cases event with
    | tick d =>
      cases acted
      refine ⟨x, by simpa using found, ?_⟩
      cases x <;> exact committed
    | api | dashboard | register | takeSendOtpJob | processWebhook => cases alone

theorem Clean.arrival {rawApiKey : Option String} {request : ApiRequest}
    (otp : request.endpoint.otp false = true)
    (taken : Pool.step (systemProgram env) p (.external (.api rawApiKey request)) = some s) :
    Clean p.shared p.threads.length s := by
  obtain ⟨w', born, acted, rfl⟩ := step_external taken
  cases acted
  exact ⟨.authenticating request (.start rawApiKey request.process), by simp, otp, .refl p.shared⟩

/-- A send or a resend that fails leaves no trace if and only if it fails before it has created its
row or charged its customer. -/
theorem failsCleanly_iff_uncommitted {rawApiKey : Option String} {request : ApiRequest}
    {labels : List SystemLabel} (otp : request.endpoint.otp false = true)
    (alone : ∀ l ∈ labels, Alone p.threads.length l)
    (returned : run (step (systemProgram env)) p
      (.external (.api rawApiKey request) :: labels) = some q) :
    FailsCleanly env p q p.threads.length ↔
      ∀ t ∈ q.threads[p.threads.length]?, t.failed = true →
        Respects (step (systemProgram env)) (fun s l => ¬Commits env s l) p
          (.external (.api rawApiKey request) :: labels) := by
  obtain ⟨s, taken, rest⟩ := run_cons returned
  have clean := Clean.arrival otp taken
  have apart : Respects (step (systemProgram env)) (fun _ l => Alone p.threads.length l) s labels :=
    respects_of_forall (fun l there _ => alone l there) s
  have split_run : Respects (step (systemProgram env)) (fun s l => ¬Commits env s l) s labels ∧
      Clean p.shared p.threads.length q ∨ Tracked p.shared p.threads.length q :=
    respects_or_marked (Clean p.shared p.threads.length) (Tracked p.shared p.threads.length)
      (fun _ _ _ clean alone taken => (clean.step alone taken).imp_right And.right)
      (fun _ _ _ tracked alone taken => tracked.step alone taken) clean apart rest
  refine forall_congr' fun t => forall_congr' fun there => forall_congr' fun failed => ?_
  constructor
  · intro clean
    rcases split_run with ⟨respects, -⟩ | tracked
    · exact ⟨id, by simpa only [taken] using respects⟩
    · exact absurd clean tracked.trace
  · rintro ⟨-, respects⟩
    simp only [taken] at respects
    refine Clean.noTrace (i := p.threads.length) ?_
    refine run_invariant_of_respects (Clean p.shared p.threads.length) (fun s l t clean allowed taken => ?_)
      clean (apart.and respects) rest
    exact ((clean.step allowed.1 taken).resolve_right fun bad => allowed.2 bad.1).2

/-- A resend of a request that does not exist. -/
theorem failsCleanly_of_unknown_request :
    ∃ q, run (step (systemProgram OtpPool.sampleEnv)) sampleSystem
        (sampleRequest (.resend "req_00") :: resolve 0 6) = some q ∧
      (FailsCleanly OtpPool.sampleEnv sampleSystem q 0 ↔
        ∀ t ∈ q.threads[0]?, t.failed = true →
          Respects (step (systemProgram OtpPool.sampleEnv))
            (fun s l => ¬Commits OtpPool.sampleEnv s l) sampleSystem
            (sampleRequest (.resend "req_00") :: resolve 0 6)) :=
  ⟨_, (Option.some_get (by decide +kernel)).symm,
    failsCleanly_iff_uncommitted rfl (by decide +kernel) (Option.some_get (by decide +kernel)).symm⟩

/-- The queue does not take the message of a send, the provider refuses it, and the database fails
before the refund: the send ends in an error and has been paid for. -/
theorem charged_by_failed_send :
    ¬∀ (env : Env) (p q : System) (rawApiKey : Option String) (request : ApiRequest)
      (labels : List SystemLabel), request.endpoint.otp false = true →
      (∀ l ∈ labels, Alone p.threads.length l) →
      run (step (systemProgram env)) p (.external (.api rawApiKey request) :: labels) = some q →
      FailsCleanly env p q p.threads.length := by
  intro clean
  have violated := clean OtpPool.sampleEnv sampleSystem _ (some "wotp_live_00")
    ⟨.send ⟨"+4915112345678", some "424242", 300, "otp_auth_v1", "en_US"⟩ none, "198.51.100.7", none,
      0, 7, 0⟩
    (resolve 0 28 ++ [.resume 0 (.threw "queue offline"),
      .resume 0 (.rejected "Meta API error (HTTP 400)"), .resume 0 (.threw "database down")])
    rfl (by decide +kernel) (Option.some_get (by decide +kernel)).symm
    _ (Option.some_get (by decide +kernel)).symm (by decide +kernel)
  have wallet := violated.wallets 1
  revert wallet
  decide +kernel

end Runs

end FailedRequest

end SelfOtp
