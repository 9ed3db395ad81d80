import SelfOtp.Lib.Progress
import SelfOtp.Properties.MessageBound

/-! Every request is answered and every job ends, whatever their awaited calls come to. -/
namespace SelfOtp

open Pool

/-! ### How many awaited calls are left -/

def LimitCall.rank (call : LimitCall) : ℕ :=
  match call.command with
  | .zremrangebyscore => 4
  | .zadd => 3
  | .zcard => 2
  | .expire _ => 1

def AuthPc.rank : AuthPc → ℕ
  | findKey => 36
  | limit _ call => 31 + call.rank
  | authenticated _ | rejected _ | internalError => 0

/-- The limits that are checked after this one. -/
def SendLimit.after : SendLimit → ℕ
  | ip => 3
  | phone => 2
  | customer => 1
  | apiKey => 0

def SendPc.rank : SendPc → ℕ
  | customerBlocked => 31
  | phoneBlocked => 30
  | idempotencyCache _ => 29
  | idempotencyRecord _ => 28
  | limit l call => 11 + 4 * l.after + call.rank
  | cooldown => 11
  | create .. => 10
  | debit _ => 9
  | store _ => 8
  | setCooldown _ => 7
  | enqueue _ => 6
  | fallback _ => 5
  | fallbackFailed .. => 4
  | fallbackSent _ | fallbackRefund .. => 3
  | saveCache .. => 2
  | saveRecord .. => 1
  | replied .. | rejected _ | internalError => 0

def ResendPc.rank : ResendPc → ℕ
  | findRecord => 9
  | cooldown .. => 8
  | debit _ => 7
  | update _ => 6
  | store _ => 5
  | setCooldown _ => 4
  | enqueue _ => 3
  | fallback _ => 2
  | expire _ | fallbackSent _ => 1
  | replied _ | rejected _ | internalError => 0

def VerifyPc.rank : VerifyPc → ℕ
  | lookup => 7
  | findRecord _ => 6
  | incorrectAttempts .. => 5
  | incorrectVerification .. => 4
  | maxStatus .. | delete .. => 3
  | maxBlock _ | ttl _ | verifiedStatus .. => 2
  | maxDelete _ | writeBack .. | correctVerification .. => 1
  | verified _ | rejected _ | internalError => 0

def StatusPc.rank : StatusPc → ℕ
  | findRecord => 2
  | expire _ => 1
  | answered _ | rejected _ | internalError => 0

def JwtPc.rank : JwtPc → ℕ
  | findUser => 5
  | findCustomer _ => 4
  | authenticated _ | rejected _ => 0

def DashboardPc.rank : DashboardPc → ℕ
  | authenticate _ jwt => jwt.rank
  | handle _ => 3
  | countVerified .. => 2
  | deleteApplication .. | revokeApiKey .. | readWallet .. | readTransactions _ | countFailed .. => 1
  | answered .. | rejected _ | internalError => 0

def RegisterPc.rank : RegisterPc → ℕ
  | findUser => 2
  | create => 1
  | registered .. | rejected _ | internalError => 0

/-- The rank within an attempt. -/
def JobPc.rank : JobPc → ℕ
  | send => 10
  | createMessage _ => 9
  | createEvent .. => 8
  | markFailed _ => 7
  | refund _ => 6
  | deadLetter _ => 5
  | markSent => 4
  | exhaustedMark _ => 3
  | exhaustedRefund _ => 2
  | exhaustedDeadLetter _ => 1
  | completed _ | failed => 0

/-- A job goes through its positions once for each attempt that it has left. -/
def JobCall.rank (c : JobCall) : ℕ :=
  match c.pc with
  | .completed _ | .failed => 0
  | pc => 10 * (c.job.attempts - (c.attemptsMade + 1)) + pc.rank

def WebhookPc.rank : WebhookPc → ℕ
  | findMessage => 7
  | findEvent _ => 6
  | updateMessage _ => 5
  | createEvent _ => 4
  | findOtpRequest _ => 3
  | updateOtpRequest .. => 2
  | markProcessed => 1
  | finished | threw => 0

def Thread.rank : Thread → ℕ
  | authenticating _ c => c.pc.rank
  | send c => c.pc.rank
  | verify _ c => c.pc.rank
  | resend c => c.pc.rank
  | status _ c => c.pc.rank
  | dashboard c => c.pc.rank
  | register c => c.pc.rank
  | sendOtpJob c => c.rank
  | webhook c => c.pc.rank

section Lowers

variable {env : Env} {w w' : World} {a : Answer} {ok : Bool}

theorem LimitCall.step_rank {call call' : LimitCall} (pending : (call.step w ok).2 = .pending call') :
    call'.rank < call.rank := by
  cases command : call.command with
  | zremrangebyscore | zadd | zcard =>
    simp only [step, command, LimitOutcome.pending.injEq] at pending
    subst pending
    simp [rank, command]
  | expire count =>
    simp only [step, command, fallback, outcome] at pending
    split at pending
    · split at pending <;> cases pending
    · cases pending

theorem LimitCall.rank_start (process : ℕ) (key : LimitKey) (maxRequests windowSeconds : ℕ) :
    (LimitCall.start w process key maxRequests windowSeconds).rank = 4 := rfl

theorem LimitCall.rank_pos (call : LimitCall) : 0 < call.rank := by
  unfold rank
  split <;> exact Nat.zero_lt_succ _

theorem AuthCall.step_rank {c c' : AuthCall} (h : c.step env w ok = some (w', c')) :
    c'.pc.rank < c.pc.rank ∧ (∀ s, c'.pc = .authenticated s → 31 < c.pc.rank) := by
  cases pc : c.pc with
  | findKey =>
    simp only [step, pc] at h
    split at h
    · split at h
      · cases h
        simp [goto, AuthPc.rank]
      · split at h <;> cases h <;> simp [goto, AuthPc.rank, LimitCall.rank_start]
    · cases h
      simp [goto, AuthPc.rank]
  | limit s call =>
    have positive := call.rank_pos
    simp only [step, pc] at h
    split at h
    next call' pending =>
      cases h
      have lower := LimitCall.step_rank pending
      simp only [goto, AuthPc.rank]
      exact ⟨by omega, fun s h => (by cases h)⟩
    · split at h <;> cases h <;> simp [goto, AuthPc.rank, positive]
  | authenticated | rejected | internalError => simp [step, pc] at h

theorem SendCall.step_rank {c c' : SendCall} (h : c.step env w a = some (w', c')) :
    c'.pc.rank < c.pc.rank := by
  have finish (d : Dispatch) : (c.finish env d).rank ≤ 2 := by
    unfold SendCall.finish
    split <;> simp [SendPc.rank]
  cases pc : c.pc with
  | limit limit call =>
    have positive := call.rank_pos
    simp only [step, pc] at h
    split at h
    next call' pending =>
      cases h
      have lower := LimitCall.step_rank pending
      simp only [goto, SendPc.rank]
      omega
    · split at h <;> cases h
      · simp [goto, SendPc.rank, positive]
      · simp only [goto, nextLimit, limitCall]
        cases limit <;> simp only [SendPc.rank, SendLimit.after, LimitCall.rank_start] <;> omega
  | phoneBlocked =>
    simp only [step, pc] at h
    split at h
    · cases h
      simp [goto, SendPc.rank]
    · split at h <;> cases h <;> simp [goto, limitCall, SendPc.rank, SendLimit.after, LimitCall.rank_start]
  | idempotencyCache | idempotencyRecord =>
    simp only [step, pc] at h
    split at h <;> cases h <;> simp [goto, limitCall, SendPc.rank, SendLimit.after, LimitCall.rank_start]
  | debit =>
    simp only [step, pc] at h
    split at h
    · split at h <;> cases h <;> simp [goto, SendPc.rank]
    · cases h
      simp [goto, SendPc.rank]
  | enqueue d | fallbackSent d =>
    simp only [step, pc] at h
    split at h <;> cases h
    · exact (finish d).trans_lt (by simp [SendPc.rank])
    · simp [goto, SendPc.rank]
  | fallback =>
    simp only [step, pc] at h
    split at h
    · split at h <;> cases h <;> simp [goto, SendPc.rank]
    · cases h
      simp [goto, SendPc.rank]
  | fallbackRefund d =>
    simp only [step, pc] at h
    split at h
    · split at h <;> cases h
      · exact (finish d).trans_lt (by simp [SendPc.rank])
      all_goals simp [goto, SendPc.rank]
    · cases h
      simp [goto, SendPc.rank]
  | customerBlocked | cooldown | create | fallbackFailed =>
    simp only [step, pc] at h
    split at h <;> cases h <;> simp [goto, SendPc.rank]
  | store | setCooldown | saveCache | saveRecord =>
    simp only [step, pc] at h
    cases h
    simp [goto, SendPc.rank]
  | replied | rejected | internalError => simp [step, pc] at h

theorem ResendCall.step_rank {c c' : ResendCall} (h : c.step env w a = some (w', c')) :
    c'.pc.rank < c.pc.rank := by
  have move := (step_move h).1
  generalize c.pc = pc at move
  generalize c'.pc = pc' at move
  cases move with
  | reject before | crash before => cases pc <;> first | exact Nat.zero_lt_succ _ | cases before
  | deliver d after =>
    subst after
    split <;> simp [ResendPc.rank]
  | _ => simp [ResendPc.rank]

theorem VerifyCall.step_rank {c c' : VerifyCall} (h : c.step env w ok = some (w', c')) :
    c'.pc.rank < c.pc.rank := by
  have incorrect (f : Fetched) (record : Option Id) : (afterIncorrect env f record).rank ≤ 3 := by
    unfold afterIncorrect
    split
    · split <;> simp [VerifyPc.rank]
    · simp [VerifyPc.rank]
  cases pc : c.pc with
  | findRecord f =>
    simp only [step, pc] at h
    split at h
    · split at h <;> cases h
      · simp [VerifyPc.rank]
      · split
        · simp [VerifyPc.rank]
        · exact (incorrect ⟨⟨f.data.otpHash, f.data.requestId, f.attempts⟩, f.object, f.attempts⟩
            none).trans_lt
            (by simp [VerifyPc.rank])
    · cases h
      simp [goto, VerifyPc.rank]
  | incorrectVerification f record =>
    simp only [step, pc] at h
    split at h <;> cases h
    · exact (incorrect f (some record)).trans_lt (by simp [VerifyPc.rank])
    · simp [goto, VerifyPc.rank]
  | delete f record =>
    simp only [step, pc] at h
    split at h <;> cases h <;> simp [goto, VerifyPc.rank]
  | maxBlock | maxDelete =>
    simp only [step, pc] at h
    cases h
    simp [goto, VerifyPc.rank]
  | lookup | incorrectAttempts | maxStatus | ttl | writeBack | verifiedStatus | correctVerification =>
    simp only [step, pc] at h
    split at h <;> cases h <;> simp [goto, VerifyPc.rank]
  | verified | rejected | internalError => simp [step, pc] at h

theorem StatusCall.step_rank {c c' : StatusCall} (h : c.step w ok = some (w', c')) :
    c'.pc.rank < c.pc.rank := by
  cases pc : c.pc with
  | findRecord =>
    simp only [step, pc] at h
    split at h
    · split at h
      · cases h
        simp [StatusPc.rank]
      · split at h <;> cases h <;> simp [StatusPc.rank]
    · cases h
      simp [StatusPc.rank]
  | expire =>
    simp only [step, pc] at h
    split at h <;> cases h <;> simp [StatusPc.rank]
  | answered | rejected | internalError => simp [step, pc] at h

theorem JwtPc.step_rank {db : Database} {sub : Id} {pc pc' : JwtPc} (h : pc.step db sub ok = some pc') :
    pc'.rank < pc.rank ∧ 3 < pc.rank := by
  cases pc with
  | findUser | findCustomer =>
    simp only [step] at h
    split at h
    · split at h
      · split at h <;> cases h <;> simp [rank]
      · cases h
        simp [rank]
    · cases h
      simp [rank]
  | authenticated | rejected => cases h

theorem DashboardCall.handle_rank (env : Env) (w : World) (c : DashboardCall) (customer : Customer) :
    (c.handle env w customer).2.pc.rank ≤ 2 := by
  cases request : c.request with
  | account accountRequest =>
    cases accountRequest <;> simp only [handle, request, goto, DashboardPc.rank] <;> omega
  | createApplication | createApiKey | getApplication | deleteApplication | revokeApiKey | topup =>
    simp only [handle, request]
    split <;> simp [goto, DashboardPc.rank]
  | listApplications | listApiKeys | transactions => simp [handle, request, goto, DashboardPc.rank]

theorem DashboardCall.step_rank {c c' : DashboardCall} (h : c.step env w ok = some (w', c')) :
    c'.pc.rank < c.pc.rank := by
  cases pc : c.pc with
  | authenticate sub jwt =>
    simp only [step, pc] at h
    split at h
    · cases h
    next stepped =>
      cases h
      exact (JwtPc.step_rank stepped).2
    next stepped =>
      cases h
      exact Nat.zero_lt_of_lt (JwtPc.step_rank stepped).2
    next stepped =>
      cases h
      exact (JwtPc.step_rank stepped).1
  | handle customer =>
    simp only [step, pc] at h
    split at h
    · have handled := handle_rank env w c customer
      rw [Option.some.inj h] at handled
      exact Nat.lt_succ_of_le handled
    · cases h
      exact Nat.zero_lt_succ _
  | deleteApplication | revokeApiKey | readWallet | readTransactions | countVerified | countFailed =>
    simp only [step, pc] at h
    split at h <;> cases h <;> simp [goto, DashboardPc.rank]
  | answered | rejected | internalError => simp [step, pc] at h

theorem RegisterCall.step_rank {c c' : RegisterCall} (h : c.step w ok = some (w', c')) :
    c'.pc.rank < c.pc.rank := by
  cases pc : c.pc with
  | findUser =>
    simp only [step, pc] at h
    split at h
    · split at h <;> cases h <;> simp [goto, RegisterPc.rank]
    · cases h
      simp [goto, RegisterPc.rank]
  | create =>
    simp only [step, pc] at h
    split at h <;> cases h <;> simp [goto, RegisterPc.rank]
  | registered | rejected | internalError => simp [step, pc] at h

theorem JobCall.rethrow_rank (c : JobCall) :
    c.rethrow.rank ≤ 10 * (c.job.attempts - (c.attemptsMade + 1)) := by
  unfold rethrow
  by_cases more : c.attemptsMade + 1 < c.job.attempts
  · simp only [more, if_true, rank, JobPc.rank]
    omega
  · simp only [more, if_false, rank, Nat.zero_le]

/-- After an error at most the `catch` block of this attempt is left, and the attempts to come. -/
theorem JobCall.threw_rank (c : JobCall) (error : String) :
    (c.threw error).rank ≤ 10 * (c.job.attempts - (c.attemptsMade + 1)) + 3 := by
  unfold threw
  split
  · simp [goto, rank, JobPc.rank]
  · exact c.rethrow_rank.trans (Nat.le_add_right _ _)

theorem JobCall.step_rank {c c' : JobCall} (h : c.step w a = some (w', c')) : c'.rank < c.rank := by
  have threw (error : String) := c.threw_rank error
  have again := c.rethrow_rank
  cases pc : c.pc with
  | send | createMessage | markSent | markFailed | deadLetter =>
    simp only [step, pc] at h
    split at h <;> cases h
    · simp [goto, rank, pc, JobPc.rank]
    · refine (threw _).trans_lt ?_
      simp [rank, pc, JobPc.rank]
  | createEvent =>
    simp only [step, pc] at h
    split at h
    · split at h
      · cases h
        simp [goto, rank, pc, JobPc.rank]
      · split at h <;> cases h
        · refine (threw _).trans_lt ?_
          simp [rank, pc, JobPc.rank]
        · simp [goto, rank, pc, JobPc.rank]
    · cases h
      refine (threw _).trans_lt ?_
      simp [rank, pc, JobPc.rank]
  | refund =>
    simp only [step, pc] at h
    split at h
    · split at h <;> cases h
      · simp [goto, rank, pc, JobPc.rank]
      · refine (threw _).trans_lt ?_
        simp [rank, pc, JobPc.rank]
    · cases h
      refine (threw _).trans_lt ?_
      simp [rank, pc, JobPc.rank]
  | exhaustedMark | exhaustedRefund =>
    simp only [step, pc] at h
    cases h
    simp [goto, rank, pc, JobPc.rank]
  | exhaustedDeadLetter =>
    simp only [step, pc] at h
    cases h
    refine again.trans_lt ?_
    simp [rank, pc, JobPc.rank]
  | completed | failed => simp [step, pc] at h

theorem WebhookCall.step_rank {c c' : WebhookCall} (h : c.step w ok = some (w', c')) :
    c'.pc.rank < c.pc.rank := by
  have linked (m : Message) : (linked m).rank ≤ 3 := by
    unfold linked
    split <;> simp [WebhookPc.rank]
  cases pc : c.pc with
  | findMessage =>
    simp only [step, pc] at h
    split at h
    · split at h <;> cases h <;> simp [goto, WebhookPc.rank]
    · cases h
      simp [goto, WebhookPc.rank]
  | findEvent m =>
    simp only [step, pc] at h
    split at h
    · split at h <;> cases h
      · exact (linked m).trans_lt (by simp [WebhookPc.rank])
      · simp [goto, WebhookPc.rank]
    · cases h
      simp [goto, WebhookPc.rank]
  | createEvent m =>
    simp only [step, pc] at h
    split at h <;> cases h
    · exact (linked m).trans_lt (by simp [WebhookPc.rank])
    · simp [goto, WebhookPc.rank]
  | findOtpRequest =>
    simp only [step, pc] at h
    split at h
    · split at h
      · split at h
        · cases h
          simp [goto, WebhookPc.rank]
        · split at h <;> cases h <;> simp [goto, WebhookPc.rank]
      · cases h
        simp [goto, WebhookPc.rank]
    · cases h
      simp [goto, WebhookPc.rank]
  | updateMessage | updateOtpRequest =>
    simp only [step, pc] at h
    split at h <;> cases h <;> simp [goto, WebhookPc.rank]
  | markProcessed =>
    simp only [step, pc] at h
    cases h
    simp [goto, WebhookPc.rank]
  | finished | threw => simp [step, pc] at h

theorem Thread.handler_rank (s : Session) (request : ApiRequest) : (handler s request).rank ≤ 31 := by
  unfold handler
  split <;> simp [rank, SendPc.rank, VerifyPc.rank, ResendPc.rank, StatusPc.rank, DashboardPc.rank]

theorem Thread.resume_rank {t t' : Thread} (h : Thread.resume env w t a = some (w', t')) : t'.rank < t.rank := by
  cases t with
  | authenticating request c =>
    simp only [resume] at h
    obtain ⟨c', stepped, rfl⟩ := stepped_eq_some h
    obtain ⟨lower, handled⟩ := AuthCall.step_rank stepped
    split
    next s authenticated => exact (handler_rank s request).trans_lt (handled s authenticated)
    · exact lower
  | send c =>
    obtain ⟨c', stepped, rfl⟩ := stepped_eq_some h
    exact SendCall.step_rank stepped
  | verify customer c =>
    obtain ⟨c', stepped, rfl⟩ := stepped_eq_some h
    exact VerifyCall.step_rank stepped
  | resend c =>
    obtain ⟨c', stepped, rfl⟩ := stepped_eq_some h
    exact ResendCall.step_rank stepped
  | status customer c =>
    obtain ⟨c', stepped, rfl⟩ := stepped_eq_some h
    exact StatusCall.step_rank stepped
  | dashboard c =>
    obtain ⟨c', stepped, rfl⟩ := stepped_eq_some h
    exact DashboardCall.step_rank stepped
  | register c =>
    obtain ⟨c', stepped, rfl⟩ := stepped_eq_some h
    exact RegisterCall.step_rank stepped
  | sendOtpJob c =>
    obtain ⟨c', stepped, rfl⟩ := stepped_eq_some h
    exact JobCall.step_rank stepped
  | webhook c =>
    obtain ⟨c', stepped, rfl⟩ := stepped_eq_some h
    exact WebhookCall.step_rank stepped

end Lowers

/-! ### No thread is stuck -/

section Enabled

variable (env : Env) (w : World) (a : Answer) (ok : Bool)

theorem AuthCall.step_enabled (c : AuthCall) (running : c.pc.rank ≠ 0) : (c.step env w ok).isSome := by
  cases pc : c.pc <;> simp only [pc, AuthPc.rank, ne_eq, not_true_eq_false] at running <;>
    simp only [step, pc] <;> (repeat' split) <;> rfl

theorem SendCall.step_enabled (c : SendCall) (running : c.pc.rank ≠ 0) : (c.step env w a).isSome := by
  cases pc : c.pc <;> simp only [pc, SendPc.rank, ne_eq, not_true_eq_false] at running <;>
    simp only [step, pc] <;> (repeat' split) <;> rfl

theorem VerifyCall.step_enabled (c : VerifyCall) (running : c.pc.rank ≠ 0) : (c.step env w ok).isSome := by
  cases pc : c.pc <;> simp only [pc, VerifyPc.rank, ne_eq, not_true_eq_false] at running <;>
    simp only [step, pc] <;> (repeat' split) <;> rfl

theorem ResendCall.step_enabled (c : ResendCall) (running : c.pc.rank ≠ 0) : (c.step env w a).isSome := by
  cases pc : c.pc <;> simp only [pc, ResendPc.rank, ne_eq, not_true_eq_false] at running <;>
    simp only [step, pc] <;> (repeat' split) <;> rfl

theorem StatusCall.step_enabled (c : StatusCall) (running : c.pc.rank ≠ 0) : (c.step w ok).isSome := by
  cases pc : c.pc <;> simp only [pc, StatusPc.rank, ne_eq, not_true_eq_false] at running <;>
    simp only [step, pc] <;> (repeat' split) <;> rfl

theorem JwtPc.step_enabled (db : Database) (sub : Id) (pc : JwtPc) (running : pc.rank ≠ 0) :
    (pc.step db sub ok).isSome := by
  cases pc <;> simp only [rank, ne_eq, not_true_eq_false] at running <;>
    simp only [step] <;> (repeat' split) <;> rfl

theorem DashboardCall.step_enabled (c : DashboardCall) (running : c.pc.rank ≠ 0) :
    (c.step env w ok).isSome := by
  cases pc : c.pc with
  | authenticate sub jwt =>
    rw [pc] at running
    have goes := JwtPc.step_enabled ok w.db sub jwt running
    simp only [step, pc]
    split
    next stuck =>
      rw [stuck] at goes
      cases goes
    all_goals rfl
  | answered | rejected | internalError =>
    rw [pc] at running
    exact absurd rfl running
  | handle | deleteApplication | revokeApiKey | readWallet | readTransactions | countVerified | countFailed =>
    simp only [step, pc]
    split <;> rfl

theorem RegisterCall.step_enabled (c : RegisterCall) (running : c.pc.rank ≠ 0) : (c.step w ok).isSome := by
  cases pc : c.pc <;> simp only [pc, RegisterPc.rank, ne_eq, not_true_eq_false] at running <;>
    simp only [step, pc] <;> (repeat' split) <;> rfl

theorem JobCall.step_enabled (c : JobCall) (running : c.rank ≠ 0) : (c.step w a).isSome := by
  cases pc : c.pc <;> simp only [rank, pc, ne_eq, not_true_eq_false] at running <;>
    simp only [step, pc] <;> (repeat' split) <;> rfl

theorem WebhookCall.step_enabled (c : WebhookCall) (running : c.pc.rank ≠ 0) : (c.step w ok).isSome := by
  cases pc : c.pc <;> simp only [pc, WebhookPc.rank, ne_eq, not_true_eq_false] at running <;>
    simp only [step, pc] <;> (repeat' split) <;> rfl

theorem Thread.resume_enabled (t : Thread) (running : t.rank ≠ 0) : (Thread.resume env w t a).isSome := by
  cases t with
  | authenticating request c =>
    simp only [resume, stepped, Option.isSome_map, AuthCall.step_enabled env w a.ok c running]
  | send c => simp only [resume, stepped, Option.isSome_map, SendCall.step_enabled env w a c running]
  | verify customer c =>
    simp only [resume, stepped, Option.isSome_map, VerifyCall.step_enabled env w a.ok c running]
  | resend c => simp only [resume, stepped, Option.isSome_map, ResendCall.step_enabled env w a c running]
  | status customer c => simp only [resume, stepped, Option.isSome_map, StatusCall.step_enabled w a.ok c running]
  | dashboard c =>
    simp only [resume, stepped, Option.isSome_map, DashboardCall.step_enabled env w a.ok c running]
  | register c => simp only [resume, stepped, Option.isSome_map, RegisterCall.step_enabled w a.ok c running]
  | sendOtpJob c => simp only [resume, stepped, Option.isSome_map, JobCall.step_enabled w a c running]
  | webhook c => simp only [resume, stepped, Option.isSome_map, WebhookCall.step_enabled w a.ok c running]

end Enabled

/-! ### The system -/

/-- The request has been answered, or the job has ended. -/
def Thread.concluded : Thread → Bool
  | authenticating _ c =>
    match c.pc with
    | .rejected _ | .internalError => true
    | _ => false
  | send c =>
    match c.pc with
    | .replied .. | .rejected _ | .internalError => true
    | _ => false
  | verify _ c =>
    match c.pc with
    | .verified _ | .rejected _ | .internalError => true
    | _ => false
  | resend c =>
    match c.pc with
    | .replied _ | .rejected _ | .internalError => true
    | _ => false
  | status _ c =>
    match c.pc with
    | .answered _ | .rejected _ | .internalError => true
    | _ => false
  | dashboard c =>
    match c.pc with
    | .answered .. | .rejected _ | .internalError => true
    | _ => false
  | register c =>
    match c.pc with
    | .registered .. | .rejected _ | .internalError => true
    | _ => false
  | sendOtpJob c =>
    match c.pc with
    | .completed _ | .failed => true
    | _ => false
  | webhook c =>
    match c.pc with
    | .finished | .threw => true
    | _ => false

/-- An authentication that has succeeded has become the handler. -/
def Thread.Handled : Thread → Prop
  | authenticating _ c => ∀ s, c.pc ≠ .authenticated s
  | dashboard c => ∀ sub jwt, c.pc = .authenticate sub jwt → jwt.rank ≠ 0
  | _ => True

section Runs

variable {env : Env} {p q : System}

theorem Thread.Handled.concluded {t : Thread} (handled : t.Handled) (ended : t.rank = 0) :
    t.concluded = true := by
  cases t with
  | authenticating request c =>
    cases pc : c.pc with
    | authenticated s => exact absurd pc (handled s)
    | findKey | limit => simp [rank, pc, AuthPc.rank] at ended
    | rejected | internalError => simp only [Thread.concluded, pc]
  | send c =>
    cases pc : c.pc <;> simp [rank, pc, SendPc.rank] at ended <;> simp only [Thread.concluded, pc]
  | verify customer c =>
    cases pc : c.pc <;> simp [rank, pc, VerifyPc.rank] at ended <;> simp only [Thread.concluded, pc]
  | resend c =>
    cases pc : c.pc <;> simp [rank, pc, ResendPc.rank] at ended <;> simp only [Thread.concluded, pc]
  | status customer c =>
    cases pc : c.pc <;> simp [rank, pc, StatusPc.rank] at ended <;> simp only [Thread.concluded, pc]
  | dashboard c =>
    cases pc : c.pc with
    | authenticate sub jwt =>
      exact absurd (by simpa [rank, pc, DashboardPc.rank] using ended) (handled sub jwt pc)
    | answered | rejected | internalError => simp only [Thread.concluded, pc]
    | _ => simp [rank, pc, DashboardPc.rank] at ended
  | register c =>
    cases pc : c.pc <;> simp [rank, pc, RegisterPc.rank] at ended <;> simp only [Thread.concluded, pc]
  | sendOtpJob c =>
    cases pc : c.pc <;> simp [rank, JobCall.rank, pc, JobPc.rank] at ended <;> simp only [Thread.concluded, pc]
  | webhook c =>
    cases pc : c.pc <;> simp [rank, pc, WebhookPc.rank] at ended <;> simp only [Thread.concluded, pc]

theorem Thread.handler_handled (s : Session) (request : ApiRequest) : (handler s request).Handled := by
  unfold handler
  split <;> first | trivial | exact fun sub jwt h => (by cases h)

theorem DashboardCall.handle_notAuthenticate (env : Env) (w : World) (c : DashboardCall)
    (customer : Customer) (sub : Id) (jwt : JwtPc) :
    (c.handle env w customer).2.pc ≠ .authenticate sub jwt := by
  cases request : c.request with
  | account accountRequest => cases accountRequest <;> simp [handle, request, goto]
  | createApplication | createApiKey | getApplication | deleteApplication | revokeApiKey | topup =>
    simp only [handle, request]
    split <;> simp [goto]
  | listApplications | listApiKeys | transactions => simp [handle, request, goto]

theorem DashboardCall.step_handled {w w' : World} {c c' : DashboardCall} {ok : Bool}
    (h : c.step env w ok = some (w', c')) : (Thread.dashboard c').Handled := by
  intro sub jwt after
  cases pc : c.pc with
  | authenticate sub' jwt' =>
    simp only [step, pc] at h
    split at h <;> cases h
    · cases after
    · cases after
    next other rejected stepped =>
      cases after
      cases jwt with
      | findUser | findCustomer => simp [JwtPc.rank]
      | authenticated customer => exact absurd rfl (other customer)
      | rejected error => exact absurd rfl (rejected error)
  | handle customer =>
    simp only [step, pc] at h
    split at h
    · have other := handle_notAuthenticate env w c customer sub jwt
      rw [Option.some.inj h] at other
      exact absurd after other
    · cases h
      cases after
  | deleteApplication | revokeApiKey | readWallet | readTransactions | countVerified | countFailed =>
    simp only [step, pc] at h
    split at h <;> cases h <;> cases after
  | answered | rejected | internalError => simp [step, pc] at h

theorem Thread.resume_handled {w w' : World} {t t' : Thread} {a : Answer}
    (h : Thread.resume env w t a = some (w', t')) : t'.Handled := by
  cases t with
  | authenticating request c =>
    simp only [resume] at h
    obtain ⟨c', stepped, rfl⟩ := stepped_eq_some h
    split
    · exact handler_handled _ _
    next other => exact other
  | dashboard c =>
    obtain ⟨c', stepped, rfl⟩ := stepped_eq_some h
    exact DashboardCall.step_handled stepped
  | send | verify | resend | status | register | sendOtpJob | webhook =>
    obtain ⟨c', -, rfl⟩ := stepped_eq_some h
    trivial

theorem Thread.external_handled {w w' : World} {event : SystemEvent} {born : List Thread}
    (h : Thread.external w event = some (w', born)) : ∀ t ∈ born, t.Handled := by
  cases event with
  | tick d =>
    cases h
    exact fun t member => (by cases member)
  | takeSendOtpJob i =>
    simp only [external] at h
    split at h <;> cases h
    exact fun t member => List.mem_singleton.mp member ▸ trivial
  | api rawApiKey request =>
    cases h
    intro t member
    rw [List.mem_singleton.mp member]
    intro s
    unfold AuthCall.start
    split <;> exact fun h => (by cases h)
  | dashboard sub request =>
    cases h
    intro t member
    rw [List.mem_singleton.mp member]
    intro sub' jwt after
    cases after
    simp [JwtPc.rank]
  | register | processWebhook =>
    cases h
    exact fun t member => List.mem_singleton.mp member ▸ trivial

/-- How many calls an event may come to await. -/
def SystemEvent.awaited : SystemEvent → ℕ
  | tick _ => 0
  | api .. => 36
  | dashboard .. => 5
  | register .. => 2
  | takeSendOtpJob _ => 30
  | processWebhook .. => 7

/-- Jobs have three attempts, and an event awaits no more calls than it may. -/
theorem ranked_system (env : Env) :
    Ranked (systemProgram env) (fun w => ∀ job ∈ w.otpQueue, job.attempts = 3) Thread.rank
    SystemEvent.awaited where
  resumed := by
    intro w t a w' t' attempts resumed job member
    rcases Thread.resume_queue resumed with same | ⟨data, -, appended⟩
    · exact attempts job (same ▸ member)
    · rw [appended] at member
      rcases List.mem_append.mp member with old | new
      · exact attempts job old
      · rw [List.mem_singleton.mp new]
  started := by
    intro w event w' born attempts acted
    cases event with
    | tick d =>
      cases acted
      exact ⟨attempts, Nat.zero_le _⟩
    | takeSendOtpJob i =>
      simp only [systemProgram, Thread.external] at acted
      split at acted <;> cases acted
      next job there =>
        refine ⟨fun other member => attempts other (List.mem_of_mem_eraseIdx member), ?_⟩
        have three := attempts job (List.mem_of_getElem? there)
        simp [Thread.rank, JobCall.rank, JobCall.start, JobPc.rank, SystemEvent.awaited, three]
    | api rawApiKey request =>
      cases acted
      refine ⟨attempts, ?_⟩
      simp only [total_cons, total_nil, Thread.rank, AuthCall.start]
      split <;> simp [AuthPc.rank, SystemEvent.awaited]
    | dashboard | register | processWebhook =>
      cases acted
      exact ⟨attempts, by simp [Thread.rank, DashboardPc.rank, JwtPc.rank, RegisterPc.rank, WebhookPc.rank,
        SystemEvent.awaited]⟩
  lowers := Thread.resume_rank
  enabled := fun w t a => Thread.resume_enabled env w a t

theorem handled_step (handled : ∀ t ∈ p.threads, t.Handled) {l : SystemLabel}
    (taken : Pool.step (systemProgram env) p l = some q) : ∀ t ∈ q.threads, t.Handled := by
  cases l with
  | resume i a =>
    obtain ⟨t, w', t', found, resumed, rfl⟩ := step_resume taken
    intro u member
    rcases mem_set_cases member with rfl | ⟨j, -, other⟩
    · exact Thread.resume_handled resumed
    · exact handled u (List.mem_of_getElem? other)
  | external event =>
    obtain ⟨w', born, acted, rfl⟩ := step_external taken
    intro u member
    exact (List.mem_append.mp member).elim (handled u) (Thread.external_handled acted u)

/-- However the awaited calls of requests and jobs are interleaved and whatever they come to: there are
no more than the requests, jobs and events that have arrived may await, a thread that has not completed
can always go on, and if nothing more arrives all of them complete. -/
theorem requests_complete {es : List SystemLabel} (idle : p.threads = [])
    (attempts : ∀ job ∈ p.shared.otpQueue, job.attempts = 3)
    (ran : Transition.run (Pool.step (systemProgram env)) p es = some q) (a : Answer) :
    es.countP Label.isResume ≤ allowance SystemEvent.awaited es ∧
    (∀ i t, q.threads[i]? = some t → t.concluded = false →
      (Pool.step (systemProgram env) q (.resume i a)).isSome) ∧
    ∃ fs r, (∀ l ∈ fs, ∃ i, l = Label.resume i a) ∧
      Transition.run (Pool.step (systemProgram env)) q fs = some r ∧
      ∀ t ∈ r.threads, t.concluded = true := by
  have handled : ∀ t ∈ q.threads, t.Handled :=
    Transition.run_invariant (fun s : System => ∀ t ∈ s.threads, t.Handled)
      (fun _ _ _ handled taken => handled_step handled taken)
      (by rw [idle]; exact fun t member => (by cases member)) ran
  obtain ⟨bounded, goes_on, fs, r, resumes, rest, ended⟩ :=
    (ranked_system env).concludes attempts idle ran a
  refine ⟨bounded, fun i t found running => goes_on i t found fun ended => ?_, fs, r, resumes, rest,
    fun t member => ?_⟩
  · rw [(handled t (List.mem_of_getElem? found)).concluded ended] at running
    cases running
  · have still : ∀ t ∈ r.threads, t.Handled :=
      Transition.run_invariant (fun s : System => ∀ t ∈ s.threads, t.Handled)
        (fun _ _ _ handled taken => handled_step handled taken) handled rest
    exact (still t member).concluded (ended t member)

end Runs

/-- A send is under way when the schedule ends. -/
theorem requests_complete_unfinished :
    ∃ q, Transition.run (Pool.step (systemProgram OtpPool.sampleEnv)) sampleSystem
        (sampleCustomSend.take 12) = some q ∧
      (sampleCustomSend.take 12).countP Label.isResume ≤
        allowance SystemEvent.awaited (sampleCustomSend.take 12) ∧
      (∀ i t, q.threads[i]? = some t → t.concluded = false →
        (Pool.step (systemProgram OtpPool.sampleEnv) q (.resume i (.threw "connection lost"))).isSome) ∧
      ∃ fs r, (∀ l ∈ fs, ∃ i, l = Label.resume i (.threw "connection lost")) ∧
        Transition.run (Pool.step (systemProgram OtpPool.sampleEnv)) q fs = some r ∧
        ∀ t ∈ r.threads, t.concluded = true :=
  ⟨_, (Option.some_get (by decide +kernel)).symm,
    requests_complete rfl (fun job member => (by cases member)) (Option.some_get (by decide +kernel)).symm
      (.threw "connection lost")⟩

end SelfOtp
