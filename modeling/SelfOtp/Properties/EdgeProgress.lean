import SelfOtp.Lib.Progress
import SelfOtp.Properties.EdgeRefund
import SelfOtp.Properties.EdgeRows

/-! Every call of the Edge functions comes to an end, whatever its awaited calls come to. -/
namespace SelfOtp.Edge

open Pool

/-! ### How many awaited calls are left -/

/-- A send writes two rows at most after its insert. -/
def SendPc.rank : SendPc → ℕ
  | lookup _ => 7
  | deduct _ => 6
  | hash _ => 5
  | dispatch .. => 4
  | insert .. => 3
  | refund _ => 1
  | answered _ writes => writes.length

def VerifyPc.rank : VerifyPc → ℕ
  | findRow => 4
  | recordAttempt _ => 3
  | compare .. => 2
  | expire _ | markVerified .. => 1
  | answered _ => 0

def ResendPc.rank : ResendPc → ℕ
  | findRow => 4
  | hash .. => 3
  | dispatch .. => 2
  | update .. => 1
  | answered _ => 0

/-- Six queries for each status. -/
def WebhookPc.rank : WebhookPc → ℕ
  | logEvent _ _ rest => 6 + 6 * rest.length
  | findMessage _ _ rest => 5 + 6 * rest.length
  | updateMessage _ _ _ rest => 4 + 6 * rest.length
  | findOtp _ _ rest => 3 + 6 * rest.length
  | updateOtp _ _ rest => 2 + 6 * rest.length
  | refund _ rest => 1 + 6 * rest.length
  | answered _ => 0

def Party.rank : Party → ℕ
  | call (.authenticating ..) => 8
  | call (.refused _) => 0
  | call (.send c) => c.pc.rank
  | call (.verify c) => c.pc.rank
  | call (.resend c) => c.pc.rank
  | webhook c => c.pc.rank

/-- What an event can lead to. -/
def PartyEvent.awaited : PartyEvent → ℕ
  | call (.tick _) => 0
  | call (.post _) => 8
  | webhook payload => 6 * (updates payload).length

/-- The client has its answer, and no write is left. -/
def Party.concluded : Party → Bool
  | call (.authenticating ..) => false
  | call (.refused _) => true
  | call (.send c) =>
    match c.pc with
    | .answered _ [] => true
    | _ => false
  | call (.verify c) =>
    match c.pc with
    | .answered _ => true
    | _ => false
  | call (.resend c) =>
    match c.pc with
    | .answered _ => true
    | _ => false
  | webhook c =>
    match c.pc with
    | .answered _ => true
    | _ => false

/-! ### One step -/

section Steps

variable {env : Env} {w w' : World} {a : Answer}

theorem Party.concluded_iff (t : Party) : t.concluded = true ↔ t.rank = 0 := by
  cases t with
  | call t =>
    cases t with
    | authenticating | refused => simp [concluded, rank]
    | send c =>
      simp only [concluded, rank]
      cases c.pc with
      | answered reply writes => cases writes <;> simp [SendPc.rank]
      | lookup | deduct | hash | dispatch | insert | refund => simp [SendPc.rank]
    | verify c =>
      simp only [concluded, rank]
      cases c.pc <;> simp [VerifyPc.rank]
    | resend c =>
      simp only [concluded, rank]
      cases c.pc <;> simp [ResendPc.rank]
  | webhook c =>
    simp only [concluded, rank]
    cases c.pc <;> simp [WebhookPc.rank]

theorem SendCall.writes_length (c : SendCall) (inserted : OtpRequest) (metaResult : MetaSendResult) :
    (c.writes env w inserted metaResult).length ≤ 2 := by
  rw [writes, List.length_append]
  split <;> split <;> simp

theorem SendCall.describe_rank (phoneNumber : Json) : (describe phoneNumber).rank ≤ 6 := by
  rcases describe_cases phoneNumber with ⟨description, charges⟩ | crashes
  · rw [charges, SendPc.rank]
  · rw [crashes, SendPc.rank]
    exact Nat.zero_le 6

theorem SendCall.step_rank {c c' : SendCall} (h : c.step env w a = some (w', c')) :
    c'.pc.rank < c.pc.rank := by
  cases pc : c.pc with
  | lookup key =>
    have described : (describe c.phoneNumber).rank < 7 := Nat.lt_succ_of_le (describe_rank c.phoneNumber)
    simp only [step, pc] at h
    split at h
    · split at h <;> cases h
      · simp [goto, SendPc.rank]
      · exact described
    · cases h
      exact described
  | deduct description =>
    simp only [step, pc] at h
    split at h
    · cases h
      simp [goto, SendPc.rank]
    · cases h
      simp [goto, SendPc.rank]
    · split at h <;> cases h <;> simp [goto, SendPc.rank]
  | hash otpCode | dispatch otpCode d | refund message =>
    simp only [step, pc] at h
    cases h
    simp [goto, SendPc.rank]
  | insert d metaResult =>
    simp only [step, pc] at h
    split at h <;> cases h
    · exact Nat.lt_succ_of_le (c.writes_length _ metaResult)
    · simp [goto, SendPc.rank]
  | answered reply writes =>
    cases writes with
    | nil => simp [step, pc] at h
    | cons first rest =>
      simp only [step, pc] at h
      cases h
      simp [goto, SendPc.rank]

theorem VerifyCall.step_rank {c c' : VerifyCall} (h : c.step env w a = some (w', c')) :
    c'.pc.rank < c.pc.rank := by
  have move := (step_move h).1
  generalize c.pc = pc at move
  generalize c'.pc = pc' at move
  cases move <;> simp [VerifyPc.rank]

theorem ResendCall.step_rank {c c' : ResendCall} (h : c.step env w a = some (w', c')) :
    c'.pc.rank < c.pc.rank := by
  have move := (step_move h).1
  generalize c.pc = pc at move
  generalize c'.pc = pc' at move
  cases move <;> simp [ResendPc.rank]

theorem WebhookCall.proceed_rank (w : World) (rest : Updates) :
    (proceed w rest).rank ≤ 6 * rest.length := by
  cases rest with
  | nil => exact Nat.zero_le _
  | cons first rest =>
    cases first with
    | none => exact Nat.zero_le _
    | some update =>
      unfold proceed
      dsimp only
      split
      · simp only [WebhookPc.rank, List.length_cons]
        omega
      · exact Nat.zero_le _

/-- Each query lowers the rank, also the last one of a status. -/
theorem WebhookCall.step_rank {c c' : WebhookCall} (h : c.step w a = some (w', c')) :
    c'.pc.rank < c.pc.rank := by
  have later (v : World) (rest : Updates) (n : ℕ) (pos : 0 < n) :
      (proceed v rest).rank < n + 6 * rest.length := by
    have bound := proceed_rank v rest
    omega
  obtain ⟨pc⟩ := c
  cases pc with
  | logEvent messageId status rest =>
    simp only [step] at h
    cases h
    simp [WebhookPc.rank]
  | findMessage messageId status rest =>
    simp only [step] at h
    split at h <;> cases h
    · simp [WebhookPc.rank]
    · exact later w rest 5 (by decide)
  | updateMessage index msg status rest =>
    simp only [step] at h
    split at h <;> cases h <;> simp [WebhookPc.rank]
  | findOtp otpRequestId status rest =>
    simp only [step] at h
    split at h
    · split at h
      · cases h
        exact later w rest 3 (by decide)
      · split at h
        · cases h
          simp [WebhookPc.rank]
        · split at h <;> cases h
          · simp [WebhookPc.rank]
          · exact later w rest 3 (by decide)
    · cases h
      exact later w rest 3 (by decide)
  | updateOtp otp failed rest =>
    simp only [step] at h
    cases h
    cases failed with
    | true => simp [WebhookPc.rank]
    | false => exact later _ rest 2 (by decide)
  | refund otp rest =>
    simp only [step] at h
    cases h
    exact later _ rest 1 (by decide)
  | answered reply => cases h

theorem Thread.handler_rank (keyRecord : ApiKey) (request : Request) :
    (Party.call (handler keyRecord request)).rank < 8 := by
  unfold handler of
  cases request.action with
  | send =>
    dsimp only
    split
    next c started =>
      rcases SendCall.start_pc started with ⟨key, pc⟩ | ⟨description, pc⟩ | pc <;>
        simp [Party.rank, pc, SendPc.rank]
    · simp [Party.rank]
  | verify =>
    dsimp only
    split
    next c started => simp [Party.rank, VerifyCall.start_pc started, VerifyPc.rank]
    · simp [Party.rank]
  | resend =>
    dsimp only
    split
    next c started => simp [Party.rank, ResendCall.start_pc started, ResendPc.rank]
    · simp [Party.rank]

theorem Party.resume_rank {t t' : Party} (resumed : t.resume env w a = some (w', t')) : t'.rank < t.rank := by
  cases t with
  | webhook c =>
    obtain ⟨⟨v, c'⟩, stepped, same⟩ := Option.map_eq_some_iff.mp resumed
    cases same
    exact WebhookCall.step_rank stepped
  | call t =>
    obtain ⟨⟨v, u⟩, called, same⟩ := Option.map_eq_some_iff.mp resumed
    cases same
    cases t with
    | authenticating apiKey request =>
      simp only [Thread.resume] at called
      split at called <;> cases called
      · exact Thread.handler_rank _ request
      · simp [rank]
    | refused reply => cases called
    | send c =>
      obtain ⟨c', stepped, rfl⟩ := Thread.stepped_eq_some called
      exact SendCall.step_rank stepped
    | verify c =>
      obtain ⟨c', stepped, rfl⟩ := Thread.stepped_eq_some called
      exact VerifyCall.step_rank stepped
    | resend c =>
      obtain ⟨c', stepped, rfl⟩ := Thread.stepped_eq_some called
      exact ResendCall.step_rank stepped

/-! ### No step is refused -/

variable (env w a)

theorem SendCall.step_enabled (c : SendCall) (running : c.pc.rank ≠ 0) : (c.step env w a).isSome := by
  cases pc : c.pc with
  | answered reply writes =>
    cases writes with
    | nil => simp [pc, SendPc.rank] at running
    | cons first rest => simp only [step, pc, Option.isSome_some]
  | lookup | deduct | hash | dispatch | insert | refund =>
    simp only [step, pc]
    (repeat' split) <;> rfl

theorem VerifyCall.step_enabled (c : VerifyCall) (running : c.pc.rank ≠ 0) : (c.step env w a).isSome := by
  cases pc : c.pc <;> simp only [pc, VerifyPc.rank, ne_eq, not_true_eq_false] at running <;>
    simp only [step, pc] <;> (repeat' split) <;> rfl

theorem ResendCall.step_enabled (c : ResendCall) (running : c.pc.rank ≠ 0) : (c.step env w a).isSome := by
  cases pc : c.pc <;> simp only [pc, ResendPc.rank, ne_eq, not_true_eq_false] at running <;>
    simp only [step, pc] <;> (repeat' split) <;> rfl

theorem WebhookCall.step_enabled (c : WebhookCall) (running : c.pc.rank ≠ 0) : (c.step w a).isSome := by
  cases pc : c.pc with
  | answered reply => simp [pc, WebhookPc.rank] at running
  | logEvent | findMessage | updateMessage | findOtp | updateOtp | refund =>
    simp only [step, pc]
    (repeat' split) <;> rfl

theorem Party.resume_enabled (t : Party) (running : t.rank ≠ 0) : (t.resume env w a).isSome := by
  cases t with
  | webhook c => simp only [resume, Option.isSome_map, WebhookCall.step_enabled w a c running]
  | call t =>
    rw [resume, Option.isSome_map]
    cases t with
    | authenticating apiKey request =>
      simp only [Thread.resume]
      split <;> rfl
    | refused reply => exact absurd rfl running
    | send c =>
      simp only [Thread.resume, Thread.stepped, Option.isSome_map, SendCall.step_enabled env w a c running]
    | verify c =>
      simp only [Thread.resume, Thread.stepped, Option.isSome_map, VerifyCall.step_enabled env w a c running]
    | resend c =>
      simp only [Thread.resume, Thread.stepped, Option.isSome_map, ResendCall.step_enabled env w a c running]

end Steps

/-! ### Both functions -/

section Runs

variable {env : Env} {p q : PartySystem}

theorem ranked_parties (env : Env) :
    Ranked (partyProgram env) (fun _ => True) Party.rank PartyEvent.awaited where
  resumed _ _ := trivial
  started := by
    intro w event w' born _ acted
    refine ⟨trivial, ?_⟩
    cases event with
    | call event =>
      obtain ⟨⟨v, threads⟩, arrived, same⟩ := Option.map_eq_some_iff.mp acted
      cases same
      cases event with
      | tick d =>
        cases arrived
        exact Nat.zero_le _
      | post request =>
        cases arrived
        simp only [List.map_cons, List.map_nil, total_cons, total_nil, Nat.add_zero]
        unfold Thread.start
        split <;> simp [Party.rank, PartyEvent.awaited]
    | webhook payload =>
      cases acted
      simp only [total_cons, total_nil, Nat.add_zero]
      exact WebhookCall.proceed_rank w _
  lowers := Party.resume_rank
  enabled := fun w t a => Party.resume_enabled env w a t

/-- Whatever their awaited calls come to: these are at most eight for each request and six for each
reported status, a call that has not concluded can always go on, and if nothing more arrives all of them
conclude. -/
theorem calls_conclude {es : List PartyLabel} (idle : p.threads = [])
    (ran : Transition.run (Pool.step (partyProgram env)) p es = some q) (a : Answer) :
    es.countP Label.isResume ≤ allowance PartyEvent.awaited es ∧
    (∀ (i : ℕ) t, q.threads[i]? = some t → t.concluded = false →
      (Pool.step (partyProgram env) q (.resume i a)).isSome) ∧
    ∃ fs r, (∀ l ∈ fs, ∃ i, l = Label.resume i a) ∧
      Transition.run (Pool.step (partyProgram env)) q fs = some r ∧ ∀ t ∈ r.threads, t.concluded = true := by
  obtain ⟨bounded, goes_on, fs, r, resumes, rest, ended⟩ :=
    (ranked_parties env).concludes trivial idle ran a
  refine ⟨bounded, fun i t found running => goes_on i t found fun ended => ?_, fs, r, resumes, rest,
    fun t member => t.concluded_iff.mpr (ended t member)⟩
  rw [t.concluded_iff.mpr ended] at running
  cases running

end Runs

/-- A send, and a report that meets it before its row is there. -/
def sendAndReport : List PartyLabel :=
  .external (.call (.post ⟨.send, some "wotp_live_00", none,
    some (.object [(js "phone_number", .string (js "+4915112345678"))]), fun i => (i + 1).toUInt8, 7⟩)) ::
    settle 0 4 ++ .external (.webhook (statusPayload "wamid.1" "failed")) :: settle 1 2

theorem calls_conclude_sendAndReport :
    ∃ q, Transition.run (Pool.step (partyProgram sampleEnv)) ⟨sampleSystem.shared, []⟩ sendAndReport = some q ∧
      sendAndReport.countP Label.isResume ≤ allowance PartyEvent.awaited sendAndReport ∧
      (∀ (i : ℕ) t, q.threads[i]? = some t → t.concluded = false →
        (Pool.step (partyProgram sampleEnv) q (.resume i resolved)).isSome) ∧
      ∃ fs r, (∀ l ∈ fs, ∃ i, l = Label.resume i resolved) ∧
        Transition.run (Pool.step (partyProgram sampleEnv)) q fs = some r ∧
        ∀ t ∈ r.threads, t.concluded = true :=
  ⟨_, (Option.some_get (by decide +kernel)).symm,
    calls_conclude rfl (Option.some_get (by decide +kernel)).symm resolved⟩

end SelfOtp.Edge
