import SelfOtp.Properties.MessageBound
import SelfOtp.Properties.TenantIsolation

/-! Where a verified code comes from: a send or a resend has stored it for the same application and
phone number, and its customer has been debited for it. -/
namespace SelfOtp

open Pool Transition

/-- A code that a send or a resend stores, and the customer it has charged. -/
structure Issue where
  key : OtpKey
  requestId : String
  otpCode : String
  customerId : Id
  deriving DecidableEq

def SendCall.issue (env : Env) (c : SendCall) (d : Dispatch) : Issue :=
  ⟨(c.applicationId, c.phoneHash env), d.requestId, d.otpCode, c.customer.id⟩

def ResendCall.issue (env : Env) (c : ResendCall) (d : Redispatch) : Issue :=
  ⟨(c.applicationId, phoneHash env d.record), d.record.requestId, d.newOtpCode, c.customer.id⟩

/-- What the next step of a thread issues. -/
def Thread.issues (env : Env) : Thread → List Issue
  | send c =>
    match c.pc with
    | .store d => [c.issue env d]
    | _ => []
  | resend c =>
    match c.pc with
    | .store d => [c.issue env d]
    | _ => []
  | authenticating .. | verify .. | status .. | dashboard _ | register _ | sendOtpJob _ | webhook _ => []

def issued (env : Env) (p : System) : SystemLabel → List Issue
  | .resume i _ =>
    match p.threads[i]? with
    | some t => t.issues env
    | none => []
  | .external _ => []

/-! ### The stores -/

/-- The same code for the same request; only the attempts may differ. -/
structure SameCode (data data' : StoredOtp) : Prop where
  otpHash : data'.otpHash = data.otpHash
  requestId : data'.requestId = data.requestId

theorem SameCode.refl (data : StoredOtp) : SameCode data data := ⟨rfl, rfl⟩

theorem SameCode.trans {data data' data'' : StoredOtp} (first : SameCode data data')
    (second : SameCode data' data'') : SameCode data data'' :=
  ⟨second.otpHash.trans first.otpHash, second.requestId.trans first.requestId⟩

/-- A step that stores at most `put`, and of which the objects in the process memories keep their
codes. -/
structure CodesStep (w w' : World) (put : Option (OtpKey × StoredOtp)) : Prop where
  redis : ∀ key cell, w'.redis.otp key = some cell →
    w.redis.otp key = some cell ∨ put = some (key, cell.value)
  memory : ∀ process key object, (w'.memory process).otp key = some object →
    (w.memory process).otp key = some object ∨ put = some (key, ((w'.memory process).heap object).otp)
  heap : ∀ process object, object < (w.memory process).nextObject →
    SameCode ((w.memory process).heap object).otp ((w'.memory process).heap object).otp

/-- The entry that the next step of a call may store. -/
def SendCall.stores (env : Env) (c : SendCall) : Option (OtpKey × StoredOtp) :=
  match c.pc with
  | .store d => some ((c.applicationId, c.phoneHash env), storedOtp env d.otpCode d.requestId)
  | _ => none

def ResendCall.stores (env : Env) (c : ResendCall) : Option (OtpKey × StoredOtp) :=
  match c.pc with
  | .store d => some ((c.applicationId, phoneHash env d.record),
      storedOtp env d.newOtpCode d.record.requestId)
  | _ => none

def VerifyCall.stores (env : Env) (w : World) (c : VerifyCall) : Option (OtpKey × StoredOtp) :=
  match c.pc with
  | .writeBack f _ => some (c.key env, c.storedData w f)
  | _ => none

def Thread.stores (env : Env) (w : World) : Thread → Option (OtpKey × StoredOtp)
  | send c => c.stores env
  | verify _ c => c.stores env w
  | resend c => c.stores env
  | authenticating .. | status .. | dashboard _ | register _ | sendOtpJob _ | webhook _ => none

section Stores

variable {env : Env} {w w' : World} {a : Answer} {ok : Bool} {put : Option (OtpKey × StoredOtp)}

theorem CodesStep.same (redis : w'.redis.otp = w.redis.otp)
    (memory : ∀ process, (w'.memory process).otp = (w.memory process).otp ∧
      (w'.memory process).heap = (w.memory process).heap) : CodesStep w w' put := by
  refine ⟨fun key cell stored => Or.inl (redis ▸ stored), fun process key object stored => Or.inl ?_,
    fun process object _ => ?_⟩
  · rwa [(memory process).1] at stored
  · rw [(memory process).2]
    exact .refl _

theorem CodesStep.of_core (same : SameCore w w') : CodesStep w w' put :=
  .same same.otp fun process => ⟨(same.memory process).1, (same.memory process).2.1⟩

theorem CodesStep.of_stores (redis : w'.redis = w.redis) (memory : w'.memory = w.memory) :
    CodesStep w w' put :=
  .same (by rw [redis]) fun process => by rw [memory]; exact ⟨rfl, rfl⟩

theorem CodesStep.of_storeOtp {process : ℕ} {key : OtpKey} {data : StoredOtp} {ttlSeconds : ℚ} :
    CodesStep w (storeOtp w process key data ttlSeconds ok) (some (key, data)) := by
  unfold storeOtp
  split
  next otp set =>
    obtain ⟨-, rfl⟩ := ExpiringMap.sent_setEx_eq_some set
    refine ⟨fun other cell stored => ?_, fun _ _ _ => Or.inl, fun _ _ _ => .refl _⟩
    simp only [World.mapRedis_redis, ExpiringMap.put, Function.update_apply] at stored
    split at stored
    next same =>
      cases stored
      exact Or.inr (by rw [same])
    · exact Or.inl stored
  · refine ⟨fun _ _ => Or.inl, fun other k object stored => ?_, fun other object old => ?_⟩
    · rcases remembered_refers stored with ⟨rfl, rfl, rfl⟩ | ⟨-, old⟩
      · rw [remembered_heap_new]
        exact Or.inr rfl
      · exact Or.inl old
    · rw [remembered_heap old]
      exact .refl _

theorem SendCall.step_codes {c c' : SendCall} (h : c.step env w a = some (w', c')) :
    CodesStep w w' (c.stores env) := by
  have move := (step_move h).1
  unfold stores
  generalize c.pc = pc at move
  generalize c'.pc = pc' at move
  cases move with
  | refuse before same | check before same | setCooldown d same => exact .of_core same
  | store d => exact .of_storeOtp
  | saveCache d key =>
    unfold cacheResponse
    dsimp only
    refine .same ?_ fun process => ?_
    · rw [World.mapMemory_redis]
      split <;> rfl
    · rw [World.mapMemory_memory]
      split
      next here =>
        subst here
        split <;> exact ⟨rfl, rfl⟩
      · split <;> exact ⟨rfl, rfl⟩
  | saveRecord d key =>
    unfold recordResponse
    split <;> exact .of_stores rfl rfl
  | _ => exact .of_stores rfl rfl

theorem ResendCall.step_codes {c c' : ResendCall} (h : c.step env w a = some (w', c')) :
    CodesStep w w' (c.stores env) := by
  have move := (step_move h).1
  unfold stores
  generalize c.pc = pc at move
  generalize c'.pc = pc' at move
  cases move with
  | setCooldown d same => exact .of_core same
  | store d => exact .of_storeOtp
  | _ => exact .of_stores rfl rfl

theorem VerifyCall.step_codes {c c' : VerifyCall} (h : c.step env w ok = some (w', c')) :
    CodesStep w w' (c.stores env w) := by
  obtain ⟨move, -, -⟩ := step_move h
  have shrinks := step_memory h
  refine ⟨fun key cell stored => ?_, fun process key object stored => Or.inl ?_,
    fun process object _ => ⟨(shrinks process).otpHash object, (shrinks process).requestId object⟩⟩
  · have deleted (same : w'.redis.otp = if ok then w.redis.otp.del (c.key env) else w.redis.otp) :
        w.redis.otp key = some cell := by
      rw [same] at stored
      split at stored
      · simp only [ExpiringMap.del, Function.update_apply] at stored
        split at stored
        · cases stored
        · exact stored
      · exact stored
    generalize at_otp : w'.redis.otp = otp at move
    generalize c.phase env = phase at move
    generalize c'.phase env = phase' at move
    generalize c'.isValid = isValid at move
    cases move with
    -- only a write-back stores an entry
    | write f ttl at_write up _ set =>
      obtain ⟨-, -, rfl⟩ := ExpiringMap.setEx_eq_some set
      rw [at_otp, ExpiringMap.put, Function.update_apply] at stored
      split at stored
      next same =>
        cases stored
        right
        simp only [stores, at_write, same]
      · exact Or.inl stored
    | discard f redis | consume f redis => exact Or.inl (deleted at_otp)
    | _ => exact Or.inl (at_otp ▸ stored)
  · rcases (shrinks process).otp key with same | dropped
    · exact same ▸ stored
    · rw [dropped] at stored
      cases stored

theorem Thread.resume_codes {t t' : Thread} (h : Thread.resume env w t a = some (w', t')) :
    CodesStep w w' (t.stores env w) := by
  have of_stores (same : SameStores w w') : CodesStep w w' (t.stores env w) :=
    .of_stores same.redis same.memory
  cases t with
  | authenticating request c =>
    simp only [resume] at h
    obtain ⟨c', stepped, -⟩ := stepped_eq_some h
    exact .of_core (AuthCall.step_session stepped).1
  | send c =>
    obtain ⟨c', stepped, -⟩ := stepped_eq_some h
    exact SendCall.step_codes stepped
  | verify customer c =>
    obtain ⟨c', stepped, -⟩ := stepped_eq_some h
    exact VerifyCall.step_codes stepped
  | resend c =>
    obtain ⟨c', stepped, -⟩ := stepped_eq_some h
    exact ResendCall.step_codes stepped
  | status customer c =>
    obtain ⟨c', stepped, -⟩ := stepped_eq_some h
    exact of_stores (StatusCall.step_sameStores stepped)
  | dashboard c =>
    obtain ⟨c', stepped, -⟩ := stepped_eq_some h
    have same := DashboardCall.step_sameRequests stepped
    exact .of_stores same.redis same.memory
  | register c =>
    obtain ⟨c', stepped, -⟩ := stepped_eq_some h
    have same := RegisterCall.step_sameRequests stepped
    exact .of_stores same.redis same.memory
  | sendOtpJob c =>
    obtain ⟨c', stepped, -⟩ := stepped_eq_some h
    exact of_stores (JobCall.step_sameStores stepped)
  | webhook c =>
    obtain ⟨c', stepped, -⟩ := stepped_eq_some h
    exact of_stores (WebhookCall.step_sameStores stepped)

end Stores

/-! ### What has been issued -/

/-- The code of the entry has been issued for the key. -/
def Traced (env : Env) (known : List Issue) (key : OtpKey) (data : StoredOtp) : Prop :=
  ∃ issue ∈ known, issue.key = key ∧ issue.requestId = data.requestId ∧
    data.otpHash = hashOtpCode env issue.otpCode

/-- The submitted code has been issued for the key and the request. -/
def Matched (env : Env) (known : List Issue) (key : OtpKey) (requestId submittedCode : String) : Prop :=
  ∃ issue ∈ known, issue.key = key ∧ issue.requestId = requestId ∧
    verifyOtpCode env submittedCode (hashOtpCode env issue.otpCode) = true

/-- The code has been issued for the phone number. -/
def IssuedTo (env : Env) (known : List Issue) (phoneNumber otpCode : String) : Prop :=
  ∃ issue ∈ known, issue.key.2 = hashPhoneNumber env phoneNumber ∧ issue.otpCode = otpCode

/-- The submitted code has been found right. -/
def VerifyPc.accepted : VerifyPc → Option Fetched
  | delete f _ | verifiedStatus f _ _ | correctVerification f _ _ => some f
  | _ => none

structure VerifyCall.Checked (env : Env) (w : World) (known : List Issue) (c : VerifyCall) : Prop where
  held : ∀ f ∈ c.pc.held, Traced env known (c.key env) f.data
  object : ∀ f ∈ c.pc.held, ∀ object ∈ f.object,
    ((w.memory c.process).heap object).otp.otpHash = f.data.otpHash
  accepted : ∀ f ∈ c.pc.accepted, verifyOtpCode env c.submittedCode f.data.otpHash = true
  answered : ∀ result, c.pc = .verified result →
    Matched env known (c.key env) result.requestId c.submittedCode

/-- What a send has issued and not handed on yet. -/
def SendPc.stored : SendPc → Option Dispatch
  | setCooldown d | enqueue d | fallback d => some d
  | _ => none

def ResendPc.stored : ResendPc → Option Redispatch
  | setCooldown d | enqueue d | fallback d => some d
  | _ => none

def Thread.Checked (env : Env) (w : World) (known : List Issue) : Thread → Prop
  | send c => ∀ d ∈ c.pc.stored, c.issue env d ∈ known
  | resend c => ∀ d ∈ c.pc.stored, c.issue env d ∈ known
  | verify _ c => c.Checked env w known
  | sendOtpJob c => IssuedTo env known c.job.data.phoneNumber c.job.data.otpCode
  | authenticating .. | status .. | dashboard _ | register _ | webhook _ => True

section Checked

variable {env : Env} {w w' : World} {a : Answer} {ok : Bool} {known more : List Issue}
  {put : Option (OtpKey × StoredOtp)}

theorem Traced.mono {key : OtpKey} {data data' : StoredOtp} (traced : Traced env known key data)
    (le : known ⊆ more) (same : SameCode data data') : Traced env more key data' := by
  obtain ⟨issue, member, of_key, names, hash⟩ := traced
  exact ⟨issue, le member, of_key, names.trans same.requestId.symm, same.otpHash.trans hash⟩

theorem Traced.matched {key : OtpKey} {data : StoredOtp} {submittedCode : String}
    (traced : Traced env known key data) (right : verifyOtpCode env submittedCode data.otpHash = true) :
    Matched env known key data.requestId submittedCode := by
  obtain ⟨issue, member, of_key, names, hash⟩ := traced
  exact ⟨issue, member, of_key, names, hash ▸ right⟩

theorem Matched.mono {key : OtpKey} {requestId submittedCode : String}
    (matched : Matched env known key requestId submittedCode) (le : known ⊆ more) :
    Matched env more key requestId submittedCode := by
  obtain ⟨issue, member, rest⟩ := matched
  exact ⟨issue, le member, rest⟩

theorem IssuedTo.mono {phoneNumber otpCode : String} (issuedTo : IssuedTo env known phoneNumber otpCode)
    (le : known ⊆ more) : IssuedTo env more phoneNumber otpCode := by
  obtain ⟨issue, member, rest⟩ := issuedTo
  exact ⟨issue, le member, rest⟩

theorem VerifyCall.Checked.mono {c : VerifyCall} (checked : c.Checked env w known)
    (linked : c.Linked env w) (le : known ⊆ more) (codes : CodesStep w w' put) :
    c.Checked env w' more := by
  refine ⟨fun f holds => (checked.held f holds).mono le (.refl _), fun f holds object refers => ?_,
    checked.accepted, fun result at_result => (checked.answered result at_result).mono le⟩
  rw [(codes.heap c.process object (linked.object f holds object refers).1).otpHash]
  exact checked.object f holds object refers

theorem Thread.Checked.mono {t : Thread} (checked : t.Checked env w known) (linked : t.Linked env w)
    (le : known ⊆ more) (codes : CodesStep w w' put) : t.Checked env w' more := by
  cases t with
  | send | resend => exact fun d handed => le (checked d handed)
  | verify customer c => exact VerifyCall.Checked.mono checked linked le codes
  | sendOtpJob c => exact IssuedTo.mono checked le
  | authenticating | status | dashboard | register | webhook => trivial

/-! ### The calls -/

theorem SendCall.finish_stored (c : SendCall) (d : Dispatch) : (c.finish env d).stored = none := by
  unfold finish
  split <;> rfl

theorem SendPc.checking_stored {pc : SendPc} (checking : pc.checking = true) : pc.stored = none := by
  cases pc <;> first | rfl | cases checking

theorem SendCall.step_checked {c c' : SendCall} (checked : (Thread.send c).Checked env w known)
    (h : c.step env w a = some (w', c')) :
    (Thread.send c').Checked env w' (known ++ (Thread.send c).issues env) := by
  obtain ⟨move, same_call⟩ := step_move h
  have same_issue (d : Dispatch) : c'.issue env d = c.issue env d := by
    rw [same_call]
    rfl
  simp only [Thread.Checked, Thread.issues, same_issue] at checked ⊢
  have kept {d : Dispatch} {more : List Issue} (member : c.issue env d ∈ known) :
      c.issue env d ∈ known ++ more := List.mem_append_left _ member
  generalize c.pc = pc at move checked
  generalize c'.pc = pc' at move
  cases move with
  | store d =>
    intro e handed
    cases handed
    exact List.mem_append_right _ (List.mem_singleton_self _)
  | setCooldown d | offline d =>
    intro e handed
    cases handed
    exact kept (checked d rfl)
  | enqueue d | markSent d | refund d =>
    intro e handed
    rw [finish_stored] at handed
    cases handed
  | deliver d after =>
    intro e handed
    rw [after] at handed
    split at handed <;> cases handed
  | check before same after =>
    intro e handed
    rw [SendPc.checking_stored after] at handed
    cases handed
  | early before after =>
    intro e handed
    obtain rfl | ⟨key, -, rfl⟩ | ⟨-, rfl⟩ := after <;> cases handed
  | refuse | hit | miss | known | unknown | prepare | create | debit | unpaid | markFailed | saveCache
  | saveRecord | crash =>
    exact fun e handed => (by cases handed)

theorem ResendCall.step_checked {c c' : ResendCall} (checked : (Thread.resend c).Checked env w known)
    (h : c.step env w a = some (w', c')) :
    (Thread.resend c').Checked env w' (known ++ (Thread.resend c).issues env) := by
  obtain ⟨move, same_call⟩ := step_move h
  have same_issue (d : Redispatch) : c'.issue env d = c.issue env d := by
    rw [same_call]
    rfl
  simp only [Thread.Checked, Thread.issues, same_issue] at checked ⊢
  have kept {d : Redispatch} {more : List Issue} (member : c.issue env d ∈ known) :
      c.issue env d ∈ known ++ more := List.mem_append_left _ member
  generalize c.pc = pc at move checked
  generalize c'.pc = pc' at move
  cases move with
  | store d =>
    intro e handed
    cases handed
    exact List.mem_append_right _ (List.mem_singleton_self _)
  | setCooldown d | offline d =>
    intro e handed
    cases handed
    exact kept (checked d rfl)
  | deliver d after =>
    intro e handed
    rw [after] at handed
    split at handed <;> cases handed
  | reject | lapse | found | expire | prepare | debit | update | enqueue | markSent | crash =>
    exact fun e handed => (by cases handed)

theorem VerifyPc.held_of_accepted {pc : VerifyPc} {f : Fetched} (accepts : f ∈ pc.accepted) :
    f ∈ pc.held := by
  cases pc <;> first | exact accepts | cases accepts

/-- A call that goes on with the code it held. -/
theorem VerifyCall.Checked.follow {c c' : VerifyCall} {f g : Fetched} (checked : c.Checked env w known)
    (same : c.SameCall c') (before : c.pc.held = some f) (held : c'.pc.held = some g)
    (code : SameCode f.data g.data) (object : g.object = f.object)
    (right : c'.pc.accepted.isSome = true → verifyOtpCode env c.submittedCode f.data.otpHash = true) :
    c'.Checked env w known := by
  have only {h : Fetched} (holds : h ∈ c'.pc.held) : h = g := by
    rw [held] at holds
    exact (Option.mem_some.mp holds).symm
  refine ⟨fun h holds => ?_, fun h holds other refers => ?_, fun h accepts => ?_, fun result at_result => ?_⟩
  · rw [only holds, same.key]
    exact (checked.held f before).mono (List.Subset.refl _) code
  · rw [only holds] at refers ⊢
    rw [same.process, code.otpHash]
    exact checked.object f before other (object ▸ refers)
  · rw [only (VerifyPc.held_of_accepted accepts), same.submittedCode, code.otpHash]
    exact right (Option.isSome_of_mem accepts)
  · rw [at_result] at held
    cases held

/-- A call that answers with the code it has found right. -/
theorem VerifyCall.Checked.answer {c : VerifyCall} {f : Fetched} {result : VerifyResult}
    (checked : c.Checked env w known) (held : c.pc.held = some f) (accepted : c.pc.accepted = some f)
    (names : result.requestId = f.data.requestId) : (c.goto (.verified result)).Checked env w known := by
  refine ⟨fun g holds => (by cases holds), fun g holds => (by cases holds),
    fun g accepts => (by cases accepts),
    fun other at_result => ?_⟩
  cases at_result
  rw [names]
  exact (checked.held f held).matched (checked.accepted f accepted)

/-- A call that holds no code. -/
theorem VerifyCall.Checked.of_released {c : VerifyCall} (held : c.pc.held = none)
    (answered : ∀ result, c.pc ≠ .verified result) : c.Checked env w known := by
  have nothing {f : Fetched} : ¬f ∈ c.pc.held := by
    rw [held]
    exact Option.not_mem_none f
  exact ⟨fun f holds => absurd holds nothing, fun f holds => absurd holds nothing,
    fun f accepts => absurd (VerifyPc.held_of_accepted accepts) nothing,
    fun result at_result => absurd at_result (answered result)⟩

theorem VerifyCall.Checked.of_lookup {c : VerifyCall} {f : Fetched} (found : c.lookup env w ok = some f)
    (redis : ∀ key cell, w.redis.otp key = some cell → Traced env known key cell.value)
    (memory : ∀ process key object, (w.memory process).otp key = some object →
      Traced env known key ((w.memory process).heap object).otp) :
    (c.goto (.findRecord f)).Checked env w known := by
  obtain ⟨-, ⟨copy, -, stored⟩ | ⟨object, refers, -, stored, -, data⟩⟩ := lookup_cases f found
  · obtain ⟨cell, there, -, value⟩ := ExpiringMap.get_eq_some.mp stored
    refine ⟨fun g holds => ?_, fun g holds other refers => ?_, fun g accepts => (by cases accepts),
      fun result h => (by cases h)⟩
    · cases holds
      exact value ▸ redis _ cell there
    · cases holds
      rw [copy] at refers
      cases refers
  · refine ⟨fun g holds => ?_, fun g holds other refers' => ?_, fun g accepts => (by cases accepts),
      fun result h => (by cases h)⟩
    · cases holds
      rw [data]
      exact memory _ _ object stored
    · cases holds
      rw [refers] at refers'
      cases refers'
      exact congrArg StoredOtp.otpHash data.symm

theorem VerifyCall.step_checked {c c' : VerifyCall} (checked : c.Checked env w known)
    (linked : c.Linked env w) (h : c.step env w ok = some (w', c'))
    (redis : ∀ key cell, w.redis.otp key = some cell → Traced env known key cell.value)
    (memory : ∀ process key object, (w.memory process).otp key = some object →
      Traced env known key ((w.memory process).heap object).otp) : c'.Checked env w' known := by
  have kept := checked.mono linked (List.Subset.refl _) (step_codes h)
  cases pc : c.pc with
  | lookup =>
    simp only [step, pc] at h
    split at h <;> cases h
    next f found => exact .of_lookup found redis memory
    · exact .of_released rfl (by simp [goto])
  | findRecord f =>
    have before : c.pc.held = some f := by rw [pc]; rfl
    simp only [step, pc] at h
    split at h
    · split at h <;> cases h
      next right => exact kept.follow ⟨rfl, rfl, rfl, rfl⟩ before rfl (.refl _) rfl fun _ => right
      · cases (w.db.findOtpRequest f.data.requestId c.applicationId).map (·.id) with
        | some known =>
          exact kept.follow ⟨rfl, rfl, rfl, rfl⟩ before rfl ⟨rfl, rfl⟩ rfl fun h => (by cases h)
        | none =>
          refine kept.follow ⟨rfl, rfl, rfl, rfl⟩ before (afterIncorrect_held _ none) ⟨rfl, rfl⟩ rfl ?_
          simp only [afterIncorrect]
          split <;> exact fun h => (by cases h)
    · cases h
      exact .of_released rfl (by simp [goto])
  | incorrectAttempts f record | maxStatus f record =>
    simp only [step, pc] at h
    split at h <;> cases h
    · exact kept.follow (f := f) (same_goto _) (by rw [pc]; rfl) rfl (.refl _) rfl fun h => (by cases h)
    · exact .of_released rfl (by simp [goto])
  | incorrectVerification f record =>
    simp only [step, pc] at h
    split at h <;> cases h
    · refine kept.follow (f := f) (same_goto _) (by rw [pc]; rfl)
        (@afterIncorrect_held env f (some record)) (.refl _) rfl ?_
      simp only [goto, afterIncorrect]
      split <;> exact fun h => (by cases h)
    · exact .of_released rfl (by simp [goto])
  | ttl f =>
    simp only [step, pc] at h
    split at h <;> cases h
    · exact kept.follow (f := f) (same_goto _) (by rw [pc]; rfl) rfl (.refl _) rfl fun h => (by cases h)
    · exact .of_released rfl (by simp [goto])
  | maxBlock f =>
    simp only [step, pc] at h
    cases h
    exact kept.follow (f := f) (same_goto _) (by rw [pc]; rfl) rfl (.refl _) rfl fun h => (by cases h)
  | writeBack f seconds =>
    simp only [step, pc] at h
    split at h <;> cases h <;> exact .of_released rfl (by simp [goto])
  | maxDelete f =>
    simp only [step, pc] at h
    cases h
    exact .of_released rfl (by simp [goto])
  | delete f record =>
    have right : verifyOtpCode env c.submittedCode f.data.otpHash = true :=
      checked.accepted f (by rw [pc]; rfl)
    simp only [step, pc] at h
    cases record with
    | none =>
      cases h
      exact kept.answer (f := f) (by rw [pc]; rfl) (by rw [pc]; rfl) rfl
    | some id =>
      cases h
      exact kept.follow (f := f) (same_goto _) (by rw [pc]; rfl) rfl (.refl _) rfl fun _ => right
  | verifiedStatus f record verifiedTime =>
    have right : verifyOtpCode env c.submittedCode f.data.otpHash = true :=
      checked.accepted f (by rw [pc]; rfl)
    simp only [step, pc] at h
    split at h <;> cases h
    · exact kept.follow (f := f) (same_goto _) (by rw [pc]; rfl) rfl (.refl _) rfl fun _ => right
    · exact .of_released rfl (by simp [goto])
  | correctVerification f record verifiedTime =>
    simp only [step, pc] at h
    split at h <;> cases h
    · exact kept.answer (f := f) (by rw [pc]; rfl) (by rw [pc]; rfl) rfl
    · exact .of_released rfl (by simp [goto])
  | verified | rejected | internalError => simp [step, pc] at h

theorem Thread.resume_checked {t t' : Thread} (checked : t.Checked env w known) (linked : t.Linked env w)
    (h : Thread.resume env w t a = some (w', t'))
    (redis : ∀ key cell, w.redis.otp key = some cell → Traced env known key cell.value)
    (memory : ∀ process key object, (w.memory process).otp key = some object →
      Traced env known key ((w.memory process).heap object).otp) :
    t'.Checked env w' (known ++ t.issues env) := by
  cases t with
  | authenticating request c =>
    simp only [resume] at h
    obtain ⟨c', -, rfl⟩ := stepped_eq_some h
    split
    · unfold handler
      split
      · exact fun d handed => (by cases handed)
      · exact .of_released rfl fun result h => (by cases h)
      · exact fun d handed => (by cases handed)
      · trivial
      · trivial
    · trivial
  | send c =>
    obtain ⟨c', stepped, rfl⟩ := stepped_eq_some h
    exact SendCall.step_checked checked stepped
  | verify customer c =>
    obtain ⟨c', stepped, rfl⟩ := stepped_eq_some h
    rw [issues, List.append_nil]
    exact VerifyCall.step_checked checked linked stepped redis memory
  | resend c =>
    obtain ⟨c', stepped, rfl⟩ := stepped_eq_some h
    exact ResendCall.step_checked checked stepped
  | sendOtpJob c =>
    obtain ⟨c', stepped, rfl⟩ := stepped_eq_some h
    simp only [Thread.Checked, JobCall.step_job stepped]
    exact IssuedTo.mono checked (List.subset_append_left _ _)
  | status | dashboard | register | webhook =>
    obtain ⟨c', -, rfl⟩ := stepped_eq_some h
    trivial

/-- An entry that a step stores is of a code that it issues, or that has been issued. -/
theorem Thread.Checked.stores {t : Thread} {key : OtpKey} {data : StoredOtp} (checked : t.Checked env w known)
    (linked : t.Linked env w) (stores : t.stores env w = some (key, data)) :
    Traced env (known ++ t.issues env) key data := by
  cases t with
  | send c =>
    simp only [Thread.stores, SendCall.stores] at stores
    split at stores <;> cases stores
    next d at_store =>
      refine ⟨c.issue env d, List.mem_append_right _ ?_, rfl, rfl, rfl⟩
      simp only [issues, at_store, List.mem_singleton]
  | resend c =>
    simp only [Thread.stores, ResendCall.stores] at stores
    split at stores <;> cases stores
    next d at_store =>
      refine ⟨c.issue env d, List.mem_append_right _ ?_, rfl, rfl, rfl⟩
      simp only [issues, at_store, List.mem_singleton]
  -- the write-back of a wrong attempt keeps the code of the entry
  | verify customer c =>
    simp only [Thread.stores, VerifyCall.stores] at stores
    split at stores <;> cases stores
    next f seconds at_write =>
      have held : f ∈ c.pc.held := by rw [at_write]; rfl
      refine (VerifyCall.Checked.held checked f held).mono (List.subset_append_left _ _) ⟨?_, ?_⟩
      · unfold VerifyCall.storedData
        split
        · rfl
        next object refers => exact VerifyCall.Checked.object checked f held object refers
      · exact VerifyCall.Linked.storedData linked held
  | authenticating | status | dashboard | register | sendOtpJob | webhook => cases stores

/-! ### Messages -/

/-- Recipient and code of the message that the next step of a thread may hand to the provider. -/
def Thread.offers : Thread → Option (String × String)
  | send c =>
    match c.pc with
    | .fallback d => some (c.body.phoneNumber, d.otpCode)
    | _ => none
  | resend c =>
    match c.pc with
    | .fallback d => some (d.record.phoneNumber, d.newOtpCode)
    | _ => none
  | sendOtpJob c =>
    match c.pc with
    | .send => some (c.job.data.phoneNumber, c.job.data.otpCode)
    | _ => none
  | authenticating .. | verify .. | status .. | dashboard _ | register _ | webhook _ => none

theorem VerifyCall.step_provider {c c' : VerifyCall} (h : c.step env w ok = some (w', c')) :
    w'.provider = w.provider := by
  have deleted (c : VerifyCall) : (c.deleteEntry env w ok).provider = w.provider := by
    unfold deleteEntry
    split <;> rfl
  cases pc : c.pc with
  | lookup =>
    simp only [step, pc] at h
    split at h <;> cases h <;> rfl
  | findRecord f =>
    simp only [step, pc] at h
    split at h
    · split at h <;> cases h
      · rfl
      · unfold mutate
        split <;> rfl
    · cases h
      rfl
  | maxBlock f =>
    simp only [step, pc] at h
    cases h
    unfold blockPhoneNumber
    split <;> rfl
  | maxDelete f =>
    simp only [step, pc] at h
    cases h
    exact deleted c
  | delete f record =>
    simp only [step, pc] at h
    split at h <;> cases h <;> exact deleted c
  | incorrectAttempts | incorrectVerification | maxStatus | ttl | writeBack | verifiedStatus
  | correctVerification =>
    simp only [step, pc] at h
    split at h <;> cases h <;> rfl
  | verified | rejected | internalError => simp [step, pc] at h

theorem JobCall.step_provider {c c' : JobCall} (h : c.step w a = some (w', c')) :
    ∀ call ∈ w'.provider, call ∈ w.provider ∨
      (Thread.sendOtpJob c).offers = some (call.phoneNumber, call.otpCode) := by
  cases pc : c.pc with
  | send =>
    simp only [step, pc] at h
    split at h <;> cases h
    · intro call member
      rcases List.mem_cons.mp member with rfl | old
      · exact Or.inr (by simp only [Thread.offers, pc])
      · exact Or.inl old
    · exact fun call => Or.inl
  | createEvent res message =>
    simp only [step, pc] at h
    split at h
    · split at h
      · cases h
        exact fun call => Or.inl
      · split at h <;> cases h <;> exact fun call => Or.inl
    · cases h
      exact fun call => Or.inl
  | refund res | exhaustedRefund error =>
    simp only [step, pc] at h
    split at h
    · split at h <;> cases h
      next granted =>
        unfold refunded at granted
        split at granted <;> cases granted
        exact fun call => Or.inl
      · exact fun call => Or.inl
    · cases h
      exact fun call => Or.inl
  | createMessage | markSent | markFailed | deadLetter | exhaustedMark | exhaustedDeadLetter =>
    simp only [step, pc] at h
    split at h <;> cases h <;> exact fun call => Or.inl
  | completed | failed => simp [step, pc] at h

theorem DashboardCall.handle_provider (c : DashboardCall) (customer : Customer) :
    (c.handle env w customer).1.provider = w.provider := by
  cases request : c.request with
  | account accountRequest => cases accountRequest <;> simp only [handle, request] <;> rfl
  | createApplication | createApiKey | topup | getApplication | deleteApplication | revokeApiKey =>
    simp only [handle, request]
    split <;> rfl
  | transactions =>
    simp only [handle, request]
    rfl
  | listApplications | listApiKeys => simp only [handle, request]

theorem DashboardCall.step_provider {c c' : DashboardCall} (h : c.step env w ok = some (w', c')) :
    w'.provider = w.provider := by
  cases pc : c.pc with
  | handle customer =>
    simp only [step, pc] at h
    split at h
    · have same : (c.handle env w customer).1.provider = w.provider := c.handle_provider customer
      rw [Option.some.inj h] at same
      exact same
    · cases h
      rfl
  | authenticate | deleteApplication | revokeApiKey | readWallet | readTransactions | countVerified
  | countFailed =>
    simp only [step, pc] at h
    split at h <;> cases h <;> rfl
  | answered | rejected | internalError => simp [step, pc] at h

theorem RegisterCall.step_provider {c c' : RegisterCall} (h : c.step w ok = some (w', c')) :
    w'.provider = w.provider := by
  cases pc : c.pc with
  | findUser =>
    simp only [step, pc] at h
    split at h
    · split at h <;> cases h <;> rfl
    · cases h
      rfl
  | create =>
    simp only [step, pc] at h
    split at h <;> cases h
    next registered =>
      split at registered
      · unfold RegisterCall.create at registered
        dsimp only at registered
        split at registered
        · obtain ⟨db, -, rfl⟩ := Option.map_eq_some_iff.mp registered
          rfl
        · cases registered
      · cases registered
    · rfl
  | registered | rejected | internalError => simp [step, pc] at h

theorem StatusCall.step_provider {c c' : StatusCall} (h : c.step w ok = some (w', c')) :
    w'.provider = w.provider := by
  cases pc : c.pc with
  | findRecord =>
    simp only [step, pc] at h
    split at h
    · split at h
      · cases h
        rfl
      · split at h <;> cases h <;> rfl
    · cases h
      rfl
  | expire record =>
    simp only [step, pc] at h
    split at h <;> cases h <;> rfl
  | answered | rejected | internalError => simp [step, pc] at h

theorem WebhookCall.step_provider {c c' : WebhookCall} (h : c.step w ok = some (w', c')) :
    w'.provider = w.provider := by
  cases pc : c.pc with
  | findMessage | findEvent =>
    simp only [step, pc] at h
    split at h
    · split at h <;> cases h <;> rfl
    · cases h
      rfl
  | updateMessage | createEvent | updateOtpRequest =>
    simp only [step, pc] at h
    split at h <;> cases h <;> rfl
  | findOtpRequest record =>
    simp only [step, pc] at h
    split at h
    · split at h
      · split at h
        · cases h
          rfl
        · split at h <;> cases h <;> rfl
      · cases h
        rfl
    · cases h
      rfl
  | markProcessed =>
    simp only [step, pc] at h
    cases h
    split <;> rfl
  | finished | threw => simp [step, pc] at h

/-- Only what a thread offers is handed to the provider. -/
theorem Thread.resume_provider {t t' : Thread} (h : Thread.resume env w t a = some (w', t')) :
    ∀ call ∈ w'.provider, call ∈ w.provider ∨ t.offers = some (call.phoneNumber, call.otpCode) := by
  have of_same (same : w'.provider = w.provider) :
      ∀ call ∈ w'.provider, call ∈ w.provider ∨ t.offers = some (call.phoneNumber, call.otpCode) :=
    fun call member => Or.inl (same ▸ member)
  cases t with
  | authenticating request c =>
    simp only [resume] at h
    obtain ⟨c', stepped, -⟩ := stepped_eq_some h
    exact of_same (AuthCall.step_session stepped).1.provider
  | send c =>
    obtain ⟨c', stepped, -⟩ := stepped_eq_some h
    have move := (SendCall.step_move stepped).1
    generalize before : c.pc = pc at move
    generalize c'.pc = pc' at move
    cases move with
    | deliver d after =>
      intro call member
      rcases List.mem_cons.mp member with rfl | old
      · exact Or.inr (by simp only [offers, before])
      · exact Or.inl old
    | refuse _ same | check _ same | setCooldown _ same => exact of_same same.provider
    | store d =>
      refine of_same ?_
      unfold storeOtp
      split <;> rfl
    | saveCache d key =>
      refine of_same ?_
      unfold cacheResponse
      dsimp only
      split <;> rfl
    | saveRecord d key =>
      refine of_same ?_
      unfold recordResponse
      split <;> rfl
    | _ => exact of_same rfl
  | resend c =>
    obtain ⟨c', stepped, -⟩ := stepped_eq_some h
    have move := (ResendCall.step_move stepped).1
    generalize before : c.pc = pc at move
    generalize c'.pc = pc' at move
    cases move with
    | deliver d after =>
      intro call member
      rcases List.mem_cons.mp member with rfl | old
      · exact Or.inr (by simp only [offers, before])
      · exact Or.inl old
    | setCooldown _ same => exact of_same same.provider
    | store d =>
      refine of_same ?_
      unfold storeOtp
      split <;> rfl
    | _ => exact of_same rfl
  | verify customer c =>
    obtain ⟨c', stepped, -⟩ := stepped_eq_some h
    exact of_same (VerifyCall.step_provider stepped)
  | status customer c =>
    obtain ⟨c', stepped, -⟩ := stepped_eq_some h
    exact of_same (StatusCall.step_provider stepped)
  | dashboard c =>
    obtain ⟨c', stepped, -⟩ := stepped_eq_some h
    exact of_same (DashboardCall.step_provider stepped)
  | register c =>
    obtain ⟨c', stepped, -⟩ := stepped_eq_some h
    exact of_same (RegisterCall.step_provider stepped)
  | sendOtpJob c =>
    obtain ⟨c', stepped, -⟩ := stepped_eq_some h
    exact JobCall.step_provider stepped
  | webhook c =>
    obtain ⟨c', stepped, -⟩ := stepped_eq_some h
    exact of_same (WebhookCall.step_provider stepped)

theorem Thread.Checked.offers {t : Thread} {phoneNumber otpCode : String} (checked : t.Checked env w known)
    (offers : t.offers = some (phoneNumber, otpCode)) : IssuedTo env known phoneNumber otpCode := by
  cases t with
  | send c =>
    simp only [Thread.offers] at offers
    split at offers <;> cases offers
    next d pc => exact ⟨c.issue env d, checked d (by rw [pc]; rfl), rfl, rfl⟩
  | resend c =>
    simp only [Thread.offers] at offers
    split at offers <;> cases offers
    next d pc => exact ⟨c.issue env d, checked d (by rw [pc]; rfl), rfl, rfl⟩
  | sendOtpJob c =>
    simp only [Thread.offers] at offers
    split at offers <;> cases offers
    exact checked
  | authenticating | verify | status | dashboard | register | webhook => cases offers

theorem Thread.Checked.enqueues {t : Thread} {data : SendOtpJobData} (checked : t.Checked env w known)
    (enqueues : t.enqueues env = some data) : IssuedTo env known data.phoneNumber data.otpCode := by
  cases t with
  | send c =>
    simp only [Thread.enqueues] at enqueues
    split at enqueues <;> cases enqueues
    next d pc => exact ⟨c.issue env d, checked d (by rw [pc]; rfl), rfl, rfl⟩
  | resend c =>
    simp only [Thread.enqueues] at enqueues
    split at enqueues <;> cases enqueues
    next d pc => exact ⟨c.issue env d, checked d (by rw [pc]; rfl), rfl, rfl⟩
  | authenticating | verify | status | dashboard | register | sendOtpJob | webhook => cases enqueues

end Checked

/-! ### Runs -/

/-- Entries, verified requests, messages and threads have their codes from what has been issued. -/
structure Issuing (env : Env) (p : System) (known : List Issue) : Prop where
  filed : Filed env p
  redis : ∀ key cell, p.shared.redis.otp key = some cell → Traced env known key cell.value
  memory : ∀ process key object, (p.shared.memory process).otp key = some object →
    Traced env known key ((p.shared.memory process).heap object).otp
  verified : ∀ r ∈ p.shared.db.otpRequests, r.status = .verified →
    ∃ issue ∈ known, issue.requestId = r.requestId ∧
      issue.key = (r.applicationId, hashPhoneNumber env r.phoneNumber)
  queue : ∀ job ∈ p.shared.otpQueue, IssuedTo env known job.data.phoneNumber job.data.otpCode
  messages : ∀ call ∈ p.shared.provider, IssuedTo env known call.phoneNumber call.otpCode
  threads : ∀ t ∈ p.threads, t.Checked env p.shared known

section Runs

variable {env : Env} {p q : System} {known : List Issue}

/-- The row that a thread is about to mark verified is that of an issued code. -/
theorem Issuing.marks (issuing : Issuing env p known) {t : Thread} (member : t ∈ p.threads) {r : OtpRequest}
    (there : r ∈ p.shared.db.otpRequests) (verifying : t.verifying = some r.id) :
    ∃ issue ∈ known, issue.requestId = r.requestId ∧
      issue.key = (r.applicationId, hashPhoneNumber env r.phoneNumber) := by
  have linked := issuing.filed.threads t member
  have checked := issuing.threads t member
  cases t with
  | verify customer c =>
    simp only [Thread.verifying] at verifying
    split at verifying <;> cases verifying
    next f verifiedTime pc =>
      have held : f ∈ c.pc.held := by rw [pc]; rfl
      obtain ⟨issue, known, of_key, names, -⟩ := VerifyCall.Checked.held checked f held
      obtain ⟨s, member, same, names', -⟩ := VerifyCall.Linked.record linked f held r.id (by rw [pc]; rfl)
      have row := issuing.filed.rows.unique s member r there (Or.inl same)
      subst row
      obtain ⟨s', member', names'', of_app, of_phone⟩ := VerifyCall.Linked.requested linked f held
      have row := issuing.filed.rows.unique s' member' s there (Or.inr (names''.trans names'.symm))
      subst row
      exact ⟨issue, known, names.trans names'.symm, by rw [of_key, of_app, of_phone]⟩
  | authenticating | send | resend | status | dashboard | register | sendOtpJob | webhook =>
    cases verifying

theorem Issuing.step (issuing : Issuing env p known) {l : SystemLabel}
    (taken : Pool.step (systemProgram env) p l = some q) : Issuing env q (known ++ issued env p l) := by
  have filed := issuing.filed.step taken
  cases l with
  | resume i a =>
    obtain ⟨t, w', t', found, resumed, rfl⟩ := step_resume taken
    simp only [systemProgram] at resumed
    have member := List.mem_of_getElem? found
    have linked := issuing.filed.threads t member
    have checked := issuing.threads t member
    have codes := Thread.resume_codes resumed
    have shows : issued env p (.resume i a) = t.issues env := by simp only [issued, found]
    have le : known ⊆ known ++ t.issues env := List.subset_append_left _ _
    rw [shows]
    refine ⟨filed, fun key cell stored => ?_, fun process key object stored => ?_, fun r there verified => ?_,
      fun job queued => ?_, fun call made => ?_, fun u there => ?_⟩
    · rcases codes.redis key cell stored with old | put
      · exact (issuing.redis key cell old).mono le (.refl _)
      · exact checked.stores linked put
    · rcases codes.memory process key object stored with old | put
      · exact (issuing.memory process key object old).mono le
          (codes.heap process object (issuing.filed.objects.bounded process key object old))
      · exact checked.stores linked put
    · obtain ⟨change, rows, target⟩ := Thread.resume_rows resumed
      obtain ⟨s, there', same, old | wrote⟩ := rows.verified there verified
      · obtain ⟨issue, issued, names, of_key⟩ := issuing.verified s there' old
        exact ⟨issue, le issued, names.trans same.requestId.symm, by
          rw [of_key, same.applicationId, same.phoneNumber]⟩
      · have verifying := Thread.verifying_of_target linked (target _ wrote)
        obtain ⟨issue, issued, names, of_key⟩ := issuing.marks member there' verifying
        exact ⟨issue, le issued, names.trans same.requestId.symm, by
          rw [of_key, same.applicationId, same.phoneNumber]⟩
    · rcases Thread.resume_queue resumed with same | ⟨data, enqueues, appended⟩
      · exact (issuing.queue job (same ▸ queued)).mono le
      · simp only [appended] at queued
        rcases List.mem_append.mp queued with old | new
        · exact (issuing.queue job old).mono le
        · rw [List.mem_singleton.mp new]
          exact (checked.enqueues enqueues).mono le
    · rcases Thread.resume_provider resumed call made with old | offers
      · exact (issuing.messages call old).mono le
      · exact (checked.offers offers).mono le
    · rcases List.mem_or_eq_of_mem_set there with old | rfl
      · exact (issuing.threads u old).mono (issuing.filed.threads u old) le codes
      · exact Thread.resume_checked checked linked resumed issuing.redis issuing.memory
  -- a job that is taken carries the code it waited with
  | external event =>
    obtain ⟨w', born, acted, rfl⟩ := step_external taken
    have same : External env p.shared w' born := Thread.external_cases acted
    have codes : CodesStep p.shared w' none := .of_stores same.redis same.memory
    have provider : w'.provider = p.shared.provider := by
      simp only [systemProgram, Thread.external] at acted
      cases event with
      | takeSendOtpJob i =>
        dsimp only at acted
        split at acted <;> cases acted
        rfl
      | tick | api | dashboard | register | processWebhook =>
        cases acted
        rfl
    rw [issued, List.append_nil]
    refine ⟨filed, ?_, ?_, ?_, fun job queued => issuing.queue job (same.queue job queued), ?_,
      fun u there => ?_⟩
    · simp only [same.redis]
      exact issuing.redis
    · simp only [same.memory]
      exact issuing.memory
    · simp only [same.db]
      exact issuing.verified
    · simp only [provider]
      exact issuing.messages
    rcases List.mem_append.mp there with old | new
    · exact (issuing.threads u old).mono (issuing.filed.threads u old) (List.Subset.refl _) codes
    · simp only [systemProgram, Thread.external] at acted
      cases event with
      | takeSendOtpJob i =>
        dsimp only at acted
        split at acted <;> cases acted
        next job waiting =>
          rw [List.mem_singleton.mp new]
          exact issuing.queue job (List.mem_of_getElem? waiting)
      | tick =>
        cases acted
        cases new
      | api | dashboard | register | processWebhook =>
        cases acted
        rw [List.mem_singleton.mp new]
        trivial

theorem Unused.issuing (unused : Unused p) (unsent : p.shared.provider = []) : Issuing env p [] := by
  refine ⟨unused.filed, fun key cell stored => ?_, fun process key object stored => ?_, ?_, ?_, ?_, ?_⟩
  · rw [unused.redis] at stored
    cases stored
  · rw [unused.memory] at stored
    cases stored
  · rw [unused.rows]
    exact fun r there => (by cases there)
  · rw [unused.otpQueue]
    exact fun job queued => (by cases queued)
  · rw [unsent]
    exact fun call made => (by cases made)
  · rw [unused.threads]
    exact fun t there => (by cases there)

/-- A code that is found right, a request that is verified and a message that is sent have their code
from what has been issued. -/
structure CodesIssued (env : Env) (p : System) (known : List Issue) : Prop where
  answers : ∀ customer c, Thread.verify customer c ∈ p.threads → ∀ result, c.pc = .verified result →
    Matched env known (c.key env) result.requestId c.submittedCode
  requests : ∀ r ∈ p.shared.db.otpRequests, r.status = .verified →
    ∃ issue ∈ known, issue.requestId = r.requestId ∧
      issue.key = (r.applicationId, hashPhoneNumber env r.phoneNumber)
  messages : ∀ call ∈ p.shared.provider, IssuedTo env known call.phoneNumber call.otpCode

theorem Issuing.codesIssued (issuing : Issuing env p known) : CodesIssued env p known :=
  ⟨fun _ _ there => VerifyCall.Checked.answered (issuing.threads _ there), issuing.verified,
    issuing.messages⟩

/-- Whatever is interleaved and whichever store answers, what is verified or sent has its code from a
send or a resend of the same application for the same phone number. -/
theorem verified_codes_issued {es : List SystemLabel} (unused : Unused p) (unsent : p.shared.provider = [])
    (ran : Transition.run (Pool.step (systemProgram env)) p es = some q) :
    CodesIssued env q (observed (Pool.step (systemProgram env)) (issued env) p es) := by
  have issuing := run_observed (Issuing env) (fun _ _ _ _ issuing taken => issuing.step taken)
    (unused.issuing unsent) ran
  exact issuing.codesIssued

end Runs

/-- The client's own code is delivered and then submitted. -/
def customVerified : List SystemLabel :=
  sampleCustomSend ++ .external (.takeSendOtpJob 0) :: .resume 1 (.accepted "wamid.1") :: resolve 1 3 ++
    sampleRequest (.verify "+4915112345678" "424242") :: resolve 2 10

theorem verified_codes_issued_custom :
    ∃ q, Transition.run (Pool.step (systemProgram OtpPool.sampleEnv)) sampleSystem customVerified = some q ∧
      q.shared.db.otpRequests.map (·.status) = [.verified] ∧ q.shared.provider.length = 1 ∧
      CodesIssued OtpPool.sampleEnv q (observed (Pool.step (systemProgram OtpPool.sampleEnv))
        (issued OtpPool.sampleEnv) sampleSystem customVerified) :=
  ⟨_, (Option.some_get (by decide +kernel)).symm, by decide +kernel, by decide +kernel,
    verified_codes_issued sampleSystem_opening.toUnused rfl (Option.some_get (by decide +kernel)).symm⟩

end SelfOtp
