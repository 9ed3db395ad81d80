import SelfOtp.Properties.RequestRows

/-! What one step of the system can do to the stored OTP entries. -/
namespace SelfOtp

/-- Some tier holds a live entry of the key that names the request. -/
def Holds (w : World) (key : OtpKey) (requestId : String) : Prop :=
  (∃ data, w.redis.otp.get w.now key = some data ∧ data.requestId = requestId) ∨
    ∃ process object, (w.memory process).otp key = some object ∧
      seconds w.now ≤ ((w.memory process).heap object).expiresAt ∧
      ((w.memory process).heap object).otp.requestId = requestId

/-- The process memories refer to objects they have allocated, each from one key. -/
structure Objects (w : World) : Prop where
  bounded : ∀ process key object, (w.memory process).otp key = some object →
    object < (w.memory process).nextObject
  separate : ∀ process key other object, (w.memory process).otp key = some object →
    (w.memory process).otp other = some object → key = other

/-- A change to the entries by `caller` that stores at most `put`: a key and a request id. -/
structure EntriesStep (w w' : World) (put : Option (OtpKey × String)) (caller : Option ℕ) :
    Prop where
  objects : Objects w'
  holds : ∀ key requestId, Holds w' key requestId →
    Holds w key requestId ∨ put = some (key, requestId)
  next : ∀ process, (w.memory process).nextObject ≤ (w'.memory process).nextObject
  heap : ∀ process object, object < (w.memory process).nextObject →
    ((w'.memory process).heap object).otp.requestId = ((w.memory process).heap object).otp.requestId
  fresh : ∀ process key object, (w'.memory process).otp key = some object →
    (w.memory process).otp key = some object ∨
      ((w.memory process).nextObject ≤ object ∧ caller = some process)

section EntriesStep

variable {env : Env} {w w' : World} {put : Option (OtpKey × String)} {caller : Option ℕ} {a : Answer}
  {ok : Bool}

theorem EntriesStep.same (objects : Objects w) (now : w'.now = w.now)
    (redis : w'.redis.otp = w.redis.otp)
    (memory : ∀ process, (w'.memory process).otp = (w.memory process).otp ∧
      (w'.memory process).heap = (w.memory process).heap ∧
      (w'.memory process).nextObject = (w.memory process).nextObject) : EntriesStep w w' put caller := by
  have otp (process : ℕ) := (memory process).1
  have heap (process : ℕ) := (memory process).2.1
  have next (process : ℕ) := (memory process).2.2
  refine ⟨⟨fun process key object => ?_, fun process key other object => ?_⟩,
    fun key requestId held => Or.inl ?_, fun process => (next process).ge, fun process object _ => ?_,
    fun process key object stored => ?_⟩
  · rw [otp, next]
    exact objects.bounded process key object
  · rw [otp]
    exact objects.separate process key other object
  · simpa only [Holds, now, redis, otp, heap] using held
  · rw [heap]
  · rw [otp] at stored
    exact Or.inl stored

theorem EntriesStep.of_core (objects : Objects w) (same : SameCore w w') : EntriesStep w w' put caller :=
  .same objects same.now same.otp fun process =>
    ⟨(same.memory process).1, (same.memory process).2.1, (same.memory process).2.2.1⟩

theorem EntriesStep.of_stores (objects : Objects w) (now : w'.now = w.now)
    (redis : w'.redis = w.redis) (memory : w'.memory = w.memory) : EntriesStep w w' put caller :=
  .same objects now (by rw [redis]) fun process => by rw [memory]; exact ⟨rfl, rfl, rfl⟩

/-! ### storeOtp -/

section SetOtp

variable {process other : ℕ} {key k : OtpKey} {data : StoredOtp} {expiresAt : ℚ} {object : ℕ}

/-- The world with a new object in a process memory. -/
abbrev remembered (w : World) (process : ℕ) (key : OtpKey) (data : StoredOtp) (expiresAt : ℚ) :
    World := w.mapMemory process fun m => m.setOtp key data expiresAt

/-- A reference is to the new object, or an old one from elsewhere. -/
theorem remembered_refers
    (stored : ((remembered w process key data expiresAt).memory other).otp k = some object) :
    (other = process ∧ k = key ∧ object = (w.memory other).nextObject) ∨
      (¬(other = process ∧ k = key) ∧ (w.memory other).otp k = some object) := by
  rw [World.mapMemory_memory] at stored
  split at stored
  next here =>
    subst here
    simp only [Memory.setOtp, Function.update_apply] at stored
    split at stored
    next same =>
      cases stored
      exact Or.inl ⟨rfl, same, rfl⟩
    next apart => exact Or.inr ⟨fun both => apart both.2, stored⟩
  next elsewhere => exact Or.inr ⟨fun both => elsewhere both.1, stored⟩

theorem remembered_otp (apart : k ≠ key) :
    ((remembered w process key data expiresAt).memory other).otp k = (w.memory other).otp k := by
  rw [World.mapMemory_memory]
  split
  next here =>
    subst here
    exact Function.update_of_ne apart _ _
  · rfl

/-- Old objects stay as they are. -/
theorem remembered_heap (old : object < (w.memory other).nextObject) :
    ((remembered w process key data expiresAt).memory other).heap object =
      (w.memory other).heap object := by
  rw [World.mapMemory_memory]
  split
  next here =>
    subst here
    exact Function.update_of_ne old.ne _ _
  · rfl

theorem remembered_heap_new :
    ((remembered w process key data expiresAt).memory process).heap
      (w.memory process).nextObject = ⟨data, expiresAt⟩ := by
  rw [World.mapMemory_memory, if_pos rfl]
  exact Function.update_self ..

theorem remembered_nextObject :
    ((remembered w process key data expiresAt).memory other).nextObject =
      (w.memory other).nextObject + if other = process then 1 else 0 := by
  rw [World.mapMemory_memory]
  split
  next here =>
    subst here
    rfl
  · rfl

theorem EntriesStep.of_remembered (objects : Objects w) :
    EntriesStep w (remembered w process key data expiresAt) (some (key, data.requestId))
      (some process) := by
  refine ⟨⟨fun other k object stored => ?_, fun other k k' object stored stored' => ?_⟩,
    fun k requestId held => ?_, fun other => ?_, fun other object old => ?_,
    fun other k object stored => ?_⟩
  · rw [remembered_nextObject]
    rcases remembered_refers stored with ⟨rfl, -, rfl⟩ | ⟨-, old⟩
    · simp
    · exact Nat.lt_add_right _ (objects.bounded _ _ _ old)
  · rcases remembered_refers stored with ⟨-, of_key, new⟩ | ⟨-, old⟩
    · rcases remembered_refers stored' with ⟨-, of_key', -⟩ | ⟨-, old'⟩
      · rw [of_key, of_key']
      · exact absurd new (objects.bounded _ _ _ old').ne
    · rcases remembered_refers stored' with ⟨-, -, new'⟩ | ⟨-, old'⟩
      · exact absurd new' (objects.bounded _ _ _ old).ne
      · exact objects.separate _ _ _ _ old old'
  · rcases held with redis | ⟨other, object, stored, live, names⟩
    · exact Or.inl (Or.inl redis)
    · rcases remembered_refers stored with ⟨rfl, rfl, rfl⟩ | ⟨-, old⟩
      · rw [remembered_heap_new] at names
        rw [← names]
        exact Or.inr rfl
      · rw [remembered_heap (objects.bounded _ _ _ old)] at live names
        exact Or.inl (Or.inr ⟨other, object, old, live, names⟩)
  · rw [remembered_nextObject]
    exact Nat.le_add_right _ _
  · rw [remembered_heap old]
  · rcases remembered_refers stored with ⟨rfl, -, new⟩ | ⟨-, old⟩
    · exact Or.inr ⟨new.ge, rfl⟩
    · exact Or.inl old

end SetOtp

theorem EntriesStep.of_storeOtp {process : ℕ} {key : OtpKey} {data : StoredOtp} {ttlSeconds : ℚ}
    (objects : Objects w) :
    EntriesStep w (storeOtp w process key data ttlSeconds ok) (some (key, data.requestId))
      (some process) := by
  unfold storeOtp
  split
  next otp set =>
    refine ⟨⟨objects.bounded, objects.separate⟩, fun other requestId held => ?_,
      fun _ => le_refl _, fun _ _ _ => rfl, fun _ _ _ => Or.inl⟩
    rcases held with ⟨found, got, names⟩ | memory
    · obtain ⟨-, rfl⟩ := ExpiringMap.sent_setEx_eq_some set
      rcases ExpiringMap.get_put_cases got with ⟨rfl, value⟩ | before
      · rw [← names, ← value]
        exact Or.inr rfl
      · exact Or.inl (Or.inl ⟨found, before, names⟩)
    · exact Or.inl (Or.inr memory)
  · exact .of_remembered objects

/-! ### The calls -/

/-- The entry the next step of a call may store. -/
def SendCall.puts (env : Env) (c : SendCall) : Option (OtpKey × String) :=
  match c.pc with
  | .store d => some ((c.applicationId, c.phoneHash env), d.requestId)
  | _ => none

def ResendCall.puts (env : Env) (c : ResendCall) : Option (OtpKey × String) :=
  match c.pc with
  | .store d => some ((c.applicationId, phoneHash env d.record), d.record.requestId)
  | _ => none

def VerifyCall.puts (env : Env) (w : World) (c : VerifyCall) : Option (OtpKey × String) :=
  match c.pc with
  | .writeBack f _ => some (c.key env, (c.storedData w f).requestId)
  | _ => none

/-- The process whose memory a request may use. -/
def Thread.process : Thread → Option ℕ
  | send c => some c.process
  | verify _ c => some c.process
  | resend c => some c.process
  | authenticating .. | status .. | dashboard _ | register _ | sendOtpJob _ | webhook _ => none

def Thread.puts (env : Env) (w : World) : Thread → Option (OtpKey × String)
  | send c => c.puts env
  | verify _ c => c.puts env w
  | resend c => c.puts env
  | authenticating .. | status .. | dashboard _ | register _ | sendOtpJob _ | webhook _ => none

theorem SendCall.step_entries {c c' : SendCall} (objects : Objects w)
    (h : c.step env w a = some (w', c')) : EntriesStep w w' (c.puts env) (some c.process) := by
  have move := (step_move h).1
  unfold puts
  generalize c.pc = pc at move
  generalize c'.pc = pc' at move
  cases move with
  | refuse before same | check before same | setCooldown d same => exact .of_core objects same
  | store d => exact .of_storeOtp objects
  | saveCache d key =>
    unfold cacheResponse
    dsimp only
    refine .same objects ?_ ?_ fun process => ?_
    · rw [World.mapMemory_now]
      split <;> rfl
    · rw [World.mapMemory_redis]
      split <;> rfl
    · rw [World.mapMemory_memory]
      split
      next here =>
        subst here
        split <;> exact ⟨rfl, rfl, rfl⟩
      · split <;> exact ⟨rfl, rfl, rfl⟩
  | saveRecord d key =>
    unfold recordResponse
    split <;> exact .of_stores objects rfl rfl rfl
  | _ => exact .of_stores objects rfl rfl rfl

theorem ResendCall.step_entries {c c' : ResendCall} (objects : Objects w)
    (h : c.step env w a = some (w', c')) : EntriesStep w w' (c.puts env) (some c.process) := by
  have move := (step_move h).1
  unfold puts
  generalize c.pc = pc at move
  generalize c'.pc = pc' at move
  cases move with
  | setCooldown d same => exact .of_core objects same
  | store d => exact .of_storeOtp objects
  | _ => exact .of_stores objects rfl rfl rfl

theorem VerifyCall.step_entries {c c' : VerifyCall} (objects : Objects w)
    (h : c.step env w ok = some (w', c')) : EntriesStep w w' (c.puts env w) (some c.process) := by
  obtain ⟨move, -, now⟩ := step_move h
  have shrinks := step_memory h
  have kept {process : ℕ} {key : OtpKey} {object : ℕ}
      (stored : (w'.memory process).otp key = some object) :
      (w.memory process).otp key = some object := by
    rcases (shrinks process).otp key with same | dropped
    · exact same ▸ stored
    · rw [dropped] at stored
      cases stored
  refine ⟨⟨fun process key object stored => ?_, fun process key other object stored stored' => ?_⟩,
    fun key requestId held => ?_, fun process => (shrinks process).nextObject.ge,
    fun process object _ => (shrinks process).requestId object,
    fun process key object stored => Or.inl (kept stored)⟩
  · rw [(shrinks process).nextObject]
    exact objects.bounded _ _ _ (kept stored)
  · exact objects.separate _ _ _ _ (kept stored) (kept stored')
  · rcases held with ⟨data, got, names⟩ | ⟨process, object, stored, live, names⟩
    · rw [now] at got
      -- only a write-back stores an entry
      have unchanged (same : w'.redis.otp = w.redis.otp) :
          Holds w key requestId ∨ c.puts env w = some (key, requestId) :=
        Or.inl (Or.inl ⟨data, same ▸ got, names⟩)
      have deleted (same : w'.redis.otp =
          if ok then w.redis.otp.del (c.key env) else w.redis.otp) :
          Holds w key requestId ∨ c.puts env w = some (key, requestId) := by
        rw [same] at got
        split at got
        · exact Or.inl (Or.inl ⟨data, ExpiringMap.get_of_get_del got, names⟩)
        · exact Or.inl (Or.inl ⟨data, got, names⟩)
      generalize at_otp : w'.redis.otp = otp at move
      generalize c.phase env = phase at move
      generalize c'.phase env = phase' at move
      generalize c'.isValid = isValid at move
      cases move with
      | write f ttl at_write up _ set =>
        obtain ⟨-, -, rfl⟩ := ExpiringMap.setEx_eq_some set
        rw [at_otp] at got
        rcases ExpiringMap.get_put_cases got with ⟨rfl, rfl⟩ | before
        · right
          simp only [puts, at_write]
          exact congrArg (fun named => some (c.key env, named)) names
        · exact Or.inl (Or.inl ⟨data, before, names⟩)
      | discard f redis | consume f redis => exact deleted at_otp
      | _ => exact unchanged at_otp
    · rw [now, (shrinks process).expiresAt] at live
      rw [(shrinks process).requestId] at names
      exact Or.inl (Or.inr ⟨process, object, kept stored, live, names⟩)

/-- Redis, the process memories, the queue and the clock are untouched. -/
structure SameStores (w w' : World) : Prop where
  redis : w'.redis = w.redis
  memory : w'.memory = w.memory
  otpQueue : w'.otpQueue = w.otpQueue
  now : w'.now = w.now

theorem StatusCall.step_sameStores {c c' : StatusCall} (h : c.step w ok = some (w', c')) :
    SameStores w w' := by
  cases pc : c.pc with
  | findRecord =>
    simp only [step, pc] at h
    split at h
    · split at h
      · cases h
        exact ⟨rfl, rfl, rfl, rfl⟩
      · split at h <;> cases h <;> exact ⟨rfl, rfl, rfl, rfl⟩
    · cases h
      exact ⟨rfl, rfl, rfl, rfl⟩
  | expire record =>
    simp only [step, pc] at h
    split at h <;> cases h <;> exact ⟨rfl, rfl, rfl, rfl⟩
  | answered | rejected | internalError => simp [step, pc] at h

theorem JobCall.refunded_sameStores {c : JobCall} {reason : String}
    (granted : refunded w c reason = .ok w') : SameStores w w' := by
  unfold refunded at granted
  split at granted <;> cases granted
  exact ⟨rfl, rfl, rfl, rfl⟩

theorem JobCall.step_sameStores {c c' : JobCall} (h : c.step w a = some (w', c')) :
    SameStores w w' := by
  cases pc : c.pc with
  | createEvent res message =>
    simp only [step, pc] at h
    split at h
    · split at h
      · cases h
        exact ⟨rfl, rfl, rfl, rfl⟩
      · split at h <;> cases h <;> exact ⟨rfl, rfl, rfl, rfl⟩
    · cases h
      exact ⟨rfl, rfl, rfl, rfl⟩
  | refund res =>
    simp only [step, pc] at h
    split at h
    · split at h <;> cases h
      next granted => exact refunded_sameStores granted
      · exact ⟨rfl, rfl, rfl, rfl⟩
    · cases h
      exact ⟨rfl, rfl, rfl, rfl⟩
  | exhaustedRefund error =>
    simp only [step, pc] at h
    cases h
    split
    · split
      next granted => exact refunded_sameStores granted
      · exact ⟨rfl, rfl, rfl, rfl⟩
    · exact ⟨rfl, rfl, rfl, rfl⟩
  | exhaustedMark error | exhaustedDeadLetter error =>
    simp only [step, pc] at h
    cases h
    split <;> exact ⟨rfl, rfl, rfl, rfl⟩
  | send | createMessage | markSent | markFailed | deadLetter =>
    simp only [step, pc] at h
    split at h <;> cases h <;> exact ⟨rfl, rfl, rfl, rfl⟩
  | completed | failed => simp [step, pc] at h

theorem WebhookCall.step_sameStores {c c' : WebhookCall} (h : c.step w ok = some (w', c')) :
    SameStores w w' := by
  cases pc : c.pc with
  | findMessage | findEvent =>
    simp only [step, pc] at h
    split at h
    · split at h <;> cases h <;> exact ⟨rfl, rfl, rfl, rfl⟩
    · cases h
      exact ⟨rfl, rfl, rfl, rfl⟩
  | updateMessage | createEvent | updateOtpRequest =>
    simp only [step, pc] at h
    split at h <;> cases h <;> exact ⟨rfl, rfl, rfl, rfl⟩
  | findOtpRequest record =>
    simp only [step, pc] at h
    split at h
    · split at h
      · split at h
        · cases h
          exact ⟨rfl, rfl, rfl, rfl⟩
        · split at h <;> cases h <;> exact ⟨rfl, rfl, rfl, rfl⟩
      · cases h
        exact ⟨rfl, rfl, rfl, rfl⟩
    · cases h
      exact ⟨rfl, rfl, rfl, rfl⟩
  | markProcessed =>
    simp only [step, pc] at h
    cases h
    split <;> exact ⟨rfl, rfl, rfl, rfl⟩
  | finished | threw => simp [step, pc] at h

/-! ### The system -/

theorem Thread.resume_entries {t t' : Thread} (objects : Objects w)
    (h : Thread.resume env w t a = some (w', t')) : EntriesStep w w' (t.puts env w) t.process := by
  have of_stores (same : SameStores w w') : EntriesStep w w' (t.puts env w) t.process :=
    .of_stores objects same.now same.redis same.memory
  cases t with
  | authenticating request c =>
    simp only [resume] at h
    obtain ⟨c', stepped, -⟩ := stepped_eq_some h
    exact .of_core objects (AuthCall.step_session stepped).1
  | send c =>
    simp only [resume] at h
    obtain ⟨c', stepped, -⟩ := stepped_eq_some h
    exact SendCall.step_entries objects stepped
  | verify customer c =>
    simp only [resume] at h
    obtain ⟨c', stepped, -⟩ := stepped_eq_some h
    exact VerifyCall.step_entries objects stepped
  | resend c =>
    simp only [resume] at h
    obtain ⟨c', stepped, -⟩ := stepped_eq_some h
    exact ResendCall.step_entries objects stepped
  | status customer c =>
    simp only [resume] at h
    obtain ⟨c', stepped, -⟩ := stepped_eq_some h
    exact of_stores (StatusCall.step_sameStores stepped)
  | dashboard c =>
    simp only [resume] at h
    obtain ⟨c', stepped, -⟩ := stepped_eq_some h
    have same := DashboardCall.step_sameRequests stepped
    exact of_stores ⟨same.redis, same.memory, same.otpQueue, same.now⟩
  | register c =>
    simp only [resume] at h
    obtain ⟨c', stepped, -⟩ := stepped_eq_some h
    have same := RegisterCall.step_sameRequests stepped
    exact of_stores ⟨same.redis, same.memory, same.otpQueue, same.now⟩
  | sendOtpJob c =>
    simp only [resume] at h
    obtain ⟨c', stepped, -⟩ := stepped_eq_some h
    exact of_stores (JobCall.step_sameStores stepped)
  | webhook c =>
    simp only [resume] at h
    obtain ⟨c', stepped, -⟩ := stepped_eq_some h
    exact of_stores (WebhookCall.step_sameStores stepped)

end EntriesStep

end SelfOtp
