import SelfOtp.Model.OtpPool

/-! What one step of a `verifyOtp` call can do, in terms of the record it holds. -/
namespace SelfOtp

/-- What a call still owes the store: nothing (`done`), a comparison (`holding`), the count
of a wrong code (`counting`, `writing`), or a deletion (`discarding`, and `consuming` for a
right code, which is then `consumed`). -/
inductive Phase where
  | idle
  | holding (f : Fetched)
  | counting (f : Fetched)
  | writing (f : Fetched) (ttl : ℤ)
  | discarding (f : Fetched)
  | consuming (f : Fetched)
  | consumed
  | done
  deriving DecidableEq

namespace VerifyPc

def afterWrong (env : Env) (f : Fetched) : Phase :=
  if env.otpMaxVerifyAttempts ≤ f.attempts then .discarding f else .counting f

def phase (env : Env) : VerifyPc → Phase
  | lookup => .idle
  | findRecord f => .holding f
  | incorrectAttempts f _ => afterWrong env f
  | incorrectVerification f _ => afterWrong env f
  | maxStatus f _ => .discarding f
  | maxBlock f => .discarding f
  | maxDelete f => .discarding f
  | ttl f => .counting f
  | writeBack f seconds => .writing f seconds
  | delete f _ => .consuming f
  | verifiedStatus .. => .consumed
  | correctVerification .. => .consumed
  | verified _ => .consumed
  | rejected _ => .done
  | internalError => .done

/-- The awaited call is a Redis command. -/
def awaitsRedis : VerifyPc → Bool
  | lookup | maxBlock _ | maxDelete _ | ttl _ | writeBack .. | delete .. => true
  | _ => false

end VerifyPc

namespace VerifyCall

variable {env : Env} {w w' : World} {c c' : VerifyCall} {ok : Bool}

def phase (env : Env) (c : VerifyCall) : Phase := c.pc.phase env

/-- The record with the attempt counted in. -/
def counted (f : Fetched) : Fetched := { f with data := { f.data with attempts := f.attempts } }

/-- The moves of a call between phases: phase before, Redis store after, phase and
`isValid` after. Moves that need a failed command or database call say so. -/
inductive Move (env : Env) (w : World) (c : VerifyCall) (ok : Bool) :
    Phase → ExpiringMap OtpKey StoredOtp → Phase → Option Bool → Prop
  | fetch (f : Fetched) (object : f.object = none) (up : ok = true)
      (found : w.redis.otp.get w.now (c.key env) = some f.data)
      (next : f.attempts = f.data.attempts + 1) :
      Move env w c ok .idle w.redis.otp (.holding f) c.isValid
  | fetchMemory (f : Fetched) (object : ℕ) (ref : f.object = some object)
      (missed : ok = false ∨ w.redis.otp.get w.now (c.key env) = none)
      (found : (w.memory c.process).otp (c.key env) = some object)
      (live : seconds w.now ≤ ((w.memory c.process).heap object).expiresAt)
      (data : f.data = ((w.memory c.process).heap object).otp)
      (next : f.attempts = f.data.attempts + 1) :
      Move env w c ok .idle w.redis.otp (.holding f) c.isValid
  | miss : Move env w c ok .idle w.redis.otp .done c.isValid
  | accept (f : Fetched) (at_compare : c.pc = .findRecord f) (up : ok = true)
      (right : verifyOtpCode env c.submittedCode f.data.otpHash = true) :
      Move env w c ok (.holding f) w.redis.otp (.consuming f) (some true)
  | wrong (f : Fetched) (at_compare : c.pc = .findRecord f) (up : ok = true)
      (wrong : verifyOtpCode env c.submittedCode f.data.otpHash = false) :
      Move env w c ok (.holding f) w.redis.otp (VerifyPc.afterWrong env (counted f)) (some false)
  | crash (p : Phase) (down : ok = false) (database : c.pc.awaitsRedis = false) :
      Move env w c ok p w.redis.otp .done c.isValid
  | stay (p : Phase) : Move env w c ok p w.redis.otp p c.isValid
  | time (f : Fetched) (up : ok = true) (live : 0 < w.redis.otp.ttl w.now (c.key env)) :
      Move env w c ok (.counting f) w.redis.otp (.writing f (w.redis.otp.ttl w.now (c.key env)))
        c.isValid
  | lapse (f : Fetched) (at_ttl : c.pc = .ttl f)
      (gone : ok = false ∨ w.redis.otp.ttl w.now (c.key env) ≤ 0) :
      Move env w c ok (.counting f) w.redis.otp .done c.isValid
  | write (f : Fetched) (ttl : ℤ) (at_write : c.pc = .writeBack f ttl) (up : ok = true)
      (otp : ExpiringMap OtpKey StoredOtp)
      (set : w.redis.otp.setEx w.now (c.key env) (c.storedData w f) ttl = some otp) :
      Move env w c ok (.writing f ttl) otp .done c.isValid
  | unwritten (f : Fetched) (ttl : ℤ) (redis : c.pc.awaitsRedis = true) (failed : ok = false ∨ ttl ≤ 0) :
      Move env w c ok (.writing f ttl) w.redis.otp .done c.isValid
  | discard (f : Fetched) (redis : c.pc.awaitsRedis = true) :
      Move env w c ok (.discarding f) (if ok then w.redis.otp.del (c.key env) else w.redis.otp)
        .done c.isValid
  | consume (f : Fetched) (redis : c.pc.awaitsRedis = true) :
      Move env w c ok (.consuming f) (if ok then w.redis.otp.del (c.key env) else w.redis.otp)
        .consumed c.isValid

/-- Who called, for which key and with which code. -/
structure SameCall (c c' : VerifyCall) : Prop where
  phoneNumber : c'.phoneNumber = c.phoneNumber
  submittedCode : c'.submittedCode = c.submittedCode
  applicationId : c'.applicationId = c.applicationId
  process : c'.process = c.process

theorem SameCall.key (h : SameCall c c') : c'.key env = c.key env := by
  simp only [VerifyCall.key, phoneHash, h.phoneNumber, h.applicationId]

theorem afterIncorrect_phase (f : Fetched) (record : Option Id) :
    (afterIncorrect env f record).phase env = VerifyPc.afterWrong env f := by
  unfold afterIncorrect VerifyPc.afterWrong
  split
  · cases record <;> rfl
  · rfl

theorem afterIncorrect_cases (env : Env) (f : Fetched) (record : Option Id) :
    afterIncorrect env f record = .ttl f ∨ (∃ id, afterIncorrect env f record = .maxStatus f id) ∨
      afterIncorrect env f record = .maxBlock f := by
  unfold afterIncorrect
  split
  · cases record with
    | some id => exact Or.inr (Or.inl ⟨id, rfl⟩)
    | none => exact Or.inr (Or.inr rfl)
  · exact Or.inl rfl

theorem lookup_cases (f : Fetched) (h : c.lookup env w ok = some f) :
    f.attempts = f.data.attempts + 1 ∧
      ((f.object = none ∧ ok = true ∧ w.redis.otp.get w.now (c.key env) = some f.data) ∨
        ∃ object, f.object = some object ∧
          (ok = false ∨ w.redis.otp.get w.now (c.key env) = none) ∧
          (w.memory c.process).otp (c.key env) = some object ∧
          seconds w.now ≤ ((w.memory c.process).heap object).expiresAt ∧
          f.data = ((w.memory c.process).heap object).otp) := by
  unfold lookup at h
  split at h
  next data found =>
    cases h
    cases ok <;> simp_all
  next missed =>
    dsimp only at h
    split at h
    next object stored =>
      split at h
      next live =>
        cases h
        refine ⟨rfl, Or.inr ⟨object, rfl, ?_, stored, live, rfl⟩⟩
        cases ok <;> simp_all
      · cases h
    · cases h

@[simp] theorem mutate_redis (f : Fetched) : (c.mutate w f).redis = w.redis := by
  unfold mutate
  split <;> rfl

@[simp] theorem mutate_now (f : Fetched) : (c.mutate w f).now = w.now := by
  unfold mutate
  split <;> rfl

@[simp] theorem blockPhoneNumber_otp (process : ℕ) (phoneHash : String) (duration : ℚ) :
    (blockPhoneNumber w process phoneHash duration ok).redis.otp = w.redis.otp := by
  unfold blockPhoneNumber
  split <;> rfl

@[simp] theorem blockPhoneNumber_now (process : ℕ) (phoneHash : String) (duration : ℚ) :
    (blockPhoneNumber w process phoneHash duration ok).now = w.now := by
  unfold blockPhoneNumber
  split <;> rfl

@[simp] theorem deleteEntry_otp : (c.deleteEntry env w ok).redis.otp =
    if ok then w.redis.otp.del (c.key env) else w.redis.otp := by
  cases ok <;> rfl

@[simp] theorem deleteEntry_now : (c.deleteEntry env w ok).now = w.now := by
  cases ok <;> rfl

theorem same_goto (pc : VerifyPc) : SameCall c (c.goto pc) := ⟨rfl, rfl, rfl, rfl⟩

/-- Every step is one of the moves, by the same caller, and takes no time. -/
theorem step_move (h : c.step env w ok = some (w', c')) :
    Move env w c ok (c.phase env) w'.redis.otp (c'.phase env) c'.isValid ∧ SameCall c c' ∧
      w'.now = w.now := by
  unfold phase
  cases pc : c.pc with
  | lookup =>
    simp only [step, pc] at h
    split at h
    next f found =>
      cases h
      refine ⟨?_, same_goto _, rfl⟩
      obtain ⟨next, ⟨object, up, stored⟩ | ⟨object, ref, missed, stored, live, data⟩⟩ :=
        lookup_cases f found
      · exact .fetch f object up stored next
      · exact .fetchMemory f object ref missed stored live data next
    · cases h
      exact ⟨.miss, same_goto _, rfl⟩
  | findRecord f =>
    simp only [step, pc] at h
    split at h
    next up =>
      split at h
      next right =>
        cases h
        exact ⟨.accept f pc up right, ⟨rfl, rfl, rfl, rfl⟩, rfl⟩
      next wrong =>
        cases h
        refine ⟨?_, ⟨rfl, rfl, rfl, rfl⟩, mutate_now f⟩
        have ends : Move env w c ok (.holding f) w.redis.otp
            (VerifyPc.afterWrong env (counted f)) (some false) :=
          .wrong f pc up (by simpa using wrong)
        rw [mutate_redis]
        cases w.db.findOtpRequest f.data.requestId c.applicationId with
        | none =>
          simp only [Option.map_none, afterIncorrect_phase]
          exact ends
        | some r => exact ends
    next down =>
      cases h
      exact ⟨.crash _ (by simpa using down) (by rw [pc]; rfl), same_goto _, rfl⟩
  | incorrectAttempts f record =>
    simp only [step, pc] at h
    split at h
    · cases h
      exact ⟨.stay _, same_goto _, rfl⟩
    next down =>
      cases h
      exact ⟨.crash _ (by simpa using down) (by rw [pc]; rfl), same_goto _, rfl⟩
  | incorrectVerification f record =>
    simp only [step, pc] at h
    split at h
    · cases h
      refine ⟨?_, same_goto _, rfl⟩
      simp only [goto, afterIncorrect_phase]
      exact .stay _
    next down =>
      cases h
      exact ⟨.crash _ (by simpa using down) (by rw [pc]; rfl), same_goto _, rfl⟩
  | maxStatus f record =>
    simp only [step, pc] at h
    split at h
    · cases h
      exact ⟨.stay _, same_goto _, rfl⟩
    next down =>
      cases h
      exact ⟨.crash _ (by simpa using down) (by rw [pc]; rfl), same_goto _, rfl⟩
  | maxBlock f =>
    simp only [step, pc] at h
    cases h
    refine ⟨?_, same_goto _, blockPhoneNumber_now ..⟩
    rw [blockPhoneNumber_otp]
    exact .stay _
  | maxDelete f =>
    simp only [step, pc] at h
    cases h
    refine ⟨?_, same_goto _, deleteEntry_now⟩
    rw [deleteEntry_otp]
    exact .discard f (by rw [pc]; rfl)
  | ttl f =>
    simp only [step, pc] at h
    split at h
    next live =>
      cases h
      simp only [Bool.and_eq_true, decide_eq_true_eq] at live
      exact ⟨.time f live.1 live.2, same_goto _, rfl⟩
    next gone =>
      cases h
      refine ⟨.lapse f pc ?_, same_goto _, rfl⟩
      cases ok <;> simp_all
  | writeBack f ttl =>
    simp only [step, pc] at h
    split at h
    next otp set =>
      cases h
      refine ⟨?_, same_goto _, rfl⟩
      cases ok with
      | false => simp at set
      | true => exact .write f ttl pc rfl otp set
    next failed =>
      cases h
      refine ⟨.unwritten f ttl (by rw [pc]; rfl) ?_, same_goto _, rfl⟩
      by_contra works
      simp only [not_or, Bool.not_eq_false, not_le] at works
      have positive : (0 : ℚ) < ttl := by exact_mod_cast works.2
      simp [works.1, ExpiringMap.setEx, positive] at failed
  | delete f record =>
    simp only [step, pc] at h
    cases record with
    | none =>
      cases h
      refine ⟨?_, same_goto _, deleteEntry_now⟩
      rw [deleteEntry_otp]
      exact .consume f (by rw [pc]; rfl)
    | some id =>
      cases h
      refine ⟨?_, same_goto _, deleteEntry_now⟩
      rw [deleteEntry_otp]
      exact .consume f (by rw [pc]; rfl)
  | verifiedStatus f record verifiedTime | correctVerification f record verifiedTime =>
    simp only [step, pc] at h
    split at h
    · cases h
      exact ⟨.stay .consumed, same_goto _, rfl⟩
    next down =>
      cases h
      exact ⟨.crash _ (by simpa using down) (by rw [pc]; rfl), same_goto _, rfl⟩
  | verified => simp [step, pc] at h
  | rejected => simp [step, pc] at h
  | internalError => simp [step, pc] at h

/-- Verifications only ever drop in-memory entries and recount their attempts. -/
structure MemoryShrinks (m m' : Memory) : Prop where
  otp : ∀ key, m'.otp key = m.otp key ∨ m'.otp key = none
  expiresAt : ∀ object, (m'.heap object).expiresAt = (m.heap object).expiresAt
  otpHash : ∀ object, (m'.heap object).otp.otpHash = (m.heap object).otp.otpHash
  requestId : ∀ object, (m'.heap object).otp.requestId = (m.heap object).otp.requestId
  nextObject : m'.nextObject = m.nextObject

theorem MemoryShrinks.refl (m : Memory) : MemoryShrinks m m :=
  ⟨fun _ => Or.inl rfl, fun _ => rfl, fun _ => rfl, fun _ => rfl, rfl⟩

private theorem mutate_memory (f : Fetched) (process : ℕ) :
    MemoryShrinks (w.memory process) ((c.mutate w f).memory process) := by
  unfold mutate
  split
  · exact .refl _
  next object _ =>
    rw [World.mapMemory_memory]
    split
    next same =>
      subst same
      refine ⟨fun _ => Or.inl rfl, fun other => ?_, fun other => ?_, fun other => ?_, rfl⟩ <;>
      · simp only [Function.update_apply]
        split
        next here => rw [here]
        · rfl
    · exact .refl _

private theorem blockPhoneNumber_memory (caller process : ℕ) (phoneHash : String) (duration : ℚ) :
    MemoryShrinks (w.memory process)
      ((blockPhoneNumber w caller phoneHash duration ok).memory process) := by
  unfold blockPhoneNumber
  split
  · exact .refl _
  · rw [World.mapMemory_memory]
    split
    next same =>
      subst same
      exact ⟨fun _ => Or.inl rfl, fun _ => rfl, fun _ => rfl, fun _ => rfl, rfl⟩
    · exact .refl _

theorem deleteEntry_memory (process : ℕ) :
    MemoryShrinks (w.memory process) ((c.deleteEntry env w ok).memory process) := by
  unfold deleteEntry
  rw [World.mapMemory_memory]
  have unchanged : (if ok = true then
      w.mapRedis fun r => { r with otp := r.otp.del (c.key env) } else w).memory = w.memory := by
    cases ok <;> rfl
  rw [unchanged]
  split
  next same =>
    subst same
    refine ⟨fun key => ?_, fun _ => rfl, fun _ => rfl, fun _ => rfl, rfl⟩
    simp only [Function.update_apply]
    split
    · exact Or.inr rfl
    · exact Or.inl rfl
  · exact .refl _

theorem step_memory (h : c.step env w ok = some (w', c')) (process : ℕ) :
    MemoryShrinks (w.memory process) (w'.memory process) := by
  cases pc : c.pc with
  | lookup =>
    simp only [step, pc] at h
    split at h <;> cases h <;> exact .refl _
  | findRecord f =>
    simp only [step, pc] at h
    split at h
    · split at h <;> cases h
      · exact .refl _
      · exact mutate_memory f process
    · cases h
      exact .refl _
  | maxBlock f =>
    simp only [step, pc] at h
    cases h
    exact blockPhoneNumber_memory ..
  | maxDelete f =>
    simp only [step, pc] at h
    cases h
    exact deleteEntry_memory process
  | delete f record =>
    simp only [step, pc] at h
    cases record <;> cases h <;> exact deleteEntry_memory process
  | incorrectAttempts | incorrectVerification | maxStatus | ttl | writeBack | verifiedStatus
  | correctVerification =>
    simp only [step, pc] at h
    split at h <;> cases h <;> exact .refl _
  | verified | rejected | internalError => simp [step, pc] at h

end VerifyCall

/-! ### What a phase knows -/

namespace Phase

/-- The comparison result and the attempt count a phase is entered with. -/
def Sound (env : Env) (isValid : Option Bool) : Phase → Prop
  | idle => isValid = none
  | holding f => isValid = none ∧ f.attempts = f.data.attempts + 1
  | counting f =>
    isValid = some false ∧ f.data.attempts = f.attempts ∧ f.attempts < env.otpMaxVerifyAttempts
  | writing f ttl => 0 < ttl ∧
    isValid = some false ∧ f.data.attempts = f.attempts ∧ f.attempts < env.otpMaxVerifyAttempts
  | discarding f => isValid = some false ∧ env.otpMaxVerifyAttempts ≤ f.attempts
  | consuming _ => isValid = some true
  | consumed => isValid = some true
  | done => True

/-- The record a call may still compare or write back. -/
def fetched : Phase → Option Fetched
  | holding f | counting f | writing f _ => some f
  | idle | discarding _ | consuming _ | consumed | done => none

/-- The in-memory object the call holds on to. -/
def object : Phase → Option ℕ
  | holding f | counting f | writing f _ | discarding f | consuming f => f.object
  | idle | consumed | done => none

/-- A wrong code is compared, and the store does not count it yet. -/
def uncounted : Phase → Bool
  | counting _ | writing .. | discarding _ => true
  | idle | holding _ | consuming _ | consumed | done => false

/-- A right code is accepted, and its record not deleted yet. -/
def undeleted : Phase → Bool
  | consuming _ => true
  | idle | holding _ | counting _ | writing .. | discarding _ | consumed | done => false

end Phase

@[simp] theorem VerifyPc.afterWrong_uncounted {env : Env} {f : Fetched} :
    (afterWrong env f).uncounted = true := by
  unfold afterWrong
  split <;> rfl

@[simp] theorem VerifyPc.afterWrong_undeleted {env : Env} {f : Fetched} :
    (afterWrong env f).undeleted = false := by
  unfold afterWrong
  split <;> rfl

/-- No database call stands between accepting a code and deleting the record. -/
theorem VerifyPc.undeleted_awaitsRedis {env : Env} {pc : VerifyPc}
    (undeleted : (pc.phase env).undeleted = true) : pc.awaitsRedis = true := by
  cases pc with
  | delete => rfl
  | incorrectAttempts | incorrectVerification =>
    rw [phase, afterWrong_undeleted] at undeleted
    cases undeleted
  | lookup | findRecord | maxStatus | maxBlock | maxDelete | ttl | writeBack | verifiedStatus
  | correctVerification | verified | rejected | internalError => cases undeleted

namespace VerifyCall

variable {env : Env} {w w' : World} {c c' : VerifyCall} {ok : Bool}

theorem Move.sound {p p' : Phase} {otp : ExpiringMap OtpKey StoredOtp} {valid : Option Bool}
    (move : Move env w c ok p otp p' valid) (sound : p.Sound env c.isValid) :
    p'.Sound env valid := by
  cases move with
  | fetch f object up found next => exact ⟨sound, next⟩
  | fetchMemory f object ref missed found live data next => exact ⟨sound, next⟩
  | accept f at_compare up right => rfl
  | wrong f at_compare up wrong =>
    unfold VerifyPc.afterWrong
    split
    next cap => exact ⟨rfl, cap⟩
    next below => exact ⟨rfl, rfl, not_le.mp below⟩
  | stay p | consume f redis => exact sound
  | time f up live => exact ⟨live, sound⟩
  | miss | crash | lapse | write | unwritten | discard => trivial

/-- With nothing in memory, a call only ever holds a copy parsed from Redis. -/
theorem Move.object_none {p p' : Phase} {otp : ExpiringMap OtpKey StoredOtp} {valid : Option Bool}
    (move : Move env w c ok p otp p' valid)
    (memory : (w.memory c.process).otp (c.key env) = none) (copy : p.object = none) :
    p'.object = none := by
  cases move with
  | fetch f object up found next => exact object
  | fetchMemory f object ref missed found live data next =>
    rw [memory] at found
    cases found
  | wrong f at_compare up wrong =>
    unfold VerifyPc.afterWrong
    split <;> exact copy
  | accept | stay | time => exact copy
  | miss | crash | lapse | write | unwritten | discard | consume => rfl

end VerifyCall

end SelfOtp
