import SelfOtp.Properties.Dispatches
import SelfOtp.Properties.Filing
import SelfOtp.Properties.OtpPool

/-! The time at which a code is accepted and the expiry that its request announces. -/
namespace SelfOtp

/-- The request whose code the verification accepts, once it has looked the entry up. -/
def VerifyCall.accepting (env : Env) (c : VerifyCall) : Option String :=
  match c.pc with
  | .findRecord f =>
    if verifyOtpCode env c.submittedCode f.data.otpHash then some f.data.requestId else none
  | .delete f _ | .verifiedStatus f _ _ | .correctVerification f _ _ => some f.data.requestId
  | _ => none

namespace Thread

def accepting (env : Env) : Thread → Option String
  | verify _ c => c.accepting env
  | authenticating .. | send _ | resend _ | status .. | dashboard _ | register _ | sendOtpJob _
  | webhook _ => none

/-- The request for which the next step answers `verified: true`. -/
def verifies (env : Env) (w : World) (a : Answer) : Thread → Option String
  | verify _ c =>
    match c.step env w a.ok with
    | some (_, c') =>
      match c'.pc with
      | .verified result => some result.requestId
      | _ => none
    | none => none
  | authenticating .. | send _ | resend _ | status .. | dashboard _ | register _ | sendOtpJob _
  | webhook _ => none

/-- The entry that the next step may store: its request and the end of its life. -/
def putsUntil (w : World) : Thread → Option (String × ℤ)
  | send c =>
    match c.pc with
    | .store d => some (d.requestId, (w.now + 1000 * c.body.ttlSeconds : ℚ).floor)
    | _ => none
  | verify _ c =>
    match c.pc with
    | .writeBack f ttl => some ((c.storedData w f).requestId, w.now + 1000 * ttl)
    | _ => none
  | resend c =>
    match c.pc with
    | .store d => some (d.record.requestId, w.now + 1000 * d.ttlSeconds)
    | _ => none
  | authenticating .. | status .. | dashboard _ | register _ | sendOtpJob _ | webhook _ => none

/-- The row and the expiry that the next step writes to it. -/
def redates : Thread → Option (Id × Millis)
  | resend c =>
    match c.pc with
    | .update d => some (d.record.id, d.newExpiresAt)
    | _ => none
  | authenticating .. | send _ | verify .. | status .. | dashboard _ | register _ | sendOtpJob _
  | webhook _ => none

end Thread

namespace Expiry

open Pool Transition

/-- A verification that succeeds does so before the expiry of its request. -/
def VerifiedInTime (env : Env) (p : System) : SystemLabel → Prop
  | .resume i a => ∀ t ∈ p.threads[i]?, ∀ requestId ∈ t.verifies env p.shared a,
      ∀ r ∈ p.shared.db.otpRequests, r.requestId = requestId → p.shared.now ≤ r.expiresAt
  | .external _ => True

/-- An entry is stored for a life that ends by the expiry of its request, which is not moved
forward; and no request expires while the right code for it is being accepted. -/
def KeepsDeadline (env : Env) (p : System) : SystemLabel → Prop
  | .resume i _ => ∀ t ∈ p.threads[i]?,
      (∀ put ∈ t.putsUntil p.shared, ∀ r ∈ p.shared.db.otpRequests,
        r.requestId = put.1 → put.2 ≤ r.expiresAt) ∧
      ∀ date ∈ t.redates, ∀ r ∈ p.shared.db.otpRequests, r.id = date.1 → r.expiresAt ≤ date.2
  | .external (.tick d) => ∀ t ∈ p.threads, ∀ requestId ∈ t.accepting env,
      ∀ r ∈ p.shared.db.otpRequests, r.requestId = requestId → p.shared.now + d ≤ r.expiresAt
  | .external _ => True

section Decidable

variable {env : Env} {p : System}

instance : DecidablePred (VerifiedInTime env p)
  | .resume i a => inferInstanceAs (Decidable (∀ t ∈ p.threads[i]?,
      ∀ requestId ∈ t.verifies env p.shared a, ∀ r ∈ p.shared.db.otpRequests, _ → _))
  | .external _ => isTrue trivial

instance : DecidablePred (KeepsDeadline env p)
  | .resume i _ => inferInstanceAs (Decidable (∀ t ∈ p.threads[i]?,
      (∀ put ∈ t.putsUntil p.shared, ∀ r ∈ p.shared.db.otpRequests, _ → _) ∧
      ∀ date ∈ t.redates, ∀ r ∈ p.shared.db.otpRequests, _ → _))
  | .external (.tick _) => inferInstanceAs (Decidable (∀ t ∈ p.threads,
      ∀ requestId ∈ t.accepting env, ∀ r ∈ p.shared.db.otpRequests, _ → _))
  | .external (.api ..) | .external (.dashboard ..) | .external (.register ..)
  | .external (.takeSendOtpJob _) | .external (.processWebhook ..) => isTrue trivial

end Decidable

/-! ### The lives of the entries -/

/-- At every instant of its life an entry satisfies `P`, also after it has expired. -/
structure Lasting (w : World) (P : String → Millis → Prop) : Prop where
  redis : ∀ key cell, w.redis.otp key = some cell → ∀ n ≤ cell.expiresAt, P cell.value.requestId n
  memory : ∀ process key object, (w.memory process).otp key = some object →
    ∀ n : Millis, seconds n ≤ ((w.memory process).heap object).expiresAt →
      P ((w.memory process).heap object).otp.requestId n

section Lasting

variable {env : Env} {w w' : World} {P : String → Millis → Prop} {a : Answer} {ok : Bool}

theorem Lasting.same (lasting : Lasting w P) (otp : w'.redis.otp = w.redis.otp)
    (memory : ∀ process, (w'.memory process).otp = (w.memory process).otp ∧
      (w'.memory process).heap = (w.memory process).heap) : Lasting w' P := by
  refine ⟨fun key cell stored => ?_, fun process key object stored => ?_⟩
  · rw [otp] at stored
    exact lasting.redis key cell stored
  · rw [(memory process).1] at stored
    rw [(memory process).2]
    exact lasting.memory process key object stored

theorem Lasting.of_core (lasting : Lasting w P) (same : SameCore w w') : Lasting w' P :=
  lasting.same same.otp fun process => ⟨(same.memory process).1, (same.memory process).2.1⟩

theorem Lasting.of_stores (lasting : Lasting w P) (redis : w'.redis = w.redis)
    (memory : w'.memory = w.memory) : Lasting w' P :=
  lasting.same (by rw [redis]) fun _ => by rw [memory]; exact ⟨rfl, rfl⟩

theorem Lasting.put (lasting : Lasting w P) {key : OtpKey} {cell : Cell StoredOtp}
    (lives : ∀ n ≤ cell.expiresAt, P cell.value.requestId n) :
    Lasting (w.mapRedis fun r => { r with otp := r.otp.put key cell }) P := by
  refine ⟨fun other found stored => ?_, lasting.memory⟩
  have stored : (w.redis.otp.put key cell) other = some found := stored
  by_cases here : other = key
  · subst here
    rw [ExpiringMap.put, Function.update_self] at stored
    cases stored
    exact lives
  · rw [ExpiringMap.put, Function.update_of_ne here] at stored
    exact lasting.redis other found stored

theorem Lasting.storeOtp (lasting : Lasting w P) (objects : Objects w) {process : ℕ} {key : OtpKey}
    {data : StoredOtp} {ttlSeconds : ℚ}
    (lives : ∀ n : Millis, (n : ℚ) ≤ w.now + 1000 * ttlSeconds → P data.requestId n) :
    Lasting (storeOtp w process key data ttlSeconds ok) P := by
  unfold SelfOtp.storeOtp
  split
  next otp set =>
    cases ok with
    | false => cases set
    | true =>
      obtain ⟨positive, whole, rfl⟩ := ExpiringMap.setEx_eq_some set
      refine lasting.put fun n within => lives n ?_
      rw [← ExpiringMap.toNat_num positive whole]
      exact_mod_cast within
  · refine ⟨lasting.redis, fun other k object stored n within => ?_⟩
    rcases remembered_refers stored with ⟨rfl, rfl, rfl⟩ | ⟨-, old⟩
    · rw [remembered_heap_new] at within ⊢
      refine lives n ?_
      unfold seconds at within
      linarith
    · rw [remembered_heap (objects.bounded _ _ _ old)] at within ⊢
      exact lasting.memory other k object old n within

theorem SendCall.step_lasting (lasting : Lasting w P) (objects : Objects w) {c c' : SendCall}
    (h : c.step env w a = some (w', c'))
    (lives : ∀ requestId e, (Thread.send c).putsUntil w = some (requestId, e) →
      ∀ n : Millis, (n : ℤ) ≤ e → P requestId n) : Lasting w' P := by
  have move := (SendCall.step_move h).1
  simp only [Thread.putsUntil] at lives
  generalize c.pc = pc at move lives
  generalize c'.pc = pc' at move
  cases move with
  | refuse before same | check before same | setCooldown d same => exact lasting.of_core same
  | store d =>
    refine lasting.storeOtp objects fun n within => lives _ _ rfl n ?_
    exact Int.le_floor.mpr (by exact_mod_cast within)
  | saveCache d key =>
    unfold cacheResponse
    dsimp only
    refine lasting.same ?_ fun process => ?_
    · rw [World.mapMemory_redis]
      split <;> rfl
    · rw [World.mapMemory_memory]
      split
      next here =>
        subst here
        split <;> exact ⟨rfl, rfl⟩
      · split <;> exact ⟨rfl, rfl⟩
  | saveRecord d key =>
    unfold recordResponse
    split <;> exact lasting.of_stores rfl rfl
  | _ => exact lasting.of_stores rfl rfl

theorem ResendCall.step_lasting (lasting : Lasting w P) (objects : Objects w) {c c' : ResendCall}
    (h : c.step env w a = some (w', c'))
    (lives : ∀ requestId e, (Thread.resend c).putsUntil w = some (requestId, e) →
      ∀ n : Millis, (n : ℤ) ≤ e → P requestId n) : Lasting w' P := by
  have move := (ResendCall.step_move h).1
  simp only [Thread.putsUntil] at lives
  generalize c.pc = pc at move lives
  generalize c'.pc = pc' at move
  cases move with
  | setCooldown d same => exact lasting.of_core same
  | store d =>
    refine lasting.storeOtp objects fun n within => lives _ _ rfl n ?_
    exact_mod_cast within
  | _ => exact lasting.of_stores rfl rfl

theorem VerifyCall.step_lasting (lasting : Lasting w P) {customer : Customer} {c c' : VerifyCall}
    (h : c.step env w ok = some (w', c'))
    (lives : ∀ requestId e, (Thread.verify customer c).putsUntil w = some (requestId, e) →
      ∀ n : Millis, (n : ℤ) ≤ e → P requestId n) : Lasting w' P := by
  have shrinks := VerifyCall.step_memory h
  refine ⟨fun key cell stored => ?_, fun process key object stored n within => ?_⟩
  · have kept (same : w'.redis.otp = w.redis.otp) : ∀ n ≤ cell.expiresAt, P cell.value.requestId n := by
      rw [same] at stored
      exact lasting.redis key cell stored
    have deleted (same : w'.redis.otp =
        if ok then w.redis.otp.del (c.key env) else w.redis.otp) :
        ∀ n ≤ cell.expiresAt, P cell.value.requestId n := by
      cases ok with
      | false => exact kept same
      | true =>
        rw [same, if_pos rfl, ExpiringMap.del, Function.update_apply] at stored
        split at stored
        · cases stored
        · exact lasting.redis key cell stored
    have move := (VerifyCall.step_move h).1
    generalize at_otp : w'.redis.otp = otp at move kept deleted
    generalize c.phase env = phase at move
    generalize c'.phase env = phase' at move
    generalize c'.isValid = isValid at move
    cases move with
    | write f ttl at_write up otp set =>
      obtain ⟨positive, whole, rfl⟩ := ExpiringMap.setEx_eq_some set
      have ends : ∀ n ≤ w.now + 1000 * (ttl : ℚ).num.toNat, P (c.storedData w f).requestId n := by
        intro n within
        refine lives _ (w.now + 1000 * ttl) (by simp only [Thread.putsUntil, at_write]) n ?_
        have seconds : (ttl.toNat : ℤ) = ttl := Int.toNat_of_nonneg (by exact_mod_cast positive.le)
        have within : n ≤ w.now + 1000 * ttl.toNat := within
        rw [← seconds]
        exact_mod_cast within
      have put : Lasting (w.mapRedis fun r => { r with
          otp := r.otp.put (c.key env) ⟨c.storedData w f, w.now + 1000 * (ttl : ℚ).num.toNat⟩ }) P :=
        lasting.put ends
      rw [at_otp] at stored
      exact put.redis key cell stored
    | discard f redis | consume f redis => exact deleted rfl
    | _ => exact kept rfl
  · rw [(shrinks process).expiresAt] at within
    rw [(shrinks process).requestId]
    rcases (shrinks process).otp key with same | dropped
    · exact lasting.memory process key object (same ▸ stored) n within
    · rw [dropped] at stored
      cases stored

/-- An entry of the next world is one of this world, or the one that the step has put. -/
theorem Thread.resume_lasting (lasting : Lasting w P) (objects : Objects w) {t t' : Thread}
    (resumed : t.resume env w a = some (w', t'))
    (lives : ∀ requestId e, t.putsUntil w = some (requestId, e) →
      ∀ n : Millis, (n : ℤ) ≤ e → P requestId n) : Lasting w' P := by
  have of_stores (same : SameStores w w') : Lasting w' P := lasting.of_stores same.redis same.memory
  cases t with
  | authenticating request c =>
    simp only [Thread.resume] at resumed
    obtain ⟨c', stepped, -⟩ := Thread.stepped_eq_some resumed
    exact lasting.of_core (AuthCall.step_session stepped).1
  | send c =>
    obtain ⟨c', stepped, -⟩ := Thread.stepped_eq_some resumed
    exact SendCall.step_lasting lasting objects stepped lives
  | verify customer c =>
    obtain ⟨c', stepped, -⟩ := Thread.stepped_eq_some resumed
    exact VerifyCall.step_lasting lasting stepped lives
  | resend c =>
    obtain ⟨c', stepped, -⟩ := Thread.stepped_eq_some resumed
    exact ResendCall.step_lasting lasting objects stepped lives
  | status customer c =>
    obtain ⟨c', stepped, -⟩ := Thread.stepped_eq_some resumed
    exact of_stores (StatusCall.step_sameStores stepped)
  | dashboard c =>
    obtain ⟨c', stepped, -⟩ := Thread.stepped_eq_some resumed
    have same := DashboardCall.step_sameRequests stepped
    exact lasting.of_stores same.redis same.memory
  | register c =>
    obtain ⟨c', stepped, -⟩ := Thread.stepped_eq_some resumed
    have same := RegisterCall.step_sameRequests stepped
    exact lasting.of_stores same.redis same.memory
  | sendOtpJob c =>
    obtain ⟨c', stepped, -⟩ := Thread.stepped_eq_some resumed
    exact of_stores (JobCall.step_sameStores stepped)
  | webhook c =>
    obtain ⟨c', stepped, -⟩ := Thread.stepped_eq_some resumed
    exact of_stores (WebhookCall.step_sameStores stepped)

end Lasting

/-! ### The expiries of the rows -/

/-- A row of the request announces the instant or a later one. -/
def Announced (w : World) (requestId : String) (n : Millis) : Prop :=
  ∃ r ∈ w.db.otpRequests, r.requestId = requestId ∧ n ≤ r.expiresAt

def deadline (r : OtpRequest) : String × Millis := (r.requestId, r.expiresAt)

section Announced

variable {env : Env} {w w' : World} {a : Answer} {ok : Bool} {requestId : String} {n : Millis}

theorem Announced.of_map (announced : Announced w requestId n)
    (same : w'.db.otpRequests.map deadline = w.db.otpRequests.map deadline) :
    Announced w' requestId n := by
  obtain ⟨r, member, names, within⟩ := announced
  have there := List.mem_map_of_mem (f := deadline) member
  rw [← same] at there
  obtain ⟨s, member', equal⟩ := List.mem_map.mp there
  have names' : s.requestId = r.requestId := congrArg Prod.fst equal
  have dates : s.expiresAt = r.expiresAt := congrArg Prod.snd equal
  exact ⟨s, member', names'.trans names, within.trans dates.ge⟩

theorem Announced.of_rows (announced : Announced w requestId n)
    (same : w'.db.otpRequests = w.db.otpRequests) : Announced w' requestId n :=
  announced.of_map (by rw [same])

theorem VerifyCall.step_deadlines {c c' : VerifyCall} (h : c.step env w ok = some (w', c')) :
    w'.db.otpRequests.map deadline = w.db.otpRequests.map deadline := by
  cases pc : c.pc with
  | findRecord f =>
    simp only [VerifyCall.step, pc] at h
    split at h
    · split at h <;> cases h
      · rfl
      · unfold VerifyCall.mutate
        split <;> rfl
    · cases h
      rfl
  | incorrectAttempts f record | maxStatus f record | verifiedStatus f record verifiedTime =>
    simp only [VerifyCall.step, pc] at h
    split at h <;> cases h
    · exact w.db.map_updateOtpRequest deadline record _ fun _ => rfl
    · rfl
  | maxBlock f =>
    simp only [VerifyCall.step, pc] at h
    cases h
    rw [(blockPhoneNumber_sameCore ..).db]
  | maxDelete f =>
    simp only [VerifyCall.step, pc] at h
    cases h
    cases ok <;> rfl
  | delete f record =>
    simp only [VerifyCall.step, pc] at h
    cases record <;> cases h <;> cases ok <;> rfl
  | lookup | ttl | writeBack | incorrectVerification | correctVerification =>
    simp only [VerifyCall.step, pc] at h
    split at h <;> cases h <;> rfl
  | verified | rejected | internalError => simp [VerifyCall.step, pc] at h

theorem SendCall.step_announced {c c' : SendCall} (h : c.step env w a = some (w', c'))
    (announced : Announced w requestId n) : Announced w' requestId n := by
  have move := (SendCall.step_move h).1
  generalize c.pc = pc at move
  generalize c'.pc = pc' at move
  cases move with
  | refuse before same | check before same | setCooldown d same =>
    exact announced.of_rows (by rw [same.db])
  | create otpCode newId expiresAt db created =>
    unfold Database.createOtpRequest at created
    split at created <;> cases created
    obtain ⟨r, member, rest⟩ := announced
    exact ⟨r, List.mem_append_left _ member, rest⟩
  | store d =>
    refine announced.of_rows ?_
    unfold storeOtp
    split <;> rfl
  | markSent d | markFailed d =>
    exact announced.of_map (w.db.map_updateOtpRequest deadline _ _ fun _ => rfl)
  | saveCache d key =>
    refine announced.of_rows ?_
    unfold cacheResponse
    dsimp only
    split <;> rfl
  | saveRecord d key =>
    refine announced.of_rows ?_
    unfold recordResponse
    split <;> rfl
  | _ => exact announced.of_rows rfl

theorem ResendCall.step_announced {c c' : ResendCall} (h : c.step env w a = some (w', c'))
    (redates : ∀ date ∈ (Thread.resend c).redates, ∀ r ∈ w.db.otpRequests,
      r.id = date.1 → r.expiresAt ≤ date.2)
    (announced : Announced w requestId n) : Announced w' requestId n := by
  have move := (ResendCall.step_move h).1
  simp only [Thread.redates] at redates
  generalize c.pc = pc at move redates
  generalize c'.pc = pc' at move
  cases move with
  | setCooldown d same => exact announced.of_rows (by rw [same.db])
  | update d =>
    obtain ⟨r, member, names, within⟩ := announced
    refine ⟨_, List.mem_map_of_mem member, ?_⟩
    split
    next here => exact ⟨names, within.trans (redates _ rfl r member here)⟩
    · exact ⟨names, within⟩
  | store d =>
    refine announced.of_rows ?_
    unfold storeOtp
    split <;> rfl
  | expire record | markSent d =>
    exact announced.of_map (w.db.map_updateOtpRequest deadline _ _ fun _ => rfl)
  | _ => exact announced.of_rows rfl

/-- No row announces an earlier expiry than before. -/
theorem Thread.resume_announced {t t' : Thread} (resumed : t.resume env w a = some (w', t'))
    (redates : ∀ date ∈ t.redates, ∀ r ∈ w.db.otpRequests, r.id = date.1 → r.expiresAt ≤ date.2)
    (announced : Announced w requestId n) : Announced w' requestId n := by
  have of_statuses (same : StatusesOnly w w') : Announced w' requestId n :=
    announced.of_map (same.map_eq deadline fun _ _ => rfl)
  cases t with
  | authenticating request c =>
    simp only [Thread.resume] at resumed
    obtain ⟨c', stepped, -⟩ := Thread.stepped_eq_some resumed
    exact announced.of_rows (by rw [(AuthCall.step_session stepped).1.db])
  | send c =>
    obtain ⟨c', stepped, -⟩ := Thread.stepped_eq_some resumed
    exact SendCall.step_announced stepped announced
  | verify customer c =>
    obtain ⟨c', stepped, -⟩ := Thread.stepped_eq_some resumed
    exact announced.of_map (VerifyCall.step_deadlines stepped)
  | resend c =>
    obtain ⟨c', stepped, -⟩ := Thread.stepped_eq_some resumed
    exact ResendCall.step_announced stepped redates announced
  | status customer c =>
    obtain ⟨c', stepped, -⟩ := Thread.stepped_eq_some resumed
    exact of_statuses (StatusCall.step_statuses stepped)
  | dashboard c =>
    obtain ⟨c', stepped, -⟩ := Thread.stepped_eq_some resumed
    exact announced.of_rows (DashboardCall.step_sameRequests stepped).rows
  | register c =>
    obtain ⟨c', stepped, -⟩ := Thread.stepped_eq_some resumed
    exact announced.of_rows (RegisterCall.step_sameRequests stepped).rows
  | sendOtpJob c =>
    obtain ⟨c', stepped, -⟩ := Thread.stepped_eq_some resumed
    exact of_statuses (JobCall.step_statuses stepped)
  | webhook c =>
    obtain ⟨c', stepped, -⟩ := Thread.stepped_eq_some resumed
    exact of_statuses (WebhookCall.step_statuses stepped)

end Announced

/-! ### Acceptance -/

section Accepting

variable {env : Env} {w w' : World} {a : Answer} {ok : Bool} {requestId : String}

/-- What a look-up finds is alive. -/
theorem Lasting.looked_up {P : String → Millis → Prop} (lasting : Lasting w P) {c : VerifyCall}
    {f : Fetched} (found : c.lookup env w ok = some f) : P f.data.requestId w.now := by
  obtain ⟨-, ⟨-, -, got⟩ | ⟨object, -, -, stored, live, data⟩⟩ := VerifyCall.lookup_cases f found
  -- from Redis, whose cells end by themselves, or from memory, where the look-up compares the time
  · obtain ⟨cell, stored, live, value⟩ := ExpiringMap.get_eq_some.mp got
    rw [← value]
    exact lasting.redis _ _ stored _ live
  · rw [data]
    exact lasting.memory _ _ _ stored _ live

theorem VerifyCall.accepting_step {c c' : VerifyCall} (h : c.step env w ok = some (w', c'))
    (accepting : requestId ∈ c'.accepting env) : requestId ∈ c.accepting env ∨
      ∃ f, c.lookup env w ok = some f ∧ f.data.requestId = requestId := by
  have rejecting (f : Fetched) (record : Option Id)
      (next : c'.pc = VerifyCall.afterIncorrect env f record) : c'.accepting env = none := by
    rcases VerifyCall.afterIncorrect_cases env f record with same | ⟨id, same⟩ | same <;>
      simp only [VerifyCall.accepting, next.trans same]
  cases pc : c.pc with
  -- the look-up decides: the right code of an entry that it has found
  | lookup =>
    simp only [VerifyCall.step, pc] at h
    split at h <;> cases h
    next f found =>
      refine Or.inr ⟨f, found, ?_⟩
      have accepting : (if verifyOtpCode env c.submittedCode f.data.otpHash then some f.data.requestId
          else none) = some requestId := accepting
      exact Option.some.inj (Option.ite_none_right_eq_some.mp accepting).2
    · cases accepting
  | findRecord f =>
    simp only [VerifyCall.step, pc] at h
    split at h
    · split at h <;> cases h
      next right =>
        left
        simpa only [VerifyCall.accepting, pc, right, if_true] using accepting
      · cases record : (w.db.findOtpRequest f.data.requestId c.applicationId).map (·.id) with
        | some id =>
          rw [record] at accepting
          cases accepting
        | none =>
          rw [rejecting { f with data := { f.data with attempts := f.attempts } } none
            (by rw [record])] at accepting
          cases accepting
    · cases h
      cases accepting
  -- a code that was wrong is not accepted later on
  | incorrectVerification f record =>
    simp only [VerifyCall.step, pc] at h
    split at h <;> cases h
    · rw [rejecting f (some record) rfl] at accepting
      cases accepting
    · cases accepting
  | delete f record =>
    left
    simp only [VerifyCall.step, pc] at h
    cases record <;> cases h <;> cases accepting
    simp [VerifyCall.accepting, pc]
  | verifiedStatus f record verifiedTime =>
    left
    simp only [VerifyCall.step, pc] at h
    split at h <;> cases h <;> cases accepting
    simp [VerifyCall.accepting, pc]
  | correctVerification | incorrectAttempts | maxStatus | ttl | writeBack =>
    simp only [VerifyCall.step, pc] at h
    split at h <;> cases h <;> cases accepting
  | maxBlock | maxDelete =>
    simp only [VerifyCall.step, pc] at h
    cases h
    cases accepting
  | verified | rejected | internalError => simp [VerifyCall.step, pc] at h

/-- A verification succeeds with the code that it has been accepting. -/
theorem Thread.verifies_accepting {t : Thread} (verifies : requestId ∈ t.verifies env w a) :
    requestId ∈ t.accepting env := by
  cases t with
  | verify customer c =>
    simp only [Thread.verifies] at verifies
    split at verifies
    next w' c' stepped =>
      split at verifies <;> cases verifies
      next result answered =>
        cases pc : c.pc with
        -- the two steps that answer with success
        | delete f record =>
          simp only [VerifyCall.step, pc] at stepped
          cases record <;> cases stepped <;> cases answered
          simp [Thread.accepting, VerifyCall.accepting, pc, VerifyCall.result]
        | correctVerification f record verifiedTime =>
          simp only [VerifyCall.step, pc] at stepped
          split at stepped <;> cases stepped <;> cases answered
          simp [Thread.accepting, VerifyCall.accepting, pc, VerifyCall.result]
        | findRecord f =>
          simp only [VerifyCall.step, pc] at stepped
          split at stepped
          · split at stepped <;> cases stepped
            · cases answered
            · split at answered
              · cases answered
              · rcases VerifyCall.afterIncorrect_cases env _ none with same | ⟨id, same⟩ | same <;>
                  cases same.symm.trans answered
          · cases stepped
            cases answered
        | incorrectVerification f record =>
          simp only [VerifyCall.step, pc] at stepped
          split at stepped <;> cases stepped
          · rcases VerifyCall.afterIncorrect_cases env f (some record) with same | ⟨id, same⟩ | same <;>
              cases same.symm.trans answered
          · cases answered
        | lookup | incorrectAttempts | maxStatus | ttl | writeBack | verifiedStatus =>
          simp only [VerifyCall.step, pc] at stepped
          split at stepped <;> cases stepped <;> cases answered
        | maxBlock | maxDelete =>
          simp only [VerifyCall.step, pc] at stepped
          cases stepped
          cases answered
        | verified | rejected | internalError => simp [VerifyCall.step, pc] at stepped
    · cases verifies
  | authenticating | send | resend | status | dashboard | register | sendOtpJob | webhook =>
    cases verifies

end Accepting

/-! ### Runs -/

/-- Every entry dies by an expiry that its request announces, and no code is being accepted
after one. -/
structure Timely (env : Env) (p : System) : Prop where
  filed : Filed env p
  entries : Lasting p.shared (Announced p.shared)
  accepting : ∀ t ∈ p.threads, ∀ requestId ∈ t.accepting env,
    Announced p.shared requestId p.shared.now

section Runs

variable {env : Env} {p q : System} {l : SystemLabel}

theorem Lasting.mono {w : World} {P Q : String → Millis → Prop} (lasting : Lasting w P)
    (weaker : ∀ requestId n, P requestId n → Q requestId n) : Lasting w Q :=
  ⟨fun key cell stored n within => weaker _ n (lasting.redis key cell stored n within),
    fun process key object stored n within =>
      weaker _ n (lasting.memory process key object stored n within)⟩

theorem Thread.puts_of_putsUntil (env : Env) {w : World} {t : Thread} {requestId : String} {e : ℤ}
    (stores : t.putsUntil w = some (requestId, e)) : ∃ key, t.puts env w = some (key, requestId) := by
  cases t with
  | send c =>
    simp only [Thread.putsUntil] at stores
    split at stores <;> cases stores
    next d at_store => exact ⟨_, by simp only [Thread.puts, SendCall.puts, at_store]; rfl⟩
  | verify customer c =>
    simp only [Thread.putsUntil] at stores
    split at stores <;> cases stores
    next f ttl at_write => exact ⟨_, by simp only [Thread.puts, VerifyCall.puts, at_write]; rfl⟩
  | resend c =>
    simp only [Thread.putsUntil] at stores
    split at stores <;> cases stores
    next d at_store => exact ⟨_, by simp only [Thread.puts, ResendCall.puts, at_store]; rfl⟩
  | authenticating | status | dashboard | register | sendOtpJob | webhook => cases stores

theorem Thread.resume_accepting {w w' : World} {t t' : Thread} {a : Answer} {requestId : String}
    (resumed : t.resume env w a = some (w', t')) (lasting : Lasting w (Announced w))
    (before : ∀ requestId ∈ t.accepting env, Announced w requestId w.now)
    (accepting : requestId ∈ t'.accepting env) : Announced w requestId w.now := by
  cases t with
  | verify customer c =>
    obtain ⟨c', stepped, rfl⟩ := Thread.stepped_eq_some resumed
    rcases VerifyCall.accepting_step stepped accepting with old | ⟨f, found, rfl⟩
    · exact before requestId old
    · exact lasting.looked_up found
  | authenticating request c =>
    simp only [Thread.resume] at resumed
    obtain ⟨c', stepped, rfl⟩ := Thread.stepped_eq_some resumed
    split at accepting
    · unfold Thread.handler at accepting
      split at accepting <;> cases accepting
    · cases accepting
  | send | resend | status | dashboard | register | sendOtpJob | webhook =>
    obtain ⟨c', stepped, rfl⟩ := Thread.stepped_eq_some resumed
    cases accepting

theorem Timely.resume (timely : Timely env p) {i : ℕ} {a : Answer} {t t' : Thread} {w' : World}
    (found : p.threads[i]? = some t) (resumed : t.resume env p.shared a = some (w', t'))
    (keeps : KeepsDeadline env p (.resume i a)) (filed : Filed env ⟨w', p.threads.set i t'⟩) :
    Timely env ⟨w', p.threads.set i t'⟩ := by
  have member := List.mem_of_getElem? found
  obtain ⟨puts, redates⟩ := keeps t (by rw [found]; rfl)
  have announced {requestId : String} {n : Millis} : Announced p.shared requestId n →
      Announced w' requestId n := Thread.resume_announced resumed redates
  have now : w'.now = p.shared.now := (Thread.resume_guards resumed).now
  refine ⟨filed, ?_, fun u there requestId accepting => ?_⟩
  -- what is stored ends by the expiry of its request, and expiries are only put off
  · refine Lasting.mono ?_ fun _ _ => announced
    refine Thread.resume_lasting timely.entries timely.filed.objects resumed
      fun requestId e stores n within => ?_
    obtain ⟨key, put⟩ := Thread.puts_of_putsUntil env stores
    obtain ⟨r, there, names, -⟩ := (timely.filed.threads t member).puts put
    have ends : e ≤ r.expiresAt := puts _ stores r there names
    exact ⟨r, there, names, by exact_mod_cast within.trans ends⟩
  -- a code that is accepted from now on has been looked up alive
  · show Announced w' requestId w'.now
    rw [now]
    rcases List.mem_or_eq_of_mem_set there with old | rfl
    · exact announced (timely.accepting u old requestId accepting)
    · exact announced (Thread.resume_accepting resumed timely.entries
        (timely.accepting t member) accepting)

theorem Thread.born_accepting {w w' : World} {event : SystemEvent} {born : List Thread}
    (acted : Thread.external w event = some (w', born)) {t : Thread} (there : t ∈ born) :
    t.accepting env = none := by
  have fresh := (Thread.born_unstarted acted t there).2.2.2
  cases t with
  | verify customer c => exact absurd rfl (fresh customer c)
  | authenticating | send | resend | status | dashboard | register | sendOtpJob | webhook => rfl

theorem Timely.step (timely : Timely env p) (keeps : KeepsDeadline env p l)
    (taken : Pool.step (systemProgram env) p l = some q) : Timely env q := by
  have filed := timely.filed.step taken
  cases l with
  | resume i a =>
    obtain ⟨t, w', t', found, resumed, rfl⟩ := step_resume taken
    exact timely.resume found resumed keeps filed
  | external event =>
    obtain ⟨w', born, acted, rfl⟩ := step_external taken
    have same : External env p.shared w' born := Thread.external_cases acted
    have announced {requestId : String} {n : Millis} (before : Announced p.shared requestId n) :
        Announced w' requestId n := before.of_rows (by rw [same.db])
    refine ⟨filed, ?_, fun u there requestId accepting => ?_⟩
    · exact (timely.entries.of_stores same.redis same.memory).mono fun _ _ => announced
    · rcases List.mem_append.mp there with old | new
      · obtain ⟨r, member, names, within⟩ := timely.accepting u old requestId accepting
        rcases (Thread.external_clock acted).2 with still | ⟨d, rfl, later⟩
        · exact announced ⟨r, member, names, still ▸ within⟩
        · -- the condition on a tick: the request is not about to expire
          refine announced ⟨r, member, names, ?_⟩
          rw [later]
          exact keeps u old requestId accepting r member names
      · rw [Thread.born_accepting acted new] at accepting
        cases accepting

theorem Timely.verified (timely : Timely env p) : VerifiedInTime env p l := by
  cases l with
  | resume i a =>
    intro t found requestId verifies r there names
    have member := List.mem_of_getElem? (Option.mem_def.mp found)
    obtain ⟨s, member', names', within⟩ :=
      timely.accepting t member requestId (Thread.verifies_accepting verifies)
    rw [timely.filed.rows.unique r there s member' (Or.inr (names.trans names'.symm))]
    exact within
  | external event => trivial

theorem Timely.of_unused (unused : Unused p) : Timely env p := by
  refine ⟨unused.filed, ⟨fun key cell stored => ?_, fun process key object stored => ?_⟩,
    fun t there => ?_⟩
  · rw [unused.redis] at stored
    cases stored
  · rw [unused.memory] at stored
    cases stored
  · rw [unused.threads] at there
    cases there

/-- A run that keeps the deadlines verifies no code after the expiry of its request. -/
theorem verified_in_time {labels : List SystemLabel} (unused : Unused p)
    (keeps : Respects (step (systemProgram env)) (KeepsDeadline env) p labels) :
    Respects (step (systemProgram env)) (VerifiedInTime env) p labels :=
  .of_invariant (Timely env) (fun _ _ _ timely kept taken => timely.step kept taken)
    (fun _ _ timely _ => timely.verified) (.of_unused unused) keeps

section Sample

/-- A verification of the request of `sampleCustomSend`. -/
def sampleVerification (i : ℕ) (code : String) (n : ℕ) : List SystemLabel :=
  sampleRequest (.verify "+4915112345678" code) :: resolve i n

end Sample

/-- The right code is verified in the last instant. -/
theorem verified_in_last_instant :
    Respects (step (systemProgram OtpPool.sampleEnv)) (VerifiedInTime OtpPool.sampleEnv) sampleSystem
      (sampleCustomSend ++ .external (.tick 300000) :: sampleVerification 1 "424242" 10) :=
  verified_in_time ⟨rfl, rfl, rfl, fun _ => rfl, fun _ _ => rfl⟩ (by decide +kernel)

/-- A wrong code 0.4 s after the send rounds the rest of the life up: the right one is verified
0.2 s after the expiry. -/
theorem verified_after_expiry :
    ¬∀ (env : Env) (p : System) (labels : List SystemLabel), Unused p →
      Respects (step (systemProgram env)) RedisAnswers p labels →
      Respects (step (systemProgram env)) (VerifiedInTime env) p labels := by
  intro in_time
  have violated := in_time OtpPool.sampleEnv sampleSystem
    (sampleCustomSend ++ .external (.tick 400) :: sampleVerification 1 "111111" 11 ++
      .external (.tick 299800) :: sampleVerification 2 "424242" 10)
    ⟨rfl, rfl, rfl, fun _ => rfl, fun _ _ => rfl⟩ (by decide +kernel)
  revert violated
  decide +kernel

end Runs

end Expiry

end SelfOtp
