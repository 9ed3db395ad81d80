import SelfOtp.Model.System
import SelfOtp.Properties.Wallet

/-! What one step of an authentication, a send or a resend can do. -/
namespace SelfOtp

/-- Nothing changed but rate limits, cooldowns and blocks. -/
structure SameCore (w w' : World) : Prop where
  now : w'.now = w.now
  nextId : w'.nextId = w.nextId
  db : w'.db = w.db
  otpQueue : w'.otpQueue = w.otpQueue
  provider : w'.provider = w.provider
  otp : w'.redis.otp = w.redis.otp
  idempotency : w'.redis.idempotency = w.redis.idempotency
  memory : ∀ process, (w'.memory process).otp = (w.memory process).otp ∧
    (w'.memory process).heap = (w.memory process).heap ∧
    (w'.memory process).nextObject = (w.memory process).nextObject ∧
    (w'.memory process).idempotency = (w.memory process).idempotency

section SameCore

variable {w w' : World} {ok : Bool}

theorem SameCore.refl (w : World) : SameCore w w :=
  ⟨rfl, rfl, rfl, rfl, rfl, rfl, rfl, fun _ => ⟨rfl, rfl, rfl, rfl⟩⟩

theorem SameCore.trans {w'' : World} (first : SameCore w w') (second : SameCore w' w'') :
    SameCore w w'' := by
  refine ⟨second.now.trans first.now, second.nextId.trans first.nextId, second.db.trans first.db,
    second.otpQueue.trans first.otpQueue, second.provider.trans first.provider,
    second.otp.trans first.otp, second.idempotency.trans first.idempotency, fun process => ?_⟩
  obtain ⟨otp, heap, next, idempotency⟩ := first.memory process
  obtain ⟨otp', heap', next', idempotency'⟩ := second.memory process
  exact ⟨otp'.trans otp, heap'.trans heap, next'.trans next, idempotency'.trans idempotency⟩

private theorem sameCore_mapMemory (process : ℕ) (f : Memory → Memory)
    (otp : ∀ m, (f m).otp = m.otp) (heap : ∀ m, (f m).heap = m.heap)
    (next : ∀ m, (f m).nextObject = m.nextObject)
    (idempotency : ∀ m, (f m).idempotency = m.idempotency) : SameCore w (w.mapMemory process f) := by
  refine ⟨rfl, rfl, rfl, rfl, rfl, rfl, rfl, fun other => ?_⟩
  rw [World.mapMemory_memory]
  split
  next same =>
    subst same
    exact ⟨otp _, heap _, next _, idempotency _⟩
  · exact ⟨rfl, rfl, rfl, rfl⟩

private theorem fallback_sameCore (call : LimitCall) : SameCore w (call.fallback w).1 := by
  dsimp only [LimitCall.fallback]
  apply sameCore_mapMemory <;> exact fun _ => rfl

private theorem setSortedSet_sameCore (key : LimitKey) (set : Option SortedSet) :
    SameCore w (w.mapRedis fun r => r.setSortedSet key set) :=
  ⟨rfl, rfl, rfl, rfl, rfl, rfl, rfl, (SameCore.refl w).memory⟩

theorem LimitCall.step_sameCore (call : LimitCall) : SameCore w (call.step w ok).1 := by
  cases command : call.command with
  | zremrangebyscore | zadd =>
    simp only [LimitCall.step, command]
    split
    · exact setSortedSet_sameCore ..
    · exact .refl w
  | zcard =>
    simp only [LimitCall.step, command]
    exact .refl w
  | expire count =>
    simp only [LimitCall.step, command]
    split
    · cases count with
      | some _ => exact setSortedSet_sameCore ..
      | none => exact (setSortedSet_sameCore ..).trans (fallback_sameCore call)
    · exact fallback_sameCore call

theorem setPhoneCooldown_sameCore (env : Env) (process : ℕ) (phoneHash : String) :
    SameCore w (setPhoneCooldown env w process phoneHash ok) := by
  unfold setPhoneCooldown
  split
  · exact ⟨rfl, rfl, rfl, rfl, rfl, rfl, rfl, (SameCore.refl w).memory⟩
  · exact sameCore_mapMemory _ _ (fun _ => rfl) (fun _ => rfl) (fun _ => rfl) (fun _ => rfl)

theorem blockPhoneNumber_sameCore (process : ℕ) (phoneHash : String) (duration : ℚ) :
    SameCore w (blockPhoneNumber w process phoneHash duration ok) := by
  unfold blockPhoneNumber
  split
  · exact ⟨rfl, rfl, rfl, rfl, rfl, rfl, rfl, (SameCore.refl w).memory⟩
  · exact sameCore_mapMemory _ _ (fun _ => rfl) (fun _ => rfl) (fun _ => rfl) (fun _ => rfl)

end SameCore

theorem Thread.stepped_eq_some {τ : Type} {thread : τ → Thread} {next : Option (World × τ)}
    {w' : World} {t' : Thread} (h : Thread.stepped thread next = some (w', t')) :
    ∃ c', next = some (w', c') ∧ thread c' = t' := by
  obtain ⟨⟨v, c'⟩, taken, same⟩ := Option.map_eq_some_iff.mp h
  cases same
  exact ⟨c', taken, rfl⟩

/-! ### Authentication -/

namespace AuthCall

variable {env : Env} {w w' : World} {c c' : AuthCall} {ok : Bool}

/-- The key record that was found. -/
def session (c : AuthCall) : Option Session :=
  match c.pc with
  | .limit s _ | .authenticated s => some s
  | .findKey | .rejected _ | .internalError => none

theorem step_session (h : c.step env w ok = some (w', c')) :
    SameCore w w' ∧ c'.rawApiKey = c.rawApiKey ∧ ∀ s ∈ c'.session, c.session = some s ∨
      w.db.findApiKey (hashApiKey env (c.rawApiKey.getD "")) =
        some (s.apiKey, s.application, s.customer) := by
  cases pc : c.pc with
  | findKey =>
    simp only [step, pc] at h
    split at h
    · split at h
      · cases h
        exact ⟨.refl w, rfl, fun s present => (by cases present)⟩
      next apiKey application customer found =>
        split at h <;> cases h
        · exact ⟨.refl w, rfl, fun s present => (by cases present)⟩
        · refine ⟨.refl w, rfl, fun s present => Or.inr ?_⟩
          cases present
          exact found
    · cases h
      exact ⟨.refl w, rfl, fun s present => (by cases present)⟩
  | limit s call =>
    have same : SameCore w (call.step w ok).1 := call.step_sameCore
    have before : c.session = some s := by simp only [session, pc]
    simp only [step, pc] at h
    split at h
    · cases h
      exact ⟨same, rfl, fun _ present => Or.inl (before.trans present)⟩
    · split at h <;> cases h
      · exact ⟨same, rfl, fun _ present => (by cases present)⟩
      · exact ⟨same, rfl, fun _ present => Or.inl (before.trans present)⟩
  | authenticated => simp [step, pc] at h
  | rejected => simp [step, pc] at h
  | internalError => simp [step, pc] at h

end AuthCall

/-! ### Sends -/

namespace SendPc

/-- Before the look-up of the idempotency key. -/
def unlooked : SendPc → Bool
  | customerBlocked | phoneBlocked => true
  | _ => false

/-- One of the checks between the look-up and the creation of the row. -/
def checking : SendPc → Bool
  | limit .. | cooldown => true
  | _ => false

def dispatch : SendPc → Option Dispatch
  | debit d | store d | setCooldown d | enqueue d | fallback d | fallbackSent d | fallbackFailed d _
  | fallbackRefund d _ | saveCache d _ | saveRecord d _ => some d
  | _ => none

/-- The key that is looked up or saved. -/
def idempotencyKey : SendPc → Option String
  | idempotencyCache key | idempotencyRecord key | saveCache _ key | saveRecord _ key => some key
  | _ => none

/-- The awaited call is a database or a provider call, whose failure ends the request. -/
def critical : SendPc → Bool
  | create .. | debit _ | fallback _ | fallbackSent _ | fallbackFailed .. | fallbackRefund .. => true
  | _ => false

theorem checking_dispatch {pc : SendPc} (h : pc.checking = true) : pc.dispatch = none := by
  cases pc <;> first | rfl | cases h

end SendPc

namespace SendCall

variable {env : Env} {w w' : World} {c c' : SendCall} {a : Answer}

/-- The moves of a send: position before, world and position after. -/
inductive Move (env : Env) (w : World) (c : SendCall) (a : Answer) : SendPc → World → SendPc → Prop
  | early {pc} (before : pc.unlooked = true) {pc'} (after : pc' = .phoneBlocked ∨
      (∃ key, c.key = some key ∧ pc' = .idempotencyCache key) ∨
      (c.key = none ∧ pc' = .limit .ip (c.limitCall env w .ip))) : Move env w c a pc w pc'
  | refuse {pc} (before : pc.unlooked = true ∨ pc.checking = true) {w'} (same : SameCore w w')
      (error : AppError) : Move env w c a pc w' (.rejected error)
  | hit (key : String) (cached : SendResponse)
      (found : cachedResponse w c.process c.applicationId key a.ok = some cached) :
      Move env w c a (.idempotencyCache key) w (.replied 200 cached)
  | miss (key : String) (missed : cachedResponse w c.process c.applicationId key a.ok = none) :
      Move env w c a (.idempotencyCache key) w (.idempotencyRecord key)
  | known (key : String) (cached : SendResponse)
      (found : recordedResponse w c.applicationId key "/v1/otp/send" a.ok = some cached) :
      Move env w c a (.idempotencyRecord key) w (.replied 200 cached)
  | unknown (key : String)
      (missed : recordedResponse w c.applicationId key "/v1/otp/send" a.ok = none) :
      Move env w c a (.idempotencyRecord key) w (.limit .ip (c.limitCall env w .ip))
  | check {pc} (before : pc.checking = true) {w'} (same : SameCore w w') {pc'}
      (after : pc'.checking = true) : Move env w c a pc w' pc'
  | prepare (otpCode : String) (expiresAt : Millis) :
      Move env w c a .cooldown w (.create otpCode (generateRequestId c.bytes) expiresAt)
  | create (otpCode requestId : String) (expiresAt : Millis) (db : Database)
      (created : w.db.createOtpRequest (c.row env w.nextId otpCode requestId expiresAt) = some db) :
      Move env w c a (.create otpCode requestId expiresAt) { w with db := db, nextId := w.nextId + 1 }
        (.debit ⟨w.nextId, requestId, otpCode, expiresAt⟩)
  | debit (d : Dispatch) (balance : ℚ) (wallet : Wallet)
      (paid : WalletService.deductCreditsAtomic resolves (w.db.wallets c.customer.id) env.otpCreditCost
        "otp_request" (uuidText d.record) = .ok (balance, wallet)) :
      Move env w c a (.debit d) (w.mapDb (·.setWallet c.customer.id wallet)) (.store d)
  | unpaid (d : Dispatch) (error : AppError) : Move env w c a (.debit d) w (.rejected error)
  | store (d : Dispatch) : Move env w c a (.store d)
      (storeOtp w c.process (c.applicationId, c.phoneHash env) (storedOtp env d.otpCode d.requestId)
        c.body.ttlSeconds a.ok) (.setCooldown d)
  | setCooldown (d : Dispatch) {w'} (same : SameCore w w') :
      Move env w c a (.setCooldown d) w' (.enqueue d)
  | enqueue (d : Dispatch) :
      Move env w c a (.enqueue d) (addSendOtpJob w (c.job env d)) (c.finish env d)
  | offline (d : Dispatch) (down : a.ok = false) : Move env w c a (.enqueue d) w (.fallback d)
  | deliver (d : Dispatch) {pc'} (after : pc' = if a.delivery.success then .fallbackSent d else
        .fallbackFailed d (a.delivery.reason "Delivery failed")) :
      Move env w c a (.fallback d) (sendOtp w c.body.phoneNumber d.otpCode c.body.templateName
        c.body.languageCode a.delivery) pc'
  | markSent (d : Dispatch) :
      Move env w c a (.fallbackSent d) (w.mapDb (·.setStatus d.record .sent)) (c.finish env d)
  | markFailed (d : Dispatch) (reason : String) :
      Move env w c a (.fallbackFailed d reason) (w.mapDb (·.setStatus d.record .failed))
        (.fallbackRefund d reason)
  | refund (d : Dispatch) (reason : String) (balance : ℚ) (wallet : Wallet)
      (paid : WalletService.refundCredits resolves (w.db.wallets c.customer.id) env.otpCreditCost
        "otp_request_failure" d.requestId reason = .ok (balance, wallet)) :
      Move env w c a (.fallbackRefund d reason) (w.mapDb (·.setWallet c.customer.id wallet))
        (c.finish env d)
  | saveCache (d : Dispatch) (key : String) : Move env w c a (.saveCache d key)
      (cacheResponse w c.process c.applicationId key (c.response env d) a.ok) (.saveRecord d key)
  | saveRecord (d : Dispatch) (key : String) : Move env w c a (.saveRecord d key)
      (recordResponse w ⟨c.customer.id, c.applicationId, key, "/v1/otp/send", 202,
        c.response env d⟩ a.ok) (.replied 202 (c.response env d))
  | crash {pc} (before : pc.critical = true)
      (cause : a.ok = false ∨ ∃ otpCode requestId expiresAt, pc = .create otpCode requestId expiresAt) :
      Move env w c a pc w .internalError

theorem refundCredits_isOk (row : Option Wallet) (cost : ℚ) (type id reason : String) :
    ∃ balance wallet,
      WalletService.refundCredits resolves row cost type id reason = .ok (balance, wallet) := by
  unfold WalletService.refundCredits
  dsimp only
  split <;> exact ⟨_, _, rfl⟩

/-- Every step is one of the moves and changes nothing else of the call. -/
theorem step_move (h : c.step env w a = some (w', c')) :
    Move env w c a c.pc w' c'.pc ∧ c' = c.goto c'.pc := by
  cases pc : c.pc with
  | customerBlocked =>
    simp only [step, pc] at h
    split at h <;> cases h
    · exact ⟨.refuse (.inl rfl) (.refl w) _, rfl⟩
    · exact ⟨.early rfl (.inl rfl), rfl⟩
  | phoneBlocked =>
    simp only [step, pc] at h
    split at h
    · cases h
      exact ⟨.refuse (.inl rfl) (.refl w) _, rfl⟩
    · split at h <;> cases h
      next key has_key => exact ⟨.early rfl (.inr (.inl ⟨key, has_key, rfl⟩)), rfl⟩
      next no_key => exact ⟨.early rfl (.inr (.inr ⟨no_key, rfl⟩)), rfl⟩
  | idempotencyCache key =>
    simp only [step, pc] at h
    split at h <;> cases h
    next cached found => exact ⟨.hit key cached found, rfl⟩
    next missed => exact ⟨.miss key missed, rfl⟩
  | idempotencyRecord key =>
    simp only [step, pc] at h
    split at h <;> cases h
    next cached found => exact ⟨.known key cached found, rfl⟩
    next missed => exact ⟨.unknown key missed, rfl⟩
  | limit limit call =>
    have same : SameCore w (call.step w a.ok).1 := call.step_sameCore
    simp only [step, pc] at h
    split at h
    · cases h
      exact ⟨.check rfl same rfl, rfl⟩
    · split at h <;> cases h
      · exact ⟨.refuse (.inr rfl) same _, rfl⟩
      · refine ⟨.check rfl same ?_, rfl⟩
        cases limit <;> rfl
  | cooldown =>
    simp only [step, pc] at h
    split at h <;> cases h
    · exact ⟨.refuse (.inr rfl) (.refl w) _, rfl⟩
    · exact ⟨.prepare _ _, rfl⟩
  | create otpCode requestId expiresAt =>
    simp only [step, pc] at h
    split at h <;> cases h
    next db created =>
      refine ⟨.create otpCode requestId expiresAt db ?_, rfl⟩
      split at created
      · exact created
      · cases created
    · exact ⟨.crash rfl (.inr ⟨_, _, _, rfl⟩), rfl⟩
  | debit d =>
    simp only [step, pc] at h
    split at h
    · split at h <;> cases h
      next wallet paid => exact ⟨.debit d _ wallet paid, rfl⟩
      · exact ⟨.unpaid d _, rfl⟩
      next refused => exact absurd refused WalletService.deductCreditsAtomic_ne_database
    next down =>
      cases h
      exact ⟨.crash rfl (.inl (by simpa using down)), rfl⟩
  | store d =>
    simp only [step, pc] at h
    cases h
    exact ⟨.store d, rfl⟩
  | setCooldown d =>
    simp only [step, pc] at h
    cases h
    exact ⟨.setCooldown d (setPhoneCooldown_sameCore ..), rfl⟩
  | enqueue d =>
    simp only [step, pc] at h
    split at h <;> cases h
    · exact ⟨.enqueue d, rfl⟩
    next down => exact ⟨.offline d (by simpa using down), rfl⟩
  | fallback d =>
    simp only [step, pc] at h
    split at h
    · split at h <;> cases h
      next accepted => exact ⟨.deliver d (by rw [if_pos accepted]; rfl), rfl⟩
      next refused => exact ⟨.deliver d (by rw [if_neg refused]; rfl), rfl⟩
    next down =>
      cases h
      exact ⟨.crash rfl (.inl (by simpa using down)), rfl⟩
  | fallbackSent d =>
    simp only [step, pc] at h
    split at h <;> cases h
    · exact ⟨.markSent d, rfl⟩
    next down => exact ⟨.crash rfl (.inl (by simpa using down)), rfl⟩
  | fallbackFailed d reason =>
    simp only [step, pc] at h
    split at h <;> cases h
    · exact ⟨.markFailed d reason, rfl⟩
    next down => exact ⟨.crash rfl (.inl (by simpa using down)), rfl⟩
  | fallbackRefund d reason =>
    obtain ⟨balance, wallet, paid⟩ := refundCredits_isOk (w.db.wallets c.customer.id)
      env.otpCreditCost "otp_request_failure" d.requestId reason
    simp only [step, pc, paid] at h
    split at h <;> cases h
    · exact ⟨.refund d reason balance wallet paid, rfl⟩
    next down => exact ⟨.crash rfl (.inl (by simpa using down)), rfl⟩
  | saveCache d key =>
    simp only [step, pc] at h
    cases h
    exact ⟨.saveCache d key, rfl⟩
  | saveRecord d key =>
    simp only [step, pc] at h
    cases h
    exact ⟨.saveRecord d key, rfl⟩
  | replied => simp [step, pc] at h
  | rejected => simp [step, pc] at h
  | internalError => simp [step, pc] at h

end SendCall

/-! ### Resends -/

namespace ResendPc

/-- The row of the resend, once its status has been checked. -/
def record : ResendPc → Option OtpRequest
  | cooldown record _ => some record
  | debit d | update d | store d | setCooldown d | enqueue d | fallback d | fallbackSent d
  | replied d => some d.record
  | findRecord | expire _ | rejected _ | internalError => none

/-- Up to the debit. -/
def unpaid : ResendPc → Bool
  | findRecord | cooldown .. | debit _ => true
  | _ => false

/-- The awaited call is a database or a provider call, whose failure ends the request. -/
def critical : ResendPc → Bool
  | findRecord | expire _ | debit _ | update _ | fallback _ | fallbackSent _ => true
  | _ => false

end ResendPc

namespace ResendCall

variable {env : Env} {w w' : World} {c c' : ResendCall} {a : Answer}

/-- The moves of a resend: position before, world and position after. -/
inductive Move (env : Env) (w : World) (c : ResendCall) (a : Answer) :
    ResendPc → World → ResendPc → Prop
  | reject {pc} (before : pc.unpaid = true) (error : AppError) : Move env w c a pc w (.rejected error)
  | lapse (record : OtpRequest)
      (found : w.db.findOtpRequest c.requestId c.applicationId = some record)
      (unverified : record.status ≠ .verified) :
      Move env w c a .findRecord w (.expire record.id)
  | found (record : OtpRequest)
      (found : w.db.findOtpRequest c.requestId c.applicationId = some record)
      (unverified : record.status ≠ .verified) :
      Move env w c a .findRecord w (.cooldown record w.now)
  | expire (record : Id) : Move env w c a (.expire record) (w.mapDb (·.setStatus record .expired))
      (.rejected requestExpired)
  | prepare (record : OtpRequest) (now : Millis) (newOtpCode : String) :
      Move env w c a (.cooldown record now) w (.debit ⟨record, newOtpCode, now⟩)
  | debit (d : Redispatch) (balance : ℚ) (wallet : Wallet)
      (paid : WalletService.deductCreditsAtomic resolves (w.db.wallets c.customer.id) env.otpCreditCost
        "otp_resend" d.record.requestId = .ok (balance, wallet)) :
      Move env w c a (.debit d) (w.mapDb (·.setWallet c.customer.id wallet)) (.update d)
  | update (d : Redispatch) : Move env w c a (.update d)
      (w.mapDb (·.updateOtpRequest d.record.id fun r =>
        { r with otpHash := hashOtpCode env d.newOtpCode, expiresAt := d.newExpiresAt })) (.store d)
  | store (d : Redispatch) : Move env w c a (.store d)
      (storeOtp w c.process (c.applicationId, phoneHash env d.record)
        (storedOtp env d.newOtpCode d.record.requestId) d.ttlSeconds a.ok) (.setCooldown d)
  | setCooldown (d : Redispatch) {w'} (same : SameCore w w') :
      Move env w c a (.setCooldown d) w' (.enqueue d)
  | enqueue (d : Redispatch) :
      Move env w c a (.enqueue d) (addSendOtpJob w (c.job env d)) (.replied d)
  | offline (d : Redispatch) (down : a.ok = false) : Move env w c a (.enqueue d) w (.fallback d)
  | deliver (d : Redispatch) {pc'}
      (after : pc' = if a.delivery.success then .fallbackSent d else .replied d) :
      Move env w c a (.fallback d) (sendOtp w d.record.phoneNumber d.newOtpCode "otp_auth_v1" "en_US"
        a.delivery) pc'
  | markSent (d : Redispatch) :
      Move env w c a (.fallbackSent d) (w.mapDb (·.setStatus d.record.id .sent)) (.replied d)
  | crash {pc} (before : pc.critical = true) (down : a.ok = false) : Move env w c a pc w .internalError

/-- Every step is one of the moves and changes nothing else of the call. -/
theorem step_move (h : c.step env w a = some (w', c')) :
    Move env w c a c.pc w' c'.pc ∧ c' = c.goto c'.pc := by
  cases pc : c.pc with
  | findRecord =>
    simp only [step, pc] at h
    split at h
    · split at h
      · cases h
        exact ⟨.reject rfl _, rfl⟩
      next record found =>
        split at h
        · cases h
          exact ⟨.reject rfl _, rfl⟩
        next unverified =>
          split at h <;> cases h
          · exact ⟨.lapse record found unverified, rfl⟩
          · exact ⟨.found record found unverified, rfl⟩
    next down =>
      cases h
      exact ⟨.crash rfl (by simpa using down), rfl⟩
  | expire record =>
    simp only [step, pc] at h
    split at h <;> cases h
    · exact ⟨.expire record, rfl⟩
    next down => exact ⟨.crash rfl (by simpa using down), rfl⟩
  | cooldown record now =>
    simp only [step, pc] at h
    split at h <;> cases h
    · exact ⟨.reject rfl _, rfl⟩
    · exact ⟨.prepare record now _, rfl⟩
  | debit d =>
    simp only [step, pc] at h
    split at h
    · split at h <;> cases h
      next wallet paid => exact ⟨.debit d _ wallet paid, rfl⟩
      · exact ⟨.reject rfl _, rfl⟩
      next refused => exact absurd refused WalletService.deductCreditsAtomic_ne_database
    next down =>
      cases h
      exact ⟨.crash rfl (by simpa using down), rfl⟩
  | update d =>
    simp only [step, pc] at h
    split at h <;> cases h
    · exact ⟨.update d, rfl⟩
    next down => exact ⟨.crash rfl (by simpa using down), rfl⟩
  | store d =>
    simp only [step, pc] at h
    cases h
    exact ⟨.store d, rfl⟩
  | setCooldown d =>
    simp only [step, pc] at h
    cases h
    exact ⟨.setCooldown d (setPhoneCooldown_sameCore ..), rfl⟩
  | enqueue d =>
    simp only [step, pc] at h
    split at h <;> cases h
    · exact ⟨.enqueue d, rfl⟩
    next down => exact ⟨.offline d (by simpa using down), rfl⟩
  | fallback d =>
    simp only [step, pc] at h
    split at h
    · split at h <;> cases h
      next accepted => exact ⟨.deliver d (by rw [if_pos accepted]; rfl), rfl⟩
      next refused => exact ⟨.deliver d (by rw [if_neg refused]; rfl), rfl⟩
    next down =>
      cases h
      exact ⟨.crash rfl (by simpa using down), rfl⟩
  | fallbackSent d =>
    simp only [step, pc] at h
    split at h <;> cases h
    · exact ⟨.markSent d, rfl⟩
    next down => exact ⟨.crash rfl (by simpa using down), rfl⟩
  | replied => simp [step, pc] at h
  | rejected => simp [step, pc] at h
  | internalError => simp [step, pc] at h

end ResendCall

end SelfOtp
