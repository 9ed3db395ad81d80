import SelfOtp.Properties.Filing

/-! Which customer the rows, the saved responses and the running requests belong to. -/
namespace SelfOtp

open Pool

/-! ### What one step of a call can do to the tables -/

/-- Applications and API keys are untouched, only the wallet of `charged` may change, a
verification is only entered for the row `judged`, and an idempotency record only for `saved`:
an application and a request id. -/
structure TablesStep (w w' : World) (charged judged : Option Id) (saved : Option (Id × String)) :
    Prop where
  applications : w'.db.applications = w.db.applications
  apiKeys : w'.db.apiKeys = w.db.apiKeys
  wallets : ∀ other, charged ≠ some other → w'.db.wallets other = w.db.wallets other
  otpVerifications : w'.db.otpVerifications = w.db.otpVerifications ∨
    ∃ row, w'.db.otpVerifications = w.db.otpVerifications ++ [row] ∧
      judged = some row.otpRequestId
  idempotencyKeys : w'.db.idempotencyKeys = w.db.idempotencyKeys ∨
    ∃ row, w'.db.idempotencyKeys = w.db.idempotencyKeys ++ [row] ∧
      saved = some (row.applicationId, row.responseBody.requestId)

/-- The row for which the next step of a call may enter a verification. -/
def VerifyPc.judged : VerifyPc → Option Id
  | incorrectVerification _ record | correctVerification _ record _ => some record
  | _ => none

/-- The application and the request id of the response that a send saves. -/
def SendCall.saves (c : SendCall) : Option (Id × String) :=
  match c.pc with
  | .saveCache d _ | .saveRecord d _ => some (c.applicationId, d.requestId)
  | _ => none

section Tables

variable {env : Env} {w w' : World} {a : Answer} {ok : Bool} {charged judged : Option Id}
  {saved : Option (Id × String)}

theorem TablesStep.of_db (same : w'.db = w.db) : TablesStep w w' charged judged saved :=
  ⟨by rw [same], by rw [same], fun _ _ => by rw [same], Or.inl (by rw [same]),
    Or.inl (by rw [same])⟩

theorem TablesStep.keeps_idempotencyKeys (tables : TablesStep w w' charged judged none) :
    w'.db.idempotencyKeys = w.db.idempotencyKeys := by
  rcases tables.idempotencyKeys with same | ⟨row, -, new⟩
  · exact same
  · cases new

theorem TablesStep.setWallet (customerId : Id) (wallet : Wallet) :
    TablesStep w (w.mapDb (·.setWallet customerId wallet)) (some customerId) judged saved := by
  refine ⟨rfl, rfl, fun other apart => ?_, Or.inl rfl, Or.inl rfl⟩
  have ne : other ≠ customerId := fun same => apart (congrArg some same.symm)
  simp [Database.setWallet, ne]

theorem TablesStep.updateOtpRequest (id : Id) (f : OtpRequest → OtpRequest) :
    TablesStep w (w.mapDb (·.updateOtpRequest id f)) charged judged saved :=
  ⟨rfl, rfl, fun _ _ => rfl, Or.inl rfl, Or.inl rfl⟩

theorem TablesStep.of_storeOtp {process : ℕ} {key : OtpKey} {data : StoredOtp} {ttlSeconds : ℚ} :
    TablesStep w (storeOtp w process key data ttlSeconds ok) charged judged saved := by
  unfold storeOtp
  split <;> exact .of_db rfl

theorem SendCall.step_tables {c c' : SendCall} (h : c.step env w a = some (w', c')) :
    TablesStep w w' (some c.customer.id) none c.saves := by
  have move := (step_move h).1
  unfold saves
  generalize c.pc = pc at move
  generalize c'.pc = pc' at move
  cases move with
  | refuse before same | check before same | setCooldown d same => exact .of_db same.db
  | create otpCode requestId expiresAt db created =>
    unfold Database.createOtpRequest at created
    split at created <;> cases created
    exact ⟨rfl, rfl, fun _ _ => rfl, Or.inl rfl, Or.inl rfl⟩
  | debit d balance wallet paid | refund d reason balance wallet paid => exact .setWallet _ wallet
  | store d => exact .of_storeOtp
  | markSent d => exact .updateOtpRequest ..
  | markFailed d reason => exact .updateOtpRequest ..
  | saveCache d key =>
    unfold cacheResponse
    dsimp only
    split <;> exact .of_db rfl
  | saveRecord d key =>
    unfold recordResponse
    split
    · exact ⟨rfl, rfl, fun _ _ => rfl, Or.inl rfl, Or.inr ⟨_, rfl, rfl⟩⟩
    · exact .of_db rfl
  | _ => exact .of_db rfl

theorem ResendCall.step_tables {c c' : ResendCall} (h : c.step env w a = some (w', c')) :
    TablesStep w w' (some c.customer.id) none none := by
  have move := (step_move h).1
  generalize c.pc = pc at move
  generalize c'.pc = pc' at move
  cases move with
  | setCooldown d same => exact .of_db same.db
  | debit d balance wallet paid => exact .setWallet _ wallet
  | store d => exact .of_storeOtp
  | expire | update | markSent => exact .updateOtpRequest ..
  | _ => exact .of_db rfl

theorem VerifyCall.step_tables {c c' : VerifyCall} (h : c.step env w ok = some (w', c')) :
    TablesStep w w' none c.pc.judged none := by
  cases pc : c.pc with
  | lookup =>
    simp only [step, pc] at h
    split at h <;> cases h <;> exact .of_db rfl
  | findRecord f =>
    simp only [step, pc] at h
    split at h
    · split at h <;> cases h
      · exact .of_db rfl
      · unfold mutate
        split <;> exact .of_db rfl
    · cases h
      exact .of_db rfl
  | incorrectVerification f record | correctVerification f record verifiedTime =>
    simp only [step, pc] at h
    split at h <;> cases h
    · exact ⟨rfl, rfl, fun _ _ => rfl, Or.inr ⟨_, rfl, rfl⟩, Or.inl rfl⟩
    · exact .of_db rfl
  | maxBlock f =>
    simp only [step, pc] at h
    cases h
    exact .of_db (blockPhoneNumber_sameCore ..).db
  | maxDelete f =>
    simp only [step, pc] at h
    cases h
    cases ok <;> exact .of_db rfl
  | delete f record =>
    simp only [step, pc] at h
    cases record <;> cases h <;> cases ok <;> exact .of_db rfl
  | incorrectAttempts | maxStatus | verifiedStatus =>
    simp only [step, pc] at h
    split at h <;> cases h
    · exact .updateOtpRequest ..
    · exact .of_db rfl
  | ttl | writeBack =>
    simp only [step, pc] at h
    split at h <;> cases h <;> exact .of_db rfl
  | verified | rejected | internalError => simp [step, pc] at h

theorem StatusCall.step_tables {c c' : StatusCall} (h : c.step w ok = some (w', c')) :
    TablesStep w w' none none none := by
  cases pc : c.pc with
  | findRecord =>
    simp only [step, pc] at h
    split at h
    · split at h
      · cases h
        exact .of_db rfl
      · split at h <;> cases h <;> exact .of_db rfl
    · cases h
      exact .of_db rfl
  | expire record =>
    simp only [step, pc] at h
    split at h <;> cases h
    · exact .updateOtpRequest ..
    · exact .of_db rfl
  | answered | rejected | internalError => simp [step, pc] at h

theorem JobCall.step_tables {c c' : JobCall} (h : c.step w a = some (w', c')) :
    TablesStep w w' (some c.job.data.customerId) none none := by
  have granted {reason : String} {v : World} (paid : refunded w c reason = .ok v) :
      TablesStep w v (some c.job.data.customerId) none none := by
    unfold refunded at paid
    split at paid <;> cases paid
    exact .setWallet ..
  cases pc : c.pc with
  | createEvent res message =>
    simp only [step, pc] at h
    split at h
    · split at h
      · cases h
        exact ⟨rfl, rfl, fun _ _ => rfl, Or.inl rfl, Or.inl rfl⟩
      · split at h <;> cases h <;> exact ⟨rfl, rfl, fun _ _ => rfl, Or.inl rfl, Or.inl rfl⟩
    · cases h
      exact .of_db rfl
  | refund res =>
    simp only [step, pc] at h
    split at h
    · split at h <;> cases h
      next paid => exact granted paid
      · exact .of_db rfl
    · cases h
      exact .of_db rfl
  | exhaustedRefund error =>
    simp only [step, pc] at h
    cases h
    split
    · split
      next paid => exact granted paid
      · exact .of_db rfl
    · exact .of_db rfl
  | exhaustedMark error =>
    simp only [step, pc] at h
    cases h
    split
    · exact .updateOtpRequest ..
    · exact .of_db rfl
  | exhaustedDeadLetter error =>
    simp only [step, pc] at h
    cases h
    split <;> exact .of_db rfl
  | createMessage res =>
    simp only [step, pc] at h
    split at h <;> cases h
    · exact ⟨rfl, rfl, fun _ _ => rfl, Or.inl rfl, Or.inl rfl⟩
    · exact .of_db rfl
  | markSent | markFailed =>
    simp only [step, pc] at h
    split at h <;> cases h
    · exact .updateOtpRequest ..
    · exact .of_db rfl
  | send | deadLetter =>
    simp only [step, pc] at h
    split at h <;> cases h <;> exact .of_db rfl
  | completed | failed => simp [step, pc] at h

theorem WebhookCall.step_tables {c c' : WebhookCall} (h : c.step w ok = some (w', c')) :
    TablesStep w w' none none none := by
  cases pc : c.pc with
  | findMessage | findEvent =>
    simp only [step, pc] at h
    split at h
    · split at h <;> cases h <;> exact .of_db rfl
    · cases h
      exact .of_db rfl
  | findOtpRequest record =>
    simp only [step, pc] at h
    split at h
    · split at h
      · split at h
        · cases h
          exact .of_db rfl
        · split at h <;> cases h <;> exact .of_db rfl
      · cases h
        exact .of_db rfl
    · cases h
      exact .of_db rfl
  | updateOtpRequest =>
    simp only [step, pc] at h
    split at h <;> cases h
    · exact .updateOtpRequest ..
    · exact .of_db rfl
  | updateMessage | createEvent =>
    simp only [step, pc] at h
    split at h <;> cases h <;> exact ⟨rfl, rfl, fun _ _ => rfl, Or.inl rfl, Or.inl rfl⟩
  | markProcessed =>
    simp only [step, pc] at h
    cases h
    split
    · exact ⟨rfl, rfl, fun _ _ => rfl, Or.inl rfl, Or.inl rfl⟩
    · exact .of_db rfl
  | finished | threw => simp [step, pc] at h

end Tables

/-! ### Saved responses -/

/-- A saved response of the application names the request. -/
def Saved (w : World) (applicationId : Id) (requestId : String) : Prop :=
  (∃ key cell, w.redis.idempotency (applicationId, key) = some cell ∧
    cell.value.requestId = requestId) ∨
  (∃ process key response, (w.memory process).idempotency (applicationId, key) = some response ∧
    response.requestId = requestId) ∨
  ∃ row ∈ w.db.idempotencyKeys, row.applicationId = applicationId ∧
    row.responseBody.requestId = requestId

/-- The cached responses are untouched. -/
def SameCaches (w w' : World) : Prop :=
  w'.redis.idempotency = w.redis.idempotency ∧
    ∀ process, (w'.memory process).idempotency = (w.memory process).idempotency

section Saved

variable {env : Env} {w w' : World} {a : Answer} {ok : Bool} {applicationId : Id} {requestId : String}
  {charged judged : Option Id} {saved : Option (Id × String)}

theorem Saved.of_cachedResponse {process : ℕ} {key : String} {response : SendResponse}
    (cached : cachedResponse w process applicationId key ok = some response) :
    Saved w applicationId response.requestId := by
  unfold cachedResponse at cached
  split at cached
  next stored =>
    cases cached
    split at stored
    · obtain ⟨cell, there, -, rfl⟩ := ExpiringMap.get_eq_some.mp stored
      exact Or.inl ⟨key, cell, there, rfl⟩
    · cases stored
  · exact Or.inr (Or.inl ⟨process, key, response, cached, rfl⟩)

theorem Saved.of_recordedResponse {key endpoint : String} {response : SendResponse}
    (recorded : recordedResponse w applicationId key endpoint ok = some response) :
    Saved w applicationId response.requestId := by
  unfold recordedResponse at recorded
  split at recorded
  · obtain ⟨row, found, rfl⟩ := Option.map_eq_some_iff.mp recorded
    have selected := List.find?_some found
    simp only [Bool.and_eq_true, beq_iff_eq] at selected
    exact Or.inr (Or.inr ⟨row, List.mem_of_find?_eq_some found, selected.1.1, rfl⟩)
  · cases recorded

theorem Saved.of_same (tables : TablesStep w w' charged judged saved) (caches : SameCaches w w')
    (now : Saved w' applicationId requestId) :
    Saved w applicationId requestId ∨ saved = some (applicationId, requestId) := by
  rcases now with ⟨key, cell, there, names⟩ | ⟨process, key, response, there, names⟩ |
    ⟨row, member, of_app, names⟩
  · exact Or.inl (Or.inl ⟨key, cell, caches.1 ▸ there, names⟩)
  · exact Or.inl (Or.inr (Or.inl ⟨process, key, response, caches.2 process ▸ there, names⟩))
  · rcases tables.idempotencyKeys with same | ⟨new, grown, new_saved⟩
    · exact Or.inl (Or.inr (Or.inr ⟨row, same ▸ member, of_app, names⟩))
    · rw [grown] at member
      rcases List.mem_append.mp member with old | last
      · exact Or.inl (Or.inr (Or.inr ⟨row, old, of_app, names⟩))
      · cases List.mem_singleton.mp last
        exact Or.inr (by rw [new_saved, of_app, names])

theorem sameCaches_storeOtp {process : ℕ} {key : OtpKey} {data : StoredOtp} {ttlSeconds : ℚ} :
    SameCaches w (storeOtp w process key data ttlSeconds ok) := by
  unfold storeOtp
  split
  · exact ⟨rfl, fun _ => rfl⟩
  · refine ⟨rfl, fun other => ?_⟩
    rw [World.mapMemory_memory]
    split
    next same => rw [same]; rfl
    · rfl

theorem SameCaches.of_core (same : SameCore w w') : SameCaches w w' :=
  ⟨same.idempotency, fun process => (same.memory process).2.2.2⟩

theorem SameCaches.of_stores (redis : w'.redis = w.redis) (memory : w'.memory = w.memory) :
    SameCaches w w' :=
  ⟨by rw [redis], fun _ => by rw [memory]⟩

private theorem saved_of_remembered {process : ℕ} {owner : Id} {key : String}
    {response : SendResponse}
    (now : Saved (w.mapMemory process fun m => { m with
      idempotency := Function.update m.idempotency (owner, key) (some response) })
      applicationId requestId) :
    Saved w applicationId requestId ∨ (owner = applicationId ∧ response.requestId = requestId) := by
  rcases now with redis | ⟨runs, other, found, there, names⟩ | row
  · exact Or.inl (Or.inl redis)
  · have old (stored : (w.memory runs).idempotency (applicationId, other) = some found) :
        Saved w applicationId requestId := Or.inr (Or.inl ⟨runs, other, found, stored, names⟩)
    simp only [World.mapMemory_memory] at there
    split at there
    next here =>
      simp only [Function.update_apply] at there
      split at there
      next same =>
        cases there
        exact Or.inr ⟨(congrArg Prod.fst same).symm, names⟩
      · exact Or.inl (old (here ▸ there))
    · exact Or.inl (old there)
  · exact Or.inl (Or.inr (Or.inr row))

/-- What a cached response adds is the response. -/
theorem Saved.of_cacheResponse {process : ℕ} {owner : Id} {key : String} {response : SendResponse}
    (now : Saved (cacheResponse w process owner key response ok) applicationId requestId) :
    Saved w applicationId requestId ∨
      (owner = applicationId ∧ response.requestId = requestId) := by
  rcases saved_of_remembered now with before | new
  · split at before
    next idempotency set =>
      rcases before with ⟨other, cell, there, names⟩ | rest
      · split at set
        · obtain ⟨-, -, rfl⟩ := ExpiringMap.setEx_eq_some set
          simp only [World.mapRedis_redis, ExpiringMap.put, Function.update_apply] at there
          split at there
          next same =>
            cases there
            exact Or.inr ⟨(congrArg Prod.fst same).symm, names⟩
          · exact Or.inl (Or.inl ⟨other, cell, there, names⟩)
        · cases set
      · exact Or.inl (Or.inr rest)
    · exact Or.inl before
  · exact Or.inr new

theorem SendCall.step_saved {c c' : SendCall} (h : c.step env w a = some (w', c'))
    (now : Saved w' applicationId requestId) :
    Saved w applicationId requestId ∨ c.saves = some (applicationId, requestId) := by
  have tables := step_tables h
  have move := (step_move h).1
  unfold saves at tables ⊢
  generalize c.pc = pc at move tables
  generalize c'.pc = pc' at move
  cases move with
  | refuse before same | check before same | setCooldown d same =>
    exact now.of_same tables (.of_core same)
  | store d => exact now.of_same tables sameCaches_storeOtp
  | saveRecord d key =>
    refine now.of_same tables ?_
    unfold recordResponse
    split <;> exact ⟨rfl, fun _ => rfl⟩
  | saveCache d key =>
    rcases now.of_cacheResponse with old | ⟨rfl, rfl⟩
    · exact Or.inl old
    · exact Or.inr rfl
  | _ => exact now.of_same tables ⟨rfl, fun _ => rfl⟩

theorem ResendCall.step_sameCaches {c c' : ResendCall} (h : c.step env w a = some (w', c')) :
    SameCaches w w' := by
  have move := (step_move h).1
  generalize c.pc = pc at move
  generalize c'.pc = pc' at move
  cases move with
  | setCooldown d same => exact .of_core same
  | store d => exact sameCaches_storeOtp
  | _ => exact ⟨rfl, fun _ => rfl⟩

theorem VerifyCall.step_sameCaches {c c' : VerifyCall} (h : c.step env w ok = some (w', c')) :
    SameCaches w w' := by
  have deleted : SameCaches w (c.deleteEntry env w ok) := by
    unfold deleteEntry
    refine ⟨by cases ok <;> rfl, fun process => ?_⟩
    rw [World.mapMemory_memory]
    split
    next same =>
      subst same
      cases ok <;> rfl
    · cases ok <;> rfl
  cases pc : c.pc with
  | lookup =>
    simp only [step, pc] at h
    split at h <;> cases h <;> exact ⟨rfl, fun _ => rfl⟩
  | findRecord f =>
    simp only [step, pc] at h
    split at h
    · split at h <;> cases h
      · exact ⟨rfl, fun _ => rfl⟩
      · unfold mutate
        split
        · exact ⟨rfl, fun _ => rfl⟩
        · refine ⟨rfl, fun process => ?_⟩
          rw [World.mapMemory_memory]
          split
          next same => rw [same]
          · rfl
    · cases h
      exact ⟨rfl, fun _ => rfl⟩
  | maxBlock f =>
    simp only [step, pc] at h
    cases h
    exact .of_core (blockPhoneNumber_sameCore ..)
  | maxDelete f =>
    simp only [step, pc] at h
    cases h
    exact deleted
  | delete f record =>
    simp only [step, pc] at h
    cases record <;> cases h <;> exact deleted
  | incorrectAttempts | incorrectVerification | maxStatus | ttl | writeBack | verifiedStatus
  | correctVerification =>
    simp only [step, pc] at h
    split at h <;> cases h <;> exact ⟨rfl, fun _ => rfl⟩
  | verified | rejected | internalError => simp [step, pc] at h

theorem SendCall.step_keepsSaved {c c' : SendCall} (h : c.step env w a = some (w', c'))
    (idle : c.saves = none) :
    SameCaches w w' ∧ w'.db.idempotencyKeys = w.db.idempotencyKeys := by
  have tables := step_tables h
  rw [idle] at tables
  refine ⟨?_, tables.keeps_idempotencyKeys⟩
  have move := (step_move h).1
  unfold saves at idle
  generalize c.pc = pc at move idle
  generalize c'.pc = pc' at move
  cases move with
  | refuse before same | check before same | setCooldown d same => exact .of_core same
  | store d => exact sameCaches_storeOtp
  | saveCache d key | saveRecord d key => cases idle
  | _ => exact ⟨rfl, fun _ => rfl⟩

/-- Only a send that is saving its response changes what is saved. -/
theorem Thread.resume_keepsSaved {t t' : Thread} (h : Thread.resume env w t a = some (w', t'))
    (idle : ∀ c, t = .send c → c.saves = none) :
    SameCaches w w' ∧ w'.db.idempotencyKeys = w.db.idempotencyKeys := by
  have requests (unchanged : SameRequests w w') : SameCaches w w' ∧
      w'.db.idempotencyKeys = w.db.idempotencyKeys :=
    ⟨.of_stores unchanged.redis unchanged.memory, unchanged.idempotencyKeys⟩
  cases t with
  | authenticating request c =>
    simp only [resume] at h
    obtain ⟨c', stepped, -⟩ := stepped_eq_some h
    have core := (AuthCall.step_session stepped).1
    exact ⟨.of_core core, by rw [core.db]⟩
  | send c =>
    obtain ⟨c', stepped, -⟩ := stepped_eq_some h
    exact SendCall.step_keepsSaved stepped (idle c rfl)
  | verify customer c =>
    obtain ⟨c', stepped, -⟩ := stepped_eq_some h
    exact ⟨VerifyCall.step_sameCaches stepped, (VerifyCall.step_tables stepped).keeps_idempotencyKeys⟩
  | resend c =>
    obtain ⟨c', stepped, -⟩ := stepped_eq_some h
    exact ⟨ResendCall.step_sameCaches stepped, (ResendCall.step_tables stepped).keeps_idempotencyKeys⟩
  | status customer c =>
    obtain ⟨c', stepped, -⟩ := stepped_eq_some h
    have stores := StatusCall.step_sameStores stepped
    exact ⟨.of_stores stores.redis stores.memory, (StatusCall.step_tables stepped).keeps_idempotencyKeys⟩
  | dashboard c =>
    obtain ⟨c', stepped, -⟩ := stepped_eq_some h
    exact requests (DashboardCall.step_sameRequests stepped)
  | register c =>
    obtain ⟨c', stepped, -⟩ := stepped_eq_some h
    exact requests (RegisterCall.step_sameRequests stepped)
  | sendOtpJob c =>
    obtain ⟨c', stepped, -⟩ := stepped_eq_some h
    have stores := JobCall.step_sameStores stepped
    exact ⟨.of_stores stores.redis stores.memory, (JobCall.step_tables stepped).keeps_idempotencyKeys⟩
  | webhook c =>
    obtain ⟨c', stepped, -⟩ := stepped_eq_some h
    have stores := WebhookCall.step_sameStores stepped
    exact ⟨.of_stores stores.redis stores.memory, (WebhookCall.step_tables stepped).keeps_idempotencyKeys⟩

/-- A response that is saved after a step was saved before, or the step saves it. -/
theorem Thread.resume_saved {t t' : Thread} (h : Thread.resume env w t a = some (w', t'))
    (now : Saved w' applicationId requestId) :
    Saved w applicationId requestId ∨
      ∃ c, t = .send c ∧ c.saves = some (applicationId, requestId) := by
  by_cases idle : ∀ c, t = .send c → c.saves = none
  · obtain ⟨caches, keys⟩ := Thread.resume_keepsSaved h idle
    refine Or.inl ?_
    rcases now with ⟨key, cell, there, names⟩ | ⟨process, key, response, there, names⟩ | row
    · exact Or.inl ⟨key, cell, caches.1 ▸ there, names⟩
    · exact Or.inr (Or.inl ⟨process, key, response, caches.2 process ▸ there, names⟩)
    · exact Or.inr (Or.inr (keys ▸ row))
  · push Not at idle
    obtain ⟨c, rfl, -⟩ := idle
    obtain ⟨c', stepped, -⟩ := stepped_eq_some h
    exact (SendCall.step_saved stepped now).imp_right fun saves => ⟨c, rfl, saves⟩

end Saved

/-! ### Ownership -/

/-- The application with this id is the customer's as long as it exists, and the id is not
given to another one. -/
structure Owns (w : World) (applicationId customerId : Id) : Prop where
  used : applicationId < w.nextId
  owner : ∀ a ∈ w.db.applications, a.id = applicationId → a.customerId = customerId

structure OwnsKey (w : World) (keyId customerId : Id) : Prop where
  used : keyId < w.nextId
  owner : ∀ k ∈ w.db.apiKeys, k.id = keyId → k.customerId = customerId

/-- The application exists and is the customer's. -/
def Belongs (db : Database) (applicationId customerId : Id) : Prop :=
  ∃ a ∈ db.applications, a.id = applicationId ∧ a.customerId = customerId

/-- Every API key and every request is of an application of its own customer. -/
structure Accounts (w : World) : Prop where
  applications : ∀ a ∈ w.db.applications, Owns w a.id a.customerId
  apiKeys : ∀ k ∈ w.db.apiKeys, OwnsKey w k.id k.customerId
  keysBelong : ∀ k ∈ w.db.apiKeys, Belongs w.db k.applicationId k.customerId
  requestsBelong : ∀ r ∈ w.db.otpRequests, Belongs w.db r.applicationId r.customerId

def DashboardPc.Owned (w : World) : DashboardPc → Prop
  | deleteApplication customer app => Owns w app.id customer.id
  | revokeApiKey customer apiKey => OwnsKey w apiKey.id customer.id
  | _ => True

def Thread.Owned (w : World) : Thread → Prop
  | authenticating _ c => ∀ s ∈ c.session, Owns w s.application.id s.customer.id
  | send c => Owns w c.applicationId c.customer.id
  | verify customer c => Owns w c.applicationId customer.id
  | resend c => Owns w c.applicationId c.customer.id
  | status customer c => Owns w c.applicationId customer.id
  | dashboard c => c.pc.Owned w
  | register _ | sendOtpJob _ | webhook _ => True

/-- New applications and keys have new ids, and keys keep their customer. -/
structure AccountsStep (w w' : World) : Prop where
  grows : w.nextId ≤ w'.nextId
  applications : ∀ a ∈ w'.db.applications, a ∈ w.db.applications ∨ w.nextId ≤ a.id
  apiKeys : ∀ k ∈ w'.db.apiKeys, (∃ j ∈ w.db.apiKeys, j.id = k.id ∧ j.customerId = k.customerId) ∨
    w.nextId ≤ k.id

section Ownership

variable {env : Env} {w w' : World} {ok : Bool} {applicationId keyId customerId : Id}

theorem AccountsStep.same (grows : w.nextId ≤ w'.nextId)
    (applications : w'.db.applications = w.db.applications) (apiKeys : w'.db.apiKeys = w.db.apiKeys) :
    AccountsStep w w' :=
  ⟨grows, fun _ member => Or.inl (applications ▸ member),
    fun k member => Or.inl ⟨k, apiKeys ▸ member, rfl, rfl⟩⟩

theorem Owns.mono (owns : Owns w applicationId customerId) (step : AccountsStep w w') :
    Owns w' applicationId customerId := by
  refine ⟨lt_of_lt_of_le owns.used step.grows, fun app member same => ?_⟩
  rcases step.applications app member with old | new
  · exact owns.owner app old same
  · exact absurd (same ▸ new) (not_le.mpr owns.used)

theorem OwnsKey.mono (owns : OwnsKey w keyId customerId) (step : AccountsStep w w') :
    OwnsKey w' keyId customerId := by
  refine ⟨lt_of_lt_of_le owns.used step.grows, fun k member same => ?_⟩
  rcases step.apiKeys k member with ⟨j, old, of_id, of_customer⟩ | new
  · rw [← of_customer]
    exact owns.owner j old (of_id.trans same)
  · exact absurd (same ▸ new) (not_le.mpr owns.used)

theorem Thread.Owned.mono {t : Thread} (owned : t.Owned w) (step : AccountsStep w w') :
    t.Owned w' := by
  cases t with
  | authenticating request c => exact fun s present => (owned s present).mono step
  | send | verify | resend | status => exact Owns.mono owned step
  | dashboard c =>
    simp only [Thread.Owned] at owned ⊢
    cases pc : c.pc with
    | deleteApplication customer app =>
      rw [pc] at owned
      exact Owns.mono owned step
    | revokeApiKey customer apiKey =>
      rw [pc] at owned
      exact OwnsKey.mono owned step
    | _ => trivial
  | register | sendOtpJob | webhook => trivial

/-- Applications and keys stay, and no request is entered for another customer's application. -/
theorem Accounts.of_same (accounts : Accounts w) (grows : w.nextId ≤ w'.nextId)
    (applications : w'.db.applications = w.db.applications) (apiKeys : w'.db.apiKeys = w.db.apiKeys)
    (rows : ∀ s ∈ w'.db.otpRequests, (∃ r ∈ w.db.otpRequests, SameRow r s) ∨
      Belongs w.db s.applicationId s.customerId) : Accounts w' := by
  have step : AccountsStep w w' := .same grows applications apiKeys
  refine ⟨fun app member => ?_, fun k member => ?_, fun k member => ?_, fun s member => ?_⟩
  · exact (accounts.applications app (applications ▸ member)).mono step
  · exact (accounts.apiKeys k (apiKeys ▸ member)).mono step
  · rw [Belongs, applications]
    exact accounts.keysBelong k (apiKeys ▸ member)
  · rw [Belongs, applications]
    rcases rows s member with ⟨r, old, same⟩ | new
    · rw [same.applicationId, same.customerId]
      exact accounts.requestsBelong r old
    · exact new

theorem Accounts.createApplication {row : Application}
    (accounts : Accounts w) (fresh : w.nextId ≤ row.id) (within : row.id < w'.nextId)
    (applications : w'.db.applications = w.db.applications ++ [row])
    (apiKeys : w'.db.apiKeys = w.db.apiKeys) (rows : w'.db.otpRequests = w.db.otpRequests) :
    AccountsStep w w' ∧ Accounts w' := by
  have step : AccountsStep w w' := by
    refine ⟨fresh.trans within.le, fun app member => ?_, fun k member => Or.inl ⟨k, apiKeys ▸ member, rfl, rfl⟩⟩
    rw [applications] at member
    rcases List.mem_append.mp member with old | new
    · exact Or.inl old
    · cases List.mem_singleton.mp new
      exact Or.inr fresh
  have kept {app customer : Id} (belongs : Belongs w.db app customer) :
      Belongs w'.db app customer := by
    obtain ⟨found, member, of_id, of_customer⟩ := belongs
    exact ⟨found, applications ▸ List.mem_append_left _ member, of_id, of_customer⟩
  refine ⟨step, fun app member => ?_, fun k member => ?_, fun k member => ?_, fun r member => ?_⟩
  · rw [applications] at member
    rcases List.mem_append.mp member with old | new
    · exact (accounts.applications app old).mono step
    · cases List.mem_singleton.mp new
      refine ⟨within, fun other there same => ?_⟩
      rw [applications] at there
      rcases List.mem_append.mp there with old | last
      -- no earlier application has the new id
      · exact absurd (same ▸ fresh) (not_le.mpr (accounts.applications other old).used)
      · rw [List.mem_singleton.mp last]
  · exact (accounts.apiKeys k (apiKeys ▸ member)).mono step
  · exact kept (accounts.keysBelong k (apiKeys ▸ member))
  · exact kept (accounts.requestsBelong r (rows ▸ member))

theorem Accounts.deleteApplication {id : Id} {db : Database} (accounts : Accounts w)
    (deleted : w.db.deleteApplication id = some db) :
    AccountsStep w { w with db := db } ∧ Accounts { w with db := db } := by
  unfold Database.deleteApplication at deleted
  split at deleted <;> cases deleted
  next conditions =>
    obtain ⟨-, unreferred, -, -⟩ := conditions
    have step : AccountsStep w { w with db := { w.db with
        applications := w.db.applications.filter (·.id ≠ id)
        apiKeys := w.db.apiKeys.filter (·.applicationId ≠ id) } } :=
      ⟨le_refl _, fun _ member => Or.inl (List.mem_of_mem_filter member),
        fun k member => Or.inl ⟨k, List.mem_of_mem_filter member, rfl, rfl⟩⟩
    -- the keys go with the application, and with requests it is not deleted
    have kept {app customer : Id} (belongs : Belongs w.db app customer) (apart : app ≠ id) :
        ∃ found ∈ w.db.applications.filter (·.id ≠ id), found.id = app ∧
          found.customerId = customer := by
      obtain ⟨found, member, of_id, of_customer⟩ := belongs
      exact ⟨found, List.mem_filter.mpr ⟨member, by simpa [of_id] using apart⟩, of_id, of_customer⟩
    refine ⟨step, fun app member => ?_, fun k member => ?_, fun k member => ?_, fun r member => ?_⟩
    · exact (accounts.applications app (List.mem_of_mem_filter member)).mono step
    · exact (accounts.apiKeys k (List.mem_of_mem_filter member)).mono step
    · have apart : k.applicationId ≠ id := by simpa using (List.mem_filter.mp member).2
      exact kept (accounts.keysBelong k (List.mem_of_mem_filter member)) apart
    · exact kept (accounts.requestsBelong r member) (unreferred r member)

theorem Accounts.createApiKey {row : ApiKey} {db : Database} (accounts : Accounts w)
    (fresh : row.id = w.nextId) (belongs : Belongs w.db row.applicationId row.customerId)
    (created : w.db.createApiKey row = some db) :
    AccountsStep w { w with db := db, nextId := w.nextId + 1 } ∧
      Accounts { w with db := db, nextId := w.nextId + 1 } := by
  unfold Database.createApiKey at created
  split at created <;> cases created
  have step : AccountsStep w { w with
      db := { w.db with apiKeys := w.db.apiKeys ++ [row] }, nextId := w.nextId + 1 } := by
    refine ⟨Nat.le_succ _, fun _ member => Or.inl member, fun k member => ?_⟩
    rcases List.mem_append.mp member with old | new
    · exact Or.inl ⟨k, old, rfl, rfl⟩
    · rw [List.mem_singleton.mp new]
      exact Or.inr fresh.ge
  refine ⟨step, fun app member => (accounts.applications app member).mono step, fun k member => ?_,
    fun k member => ?_, accounts.requestsBelong⟩
  · rcases List.mem_append.mp member with old | new
    · exact (accounts.apiKeys k old).mono step
    · cases List.mem_singleton.mp new
      refine ⟨by rw [fresh]; exact Nat.lt_succ_self _, fun other there same => ?_⟩
      rcases List.mem_append.mp there with old | last
      · have used := (accounts.apiKeys other old).used
        rw [same, fresh] at used
        exact absurd used (lt_irrefl _)
      · rw [List.mem_singleton.mp last]
  · rcases List.mem_append.mp member with old | new
    · exact accounts.keysBelong k old
    · rw [List.mem_singleton.mp new]
      exact belongs

theorem Accounts.revokeApiKey (accounts : Accounts w) (id : Id) :
    AccountsStep w (w.mapDb (·.revokeApiKey id)) ∧ Accounts (w.mapDb (·.revokeApiKey id)) := by
  -- each key of the new table is an old one with another status
  have origin {k : ApiKey} (member : k ∈ (w.mapDb (·.revokeApiKey id)).db.apiKeys) :
      ∃ j ∈ w.db.apiKeys, j.id = k.id ∧ j.customerId = k.customerId ∧
        j.applicationId = k.applicationId := by
    obtain ⟨j, old, rfl⟩ := List.mem_map.mp member
    refine ⟨j, old, ?_⟩
    split <;> exact ⟨rfl, rfl, rfl⟩
  have step : AccountsStep w (w.mapDb (·.revokeApiKey id)) := by
    refine ⟨le_refl _, fun _ member => Or.inl member, fun k member => Or.inl ?_⟩
    obtain ⟨j, old, of_id, of_customer, -⟩ := origin member
    exact ⟨j, old, of_id, of_customer⟩
  refine ⟨step, fun app member => (accounts.applications app member).mono step, fun k member => ?_,
    fun k member => ?_, accounts.requestsBelong⟩
  · obtain ⟨j, old, of_id, of_customer, -⟩ := origin member
    have owns := (accounts.apiKeys j old).mono step
    rwa [of_id, of_customer] at owns
  · obtain ⟨j, old, -, of_customer, of_app⟩ := origin member
    have belongs := accounts.keysBelong j old
    rwa [of_customer, of_app] at belongs

theorem Accounts.same_tables (accounts : Accounts w) (grows : w.nextId ≤ w'.nextId)
    (applications : w'.db.applications = w.db.applications) (apiKeys : w'.db.apiKeys = w.db.apiKeys)
    (rows : w'.db.otpRequests = w.db.otpRequests) : AccountsStep w w' ∧ Accounts w' :=
  ⟨.same grows applications apiKeys, accounts.of_same grows applications apiKeys fun s member =>
    Or.inl ⟨s, rows ▸ member, .refl s⟩⟩

/-- The application for which the request creates a key. -/
def DashboardRequest.keyApplication : DashboardRequest → Option Id
  | createApiKey applicationId .. => some applicationId
  | _ => none

/-- A key is not created for another customer's application. -/
def DashboardCall.NamesOwn (w : World) (c : DashboardCall) (customer : Customer) : Prop :=
  ∀ applicationId ∈ c.request.keyApplication, ∀ app ∈ w.db.applications,
    app.id = applicationId → app.customerId = customer.id

theorem DashboardCall.handle_accounts (accounts : Accounts w) (c : DashboardCall) (customer : Customer)
    (own : c.NamesOwn w customer) :
    (AccountsStep w (c.handle env w customer).1 ∧ Accounts (c.handle env w customer).1) ∧
      (c.handle env w customer).2.pc.Owned (c.handle env w customer).1 := by
  have unchanged := accounts.same_tables (le_refl w.nextId) rfl rfl rfl
  cases request : c.request with
  | createApplication name =>
    simp only [handle, request]
    split
    next db created =>
      unfold Database.createApplication at created
      split at created <;> cases created
      exact ⟨accounts.createApplication (le_refl _) (Nat.lt_succ_self _) rfl rfl rfl, trivial⟩
    · exact ⟨unchanged, trivial⟩
  -- the route does not look whose application it is; the condition does
  | createApiKey applicationId name rawSecret =>
    simp only [handle, request]
    split
    next db created =>
      refine ⟨accounts.createApiKey rfl ?_ created, trivial⟩
      unfold Database.createApiKey at created
      split at created
      next conditions =>
        obtain ⟨-, -, app, member, of_id⟩ := conditions
        exact ⟨app, member, of_id, own applicationId (by rw [request]; rfl) app member of_id⟩
      · cases created
    · exact ⟨unchanged, trivial⟩
  -- the look-up is by id and customer
  | deleteApplication appId =>
    simp only [handle, request]
    split
    next app found =>
      refine ⟨unchanged, ?_⟩
      have member := List.mem_of_find?_eq_some found
      have selected := List.find?_some found
      simp only [Bool.and_eq_true, beq_iff_eq] at selected
      have owns := accounts.applications app member
      rw [selected.2] at owns
      exact owns
    · exact ⟨unchanged, trivial⟩
  | revokeApiKey keyId =>
    simp only [handle, request]
    split
    next apiKey found =>
      refine ⟨unchanged, ?_⟩
      have member := List.mem_of_find?_eq_some found
      have selected := List.find?_some found
      simp only [Bool.and_eq_true, beq_iff_eq] at selected
      have owns := accounts.apiKeys apiKey member
      rw [selected.2] at owns
      exact owns
    · exact ⟨unchanged, trivial⟩
  | getApplication appId =>
    simp only [handle, request]
    split <;> exact ⟨unchanged, trivial⟩
  | topup amount referenceId =>
    simp only [handle, request]
    split <;> exact ⟨accounts.same_tables (le_refl _) rfl rfl rfl, trivial⟩
  | account accountRequest =>
    cases accountRequest <;> simp only [handle, request] <;>
      exact ⟨accounts.same_tables (le_refl _) rfl rfl rfl, trivial⟩
  | listApplications | listApiKeys | transactions =>
    simp only [handle, request]
    exact ⟨accounts.same_tables (le_refl _) rfl rfl rfl, trivial⟩

theorem DashboardCall.step_accounts {c c' : DashboardCall} (accounts : Accounts w)
    (own : ok = true → ∀ customer, c.pc = .handle customer → c.NamesOwn w customer)
    (h : c.step env w ok = some (w', c')) :
    (AccountsStep w w' ∧ Accounts w') ∧ c'.pc.Owned w' := by
  have unchanged := accounts.same_tables (le_refl w.nextId) rfl rfl rfl
  cases pc : c.pc with
  | authenticate sub jwt =>
    simp only [step, pc] at h
    split at h <;> cases h <;> exact ⟨unchanged, trivial⟩
  | handle customer =>
    simp only [step, pc] at h
    split at h
    next up =>
      have handled := @handle_accounts env w accounts c customer (own up customer pc)
      rw [Option.some.inj h] at handled
      exact handled
    · cases h
      exact ⟨unchanged, trivial⟩
  | deleteApplication customer app =>
    simp only [step, pc] at h
    split at h <;> cases h
    next deleted =>
      split at deleted
      · exact ⟨accounts.deleteApplication deleted, trivial⟩
      · cases deleted
    · exact ⟨unchanged, trivial⟩
  | revokeApiKey customer apiKey =>
    simp only [step, pc] at h
    split at h <;> cases h
    · exact ⟨accounts.revokeApiKey apiKey.id, trivial⟩
    · exact ⟨unchanged, trivial⟩
  | readWallet | readTransactions | countVerified | countFailed =>
    simp only [step, pc] at h
    split at h <;> cases h <;> exact ⟨accounts.same_tables (le_refl _) rfl rfl rfl, trivial⟩
  | answered | rejected | internalError => simp [step, pc] at h

theorem RegisterCall.step_accounts {c c' : RegisterCall} (accounts : Accounts w)
    (h : c.step w ok = some (w', c')) : AccountsStep w w' ∧ Accounts w' := by
  have unchanged := accounts.same_tables (le_refl w.nextId) rfl rfl rfl
  cases pc : c.pc with
  | findUser =>
    simp only [step, pc] at h
    split at h
    · split at h <;> cases h <;> exact unchanged
    · cases h
      exact unchanged
  | create =>
    simp only [step, pc] at h
    split at h <;> cases h
    next registered =>
      split at registered
      · unfold RegisterCall.create Database.createApplication at registered
        dsimp only at registered
        split at registered
        · split at registered <;> cases registered
          exact accounts.createApplication (Nat.le_add_right _ 2) (Nat.lt_succ_self _) rfl rfl rfl
        · cases registered
      · cases registered
    · exact unchanged
  | registered | rejected | internalError => simp [step, pc] at h

theorem RowsTo.grows {target : Option RowChange} (rows : RowsTo w w' target) :
    w.nextId ≤ w'.nextId := by
  obtain ⟨change, step, -⟩ := rows
  generalize w'.db.otpRequests = rows' at step
  generalize w'.nextId = nextId' at step ⊢
  cases step with
  | same grows => exact grows
  | create => exact Nat.le_succ _
  | edit | write => exact le_refl _

/-- A row of the new table is an old one, or the one the call creates. -/
theorem RowsTo.origin {target : Option RowChange} (rows : RowsTo w w' target) {s : OtpRequest}
    (member : s ∈ w'.db.otpRequests) :
    (∃ r ∈ w.db.otpRequests, SameRow r s) ∨ target = some (.create s) := by
  obtain ⟨change, step, written⟩ := rows
  rcases step.origin member with old | created
  · exact Or.inl old
  · exact Or.inr (written _ created)

/-- A send creates its row for an application that exists. -/
theorem SendCall.step_creates {a : Answer} {c c' : SendCall} {s : OtpRequest}
    (h : c.step env w a = some (w', c')) (creates : c.target env w = some (.create s)) :
    w'.db = w.db ∨ ∃ app ∈ w.db.applications, app.id = s.applicationId := by
  have move := (step_move h).1
  unfold target at creates
  generalize c.pc = pc at move creates
  generalize c'.pc = pc' at move
  cases move with
  | create otpCode requestId expiresAt db created =>
    cases creates
    unfold Database.createOtpRequest at created
    split at created
    next conditions => exact Or.inr conditions.2.2.1
    · cases created
  | crash => exact Or.inl rfl
  | check before same after =>
    exact Or.inl same.db
  | refuse before same => exact Or.inl same.db
  | early before after => exact Or.inl rfl
  | _ => cases creates

theorem SendCall.target_create {c : SendCall} {s : OtpRequest}
    (creates : c.target env w = some (.create s)) :
    s.customerId = c.customer.id ∧ s.applicationId = c.applicationId := by
  unfold target at creates
  split at creates <;> cases creates
  exact ⟨rfl, rfl⟩

theorem Accounts.of_call {charged judged : Option Id} {saved : Option (Id × String)}
    {target : Option RowChange} (accounts : Accounts w)
    (tables : TablesStep w w' charged judged saved) (rows : RowsTo w w' target)
    (new : ∀ s, target = some (.create s) → s ∈ w'.db.otpRequests →
      (∃ r ∈ w.db.otpRequests, SameRow r s) ∨ Belongs w.db s.applicationId s.customerId) :
    AccountsStep w w' ∧ Accounts w' :=
  ⟨.same rows.grows tables.applications tables.apiKeys,
    accounts.of_same rows.grows tables.applications tables.apiKeys fun s member => by
      rcases rows.origin member with old | creates
      · exact Or.inl old
      · exact new s creates member⟩

theorem StatusCall.step_applicationId {c c' : StatusCall} (h : c.step w ok = some (w', c')) :
    c'.applicationId = c.applicationId := by
  cases pc : c.pc with
  | findRecord =>
    simp only [step, pc] at h
    split at h
    · split at h
      · cases h
        rfl
      · split at h <;> cases h <;> rfl
    · cases h
      rfl
  | expire record =>
    simp only [step, pc] at h
    split at h <;> cases h <;> rfl
  | answered | rejected | internalError => simp [step, pc] at h

/-- The key that was found is of an application of its customer. -/
theorem Accounts.findApiKey (accounts : Accounts w) {keyHash : String} {apiKey : ApiKey}
    {application : Application} {customer : Customer}
    (found : w.db.findApiKey keyHash = some (apiKey, application, customer)) :
    Owns w application.id customer.id := by
  simp only [Database.findApiKey, Database.findCustomer, Option.bind_eq_bind, Option.pure_def,
    Option.bind_eq_some_iff, Option.some.injEq, Prod.mk.injEq] at found
  obtain ⟨key, first, app, of_key, owner, of_customer, rfl, rfl, rfl⟩ := found
  have app_id : app.id = key.applicationId := by simpa using List.find?_some of_key
  have owner_id : owner.id = key.customerId := by simpa using List.find?_some of_customer
  obtain ⟨other, member, other_id, other_customer⟩ :=
    accounts.keysBelong key (List.mem_of_find?_eq_some first)
  have owns := accounts.applications other member
  rwa [other_id, ← app_id, other_customer, ← owner_id] at owns

/-- The request that creates an API key, and who makes it. -/
def Thread.handling : Thread → Option (DashboardCall × Customer)
  | dashboard c =>
    match c.pc with
    | .handle customer => some (c, customer)
    | _ => none
  | _ => none

theorem Thread.handler_owned {s : Session} (request : ApiRequest)
    (owns : Owns w s.application.id s.customer.id) : (handler s request).Owned w := by
  unfold handler
  split
  · exact owns
  · exact owns
  · exact owns
  · exact owns
  · trivial

theorem Thread.resume_accounts {t t' : Thread} {a : Answer} (accounts : Accounts w)
    (owned : t.Owned w) (own : ∀ x ∈ t.handling, a.ok = true → x.1.NamesOwn w x.2)
    (h : Thread.resume env w t a = some (w', t')) :
    (AccountsStep w w' ∧ Accounts w') ∧ t'.Owned w' := by
  have rows := resume_rows h
  have same {charged judged : Option Id} {saved : Option (Id × String)}
      (tables : TablesStep w w' charged judged saved)
      (creates : ∀ s, t.target env w ≠ some (.create s)) : AccountsStep w w' ∧ Accounts w' :=
    accounts.of_call tables rows fun s created => absurd created (creates s)
  cases t with
  | authenticating request c =>
    simp only [resume] at h
    obtain ⟨c', stepped, rfl⟩ := stepped_eq_some h
    obtain ⟨core, -, sessions⟩ := AuthCall.step_session stepped
    have tables : TablesStep w w' none none none := .of_db core.db
    have kept := same tables fun s h => (by cases h)
    refine ⟨kept, ?_⟩
    have owns (s : Session) (present : s ∈ c'.session) : Owns w' s.application.id s.customer.id := by
      rcases sessions s present with old | found
      · exact (owned s old).mono kept.1
      · exact (accounts.findApiKey found).mono kept.1
    split
    next s at_pc => exact handler_owned request (owns s (by simp [AuthCall.session, at_pc]))
    · exact owns
  | send c =>
    obtain ⟨c', stepped, rfl⟩ := stepped_eq_some h
    have kept := accounts.of_call (SendCall.step_tables stepped) rows fun s creates member => by
      rcases SendCall.step_creates stepped creates with unchanged | ⟨app, there, of_id⟩
      · exact Or.inl ⟨s, unchanged ▸ member, .refl s⟩
      · obtain ⟨of_customer, of_app⟩ := SendCall.target_create creates
        exact Or.inr ⟨app, there, of_id,
          of_customer ▸ owned.owner app there (of_id.trans of_app)⟩
    refine ⟨kept, ?_⟩
    rw [(SendCall.step_move stepped).2]
    exact Owns.mono owned kept.1
  | verify customer c =>
    obtain ⟨c', stepped, rfl⟩ := stepped_eq_some h
    have kept := same (VerifyCall.step_tables stepped) fun s => by
      simp only [target, VerifyPc.target]
      split <;> simp
    refine ⟨kept, ?_⟩
    simp only [Thread.Owned, (VerifyCall.step_move stepped).2.1.applicationId]
    exact Owns.mono owned kept.1
  | resend c =>
    obtain ⟨c', stepped, rfl⟩ := stepped_eq_some h
    have kept := same (ResendCall.step_tables stepped) fun s => by
      simp only [target, ResendPc.target]
      split <;> simp
    refine ⟨kept, ?_⟩
    rw [(ResendCall.step_move stepped).2]
    exact Owns.mono owned kept.1
  | status customer c =>
    obtain ⟨c', stepped, rfl⟩ := stepped_eq_some h
    have kept := same (StatusCall.step_tables stepped) fun s => by
      simp only [target, StatusPc.target]
      split <;> simp
    refine ⟨kept, ?_⟩
    simp only [Thread.Owned, StatusCall.step_applicationId stepped]
    exact Owns.mono owned kept.1
  | dashboard c =>
    obtain ⟨c', stepped, rfl⟩ := stepped_eq_some h
    refine DashboardCall.step_accounts accounts (fun up customer at_handle => ?_) stepped
    exact own (c, customer) (by simp [handling, at_handle]) up
  | register c =>
    obtain ⟨c', stepped, rfl⟩ := stepped_eq_some h
    exact ⟨RegisterCall.step_accounts accounts stepped, trivial⟩
  | sendOtpJob c =>
    obtain ⟨c', stepped, rfl⟩ := stepped_eq_some h
    refine ⟨same (JobCall.step_tables stepped) fun s => ?_, trivial⟩
    simp only [target, JobCall.target]
    split <;> simp
  | webhook c =>
    obtain ⟨c', stepped, rfl⟩ := stepped_eq_some h
    refine ⟨same (WebhookCall.step_tables stepped) fun s => ?_, trivial⟩
    simp only [target, WebhookPc.target]
    split <;> simp

end Ownership

end SelfOtp
