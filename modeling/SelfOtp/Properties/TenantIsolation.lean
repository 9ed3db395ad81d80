import SelfOtp.Properties.OtpPool
import SelfOtp.Properties.Tenants

/-! What requests authenticated as one customer can touch and learn. -/
namespace SelfOtp

open Pool Transition

/-! ### Isolation -/

/-- The live entry of a key in Redis (`none`) or in the memory of a process. -/
def storedAt (w : World) (tier : Option ℕ) (key : OtpKey) : Option StoredOtp :=
  match tier with
  | none => w.redis.otp.get w.now key
  | some process =>
    match (w.memory process).otp key with
    | some object =>
      let entry := (w.memory process).heap object
      if seconds w.now ≤ entry.expiresAt then some entry.otp else none
    | none => none

/-- The request id is that of a request of the customer. -/
def OwnRequest (db : Database) (customerId : Id) (requestId : String) : Prop :=
  ∃ r ∈ db.otpRequests, r.requestId = requestId ∧ r.customerId = customerId

/-- Every row that appears, disappears or changes is the customer's, and so is the request of
every OTP entry that does. -/
structure TouchesOwn (customerId : Id) (w w' : World) : Prop where
  applications : ∀ a, (a ∈ w'.db.applications ↔ a ∈ w.db.applications) ∨ a.customerId = customerId
  apiKeys : ∀ k, (k ∈ w'.db.apiKeys ↔ k ∈ w.db.apiKeys) ∨ k.customerId = customerId
  otpRequests : ∀ r, (r ∈ w'.db.otpRequests ↔ r ∈ w.db.otpRequests) ∨ r.customerId = customerId
  otpVerifications : ∀ v, (v ∈ w'.db.otpVerifications ↔ v ∈ w.db.otpVerifications) ∨
    ∃ r ∈ w'.db.otpRequests, r.id = v.otpRequestId ∧ r.customerId = customerId
  wallets : ∀ other, other ≠ customerId → w'.db.wallets other = w.db.wallets other
  entries : ∀ tier key data,
    (storedAt w' tier key = some data ↔ storedAt w tier key = some data) ∨
      OwnRequest w'.db customerId data.requestId

def DashboardAnswer.Own (db : Database) (customerId : Id) : DashboardAnswer → Prop
  | applications rows => ∀ a ∈ rows, a ∈ db.applications ∧ a.customerId = customerId
  | application row => row ∈ db.applications ∧ row.customerId = customerId
  | apiKey row _ => row ∈ db.apiKeys ∧ row.customerId = customerId
  | apiKeys rows => ∀ k ∈ rows, k ∈ db.apiKeys ∧ k.customerId = customerId
  | noContent => True
  | balance _ wallet => db.wallets customerId = some wallet
  | account customer wallet => customer.id = customerId ∧ db.wallets customerId = some wallet
  | transactions rows => ∀ x ∈ rows,
    x ∈ (WalletService.getOrCreateWallet (db.wallets customerId)).transactions
  | usage id .. => id = customerId

/-- What the answer of the request shows is the customer's. -/
def Thread.ReturnsOwn (db : Database) (customerId : Id) : Thread → Prop
  | send c => ∀ statusCode response, c.pc = .replied statusCode response →
    OwnRequest db customerId response.requestId
  | verify _ c => ∀ result, c.pc = .verified result → OwnRequest db customerId result.requestId
  | resend c => ∀ d, c.pc = .replied d →
    ∃ r ∈ db.otpRequests, SameRow d.record r ∧ r.customerId = customerId
  | status _ c => ∀ view, c.pc = .answered view → OwnRequest db customerId view.requestId
  | dashboard c => ∀ customer answer, c.pc = .answered customer answer → answer.Own db customerId
  | authenticating .. | register _ | sendOtpJob _ | webhook _ => True

def DashboardPc.customer : DashboardPc → Option Customer
  | handle customer | deleteApplication customer _ | revokeApiKey customer _
  | readWallet customer _ | readTransactions customer | countVerified customer _
  | countFailed customer .. | answered customer _ => some customer
  | authenticate .. | rejected _ | internalError => none

/-- Whom a request is authenticated as. -/
def Thread.customer : Thread → Option Customer
  | send c => some c.customer
  | verify customer _ => some customer
  | resend c => some c.customer
  | status customer _ => some customer
  | dashboard c => c.pc.customer
  | authenticating .. | register _ | sendOtpJob _ | webhook _ => none

/-- Every API key is of an application of its own customer, and whatever a request does next
as a customer touches and shows only what is the customer's. -/
structure TenantsIsolated (env : Env) (p : System) : Prop where
  apiKeys : ∀ k ∈ p.shared.db.apiKeys, Belongs p.shared.db k.applicationId k.customerId
  requests : ∀ i a t customer q, p.threads[i]? = some t → t.customer = some customer →
    Pool.step (systemProgram env) p (.resume i a) = some q →
      TouchesOwn customer.id p.shared q.shared ∧
        ∀ u ∈ q.threads[i]?, u.ReturnsOwn q.shared.db customer.id

/-- API keys are created only for applications of the customer who asks for them. -/
def CreatesOwnKeys (p : System) : SystemLabel → Prop
  | .resume i a => ∀ t ∈ p.threads[i]?, ∀ x ∈ t.handling, a.ok = true → x.1.NamesOwn p.shared x.2
  | .external _ => True

/-- No request has been made, no response is saved, and the API keys and the ids of what has
been registered are in order. -/
structure Registered (p : System) : Prop where
  unused : Unused p
  redis : ∀ key, p.shared.redis.idempotency key = none
  memory : ∀ process key, (p.shared.memory process).idempotency key = none
  idempotencyKeys : p.shared.db.idempotencyKeys = []
  applications : ∀ a ∈ p.shared.db.applications, Owns p.shared a.id a.customerId
  apiKeyIds : ∀ k ∈ p.shared.db.apiKeys, OwnsKey p.shared k.id k.customerId
  apiKeys : ∀ k ∈ p.shared.db.apiKeys, Belongs p.shared.db k.applicationId k.customerId

/-! ### Entries -/

section Entries

variable {env : Env} {w w' : World} {a : Answer} {ok : Bool} {applicationId : Id}

theorem holds_of_storedAt {tier : Option ℕ} {key : OtpKey} {data : StoredOtp}
    (stored : storedAt w tier key = some data) : Holds w key data.requestId := by
  cases tier with
  | none => exact Or.inl ⟨data, stored, rfl⟩
  | some process =>
    simp only [storedAt] at stored
    split at stored
    next object refers =>
      split at stored <;> cases stored
      next live => exact Or.inr ⟨process, object, refers, live, rfl⟩
    · cases stored

/-- At most the entries of the application change. -/
def OnlyOf (applicationId : Id) (w w' : World) : Prop :=
  ∀ tier key, key.1 ≠ applicationId → storedAt w' tier key = storedAt w tier key

theorem OnlyOf.same (now : w'.now = w.now) (redis : w'.redis.otp = w.redis.otp)
    (memory : ∀ process, (w'.memory process).otp = (w.memory process).otp ∧
      (w'.memory process).heap = (w.memory process).heap) : OnlyOf applicationId w w' := by
  intro tier key _
  cases tier with
  | none => simp only [storedAt, now, redis]
  | some process => simp only [storedAt, now, (memory process).1, (memory process).2]

theorem OnlyOf.of_core (same : SameCore w w') : OnlyOf applicationId w w' :=
  .same same.now same.otp fun process => ⟨(same.memory process).1, (same.memory process).2.1⟩

theorem OnlyOf.of_stores (now : w'.now = w.now) (redis : w'.redis = w.redis)
    (memory : w'.memory = w.memory) : OnlyOf applicationId w w' :=
  .same now (by rw [redis]) fun process => by rw [memory]; exact ⟨rfl, rfl⟩

theorem OnlyOf.of_storeOtp (objects : Objects w) {process : ℕ} {phoneHash : String}
    {data : StoredOtp} {ttlSeconds : ℚ} : OnlyOf applicationId w
      (storeOtp w process (applicationId, phoneHash) data ttlSeconds ok) := by
  intro tier key foreign
  have apart : key ≠ (applicationId, phoneHash) := fun same => foreign (same ▸ rfl)
  unfold storeOtp
  split
  next otp set =>
    cases tier with
    | some other => rfl
    | none =>
      obtain ⟨-, rfl⟩ := ExpiringMap.sent_setEx_eq_some set
      simp only [storedAt, World.mapRedis_redis, World.mapRedis_now]
      exact ExpiringMap.get_put_ne apart _
  next failed =>
    cases tier with
    | none => rfl
    | some other =>
      simp only [storedAt, remembered_otp apart]
      cases refers : (w.memory other).otp key with
      | none => rfl
      | some object =>
        -- the new object is not an old one
        simp only [remembered_heap (objects.bounded _ _ _ refers), World.mapMemory_now]

theorem SendCall.step_onlyOf {c c' : SendCall} (objects : Objects w)
    (h : c.step env w a = some (w', c')) : OnlyOf c.applicationId w w' := by
  have move := (step_move h).1
  generalize c.pc = pc at move
  generalize c'.pc = pc' at move
  cases move with
  | refuse before same | check before same | setCooldown d same => exact .of_core same
  | store d => exact .of_storeOtp objects
  | saveCache d key =>
    unfold cacheResponse
    dsimp only
    refine .same ?_ ?_ fun process => ?_
    · rw [World.mapMemory_now]
      split <;> rfl
    · rw [World.mapMemory_redis]
      split <;> rfl
    · rw [World.mapMemory_memory]
      split
      next here =>
        subst here
        split <;> exact ⟨rfl, rfl⟩
      · split <;> exact ⟨rfl, rfl⟩
  | saveRecord d key =>
    unfold recordResponse
    split <;> exact .of_stores rfl rfl rfl
  | _ => exact .of_stores rfl rfl rfl

theorem ResendCall.step_onlyOf {c c' : ResendCall} (objects : Objects w)
    (h : c.step env w a = some (w', c')) : OnlyOf c.applicationId w w' := by
  have move := (step_move h).1
  generalize c.pc = pc at move
  generalize c'.pc = pc' at move
  cases move with
  | setCooldown d same => exact .of_core same
  | store d => exact .of_storeOtp objects
  | _ => exact .of_stores rfl rfl rfl

/-- Deleting the entry of a key. -/
theorem VerifyCall.deleteEntry_onlyOf (c : VerifyCall) :
    OnlyOf c.applicationId w (c.deleteEntry env w ok) := by
  intro tier key foreign
  have apart : key ≠ c.key env := fun same => foreign (same ▸ rfl)
  cases tier with
  | none =>
    cases ok with
    | false => rfl
    | true =>
      simp only [storedAt, deleteEntry, if_true, World.mapMemory_redis, World.mapMemory_now,
        World.mapRedis_redis, World.mapRedis_now]
      exact ExpiringMap.get_del_ne apart
  | some process =>
    have same : ((c.deleteEntry env w ok).memory process).otp key = (w.memory process).otp key ∧
        ((c.deleteEntry env w ok).memory process).heap = (w.memory process).heap := by
      unfold deleteEntry
      rw [World.mapMemory_memory]
      split
      next here =>
        subst here
        cases ok <;> exact ⟨Function.update_of_ne apart _ _, rfl⟩
      · cases ok <;> exact ⟨rfl, rfl⟩
    simp only [storedAt, same.1, same.2, deleteEntry_now]

theorem VerifyCall.step_onlyOf {c c' : VerifyCall} (linked : c.Linked env w)
    (h : c.step env w ok = some (w', c')) : OnlyOf c.applicationId w w' := by
  cases pc : c.pc with
  | lookup =>
    simp only [step, pc] at h
    split at h <;> cases h <;> exact .of_stores rfl rfl rfl
  | findRecord f =>
    simp only [step, pc] at h
    split at h
    · split at h <;> cases h
      · exact .of_stores rfl rfl rfl
      · unfold mutate
        split
        · exact .of_stores rfl rfl rfl
        next object refers =>
          have only := (linked.object f (by rw [pc]; rfl) object refers).2.2
          intro tier key foreign
          cases tier with
          | none => rfl
          | some process =>
            simp only [storedAt, World.mapMemory_memory, World.mapMemory_now]
            by_cases here : process = c.process
            · subst here
              simp only [if_true]
              cases stored : (w.memory c.process).otp key with
              | none => rfl
              | some other =>
                -- only the key of the call refers to the object
                have apart : other ≠ object := by
                  intro same
                  rw [same] at stored
                  exact foreign (by rw [only key stored]; rfl)
                simp only [Function.update_of_ne apart]
            · rw [if_neg here]
    · cases h
      exact .of_stores rfl rfl rfl
  | writeBack f seconds =>
    simp only [step, pc] at h
    split at h <;> cases h
    next otp set =>
      intro tier key foreign
      have apart : key ≠ c.key env := fun same => foreign (same ▸ rfl)
      cases tier with
      | some process => rfl
      | none =>
        obtain ⟨-, rfl⟩ := ExpiringMap.sent_setEx_eq_some set
        simp only [storedAt, World.mapRedis_redis, World.mapRedis_now]
        exact ExpiringMap.get_put_ne apart _
    · exact .of_stores rfl rfl rfl
  | maxBlock f =>
    simp only [step, pc] at h
    cases h
    exact .of_core (blockPhoneNumber_sameCore ..)
  | maxDelete f =>
    simp only [step, pc] at h
    cases h
    exact c.deleteEntry_onlyOf
  | delete f record =>
    simp only [step, pc] at h
    cases record <;> cases h <;> exact c.deleteEntry_onlyOf
  | incorrectAttempts | incorrectVerification | maxStatus | ttl | verifiedStatus
  | correctVerification =>
    simp only [step, pc] at h
    split at h <;> cases h <;> exact .of_stores rfl rfl rfl
  | verified | rejected | internalError => simp [step, pc] at h

end Entries

/-! ### Rows -/

/-- The change is to rows of the customer. -/
def RowChange.Own (rows : List OtpRequest) (customerId : Id) : RowChange → Prop
  | create row => row.customerId = customerId
  | edit id | write id _ => ∀ r ∈ rows, r.id = id → r.customerId = customerId

section Rows

variable {env : Env} {w w' : World} {a : Answer} {ok : Bool} {applicationId customerId : Id}

private theorem mem_update_or_own {rows : List OtpRequest} {id : Id} {f : OtpRequest → OtpRequest}
    (keeps : KeepsRow f) (own : ∀ r ∈ rows, r.id = id → r.customerId = customerId) (s : OtpRequest) :
    (s ∈ rows.map (fun r => if r.id = id then f r else r) ↔ s ∈ rows) ∨
      s.customerId = customerId := by
  by_cases foreign : s.customerId = customerId
  · exact Or.inr foreign
  refine Or.inl ⟨fun member => ?_, fun member => ?_⟩
  · obtain ⟨r, old, rfl⟩ := List.mem_map.mp member
    split at foreign
    next here => exact absurd ((keeps r).customerId.trans (own r old here)) foreign
    next apart => rwa [if_neg apart]
  · have apart : s.id ≠ id := fun here => foreign (own s member here)
    exact List.mem_map.mpr ⟨s, member, if_neg apart⟩

/-- Rows of other customers stay as they are. -/
theorem RowsTo.own {target : Option RowChange} (rows : RowsTo w w' target)
    (own : ∀ change ∈ target, change.Own w.db.otpRequests customerId) (s : OtpRequest) :
    (s ∈ w'.db.otpRequests ↔ s ∈ w.db.otpRequests) ∨ s.customerId = customerId := by
  obtain ⟨change, step, written⟩ := rows
  generalize w'.db.otpRequests = rows' at step
  generalize w'.nextId = nextId' at step
  cases step with
  | same => exact Or.inl Iff.rfl
  | create row =>
    by_cases new : s = row
    · subst new
      exact Or.inr (own _ (written _ rfl))
    · exact Or.inl (by simp [new])
  | edit id f keeps => exact mem_update_or_own keeps (own _ (written _ rfl)) s
  | write id t f keeps => exact mem_update_or_own keeps (own _ (written _ rfl)) s

/-- A request of an application that the customer owns is the customer's. -/
theorem Accounts.own_request (accounts : Accounts w) (owns : Owns w applicationId customerId)
    {r : OtpRequest} (member : r ∈ w.db.otpRequests) (of_app : r.applicationId = applicationId) :
    r.customerId = customerId := by
  obtain ⟨app, there, of_id, of_customer⟩ := accounts.requestsBelong r member
  rw [← of_customer]
  exact owns.owner app there (of_id.trans of_app)

theorem Requested.own {key : OtpKey} {requestId : String} (requested : Requested env w.db key requestId)
    (accounts : Accounts w) (owns : Owns w key.1 customerId) :
    OwnRequest w.db customerId requestId := by
  obtain ⟨r, member, names, of_app, -⟩ := requested
  exact ⟨r, member, names, accounts.own_request owns member of_app⟩

/-- The rows with the id of a row of the customer's application. -/
private theorem own_rows (accounts : Accounts w) (ids : RowIds w.db.otpRequests w.nextId)
    (owns : Owns w applicationId customerId) {id : Id}
    (linked : ∃ r ∈ w.db.otpRequests, r.id = id ∧ r.applicationId = applicationId) :
    ∀ r ∈ w.db.otpRequests, r.id = id → r.customerId = customerId := by
  obtain ⟨s, there, of_id, of_app⟩ := linked
  intro r member same
  rw [ids.unique r member s there (Or.inl (same.trans of_id.symm))]
  exact accounts.own_request owns there of_app

theorem SendCall.target_own {c : SendCall} (ids : RowIds w.db.otpRequests w.nextId)
    (linked : (Thread.send c).Linked env w) {change : RowChange}
    (target : c.target env w = some change) : change.Own w.db.otpRequests c.customer.id := by
  have own {d : Dispatch} (dispatched : d ∈ c.pc.dispatch) :
      ∀ r ∈ w.db.otpRequests, r.id = d.record → r.customerId = c.customer.id := by
    obtain ⟨s, there, of_id, -, of_customer, -⟩ := linked d dispatched
    intro r member same
    rw [ids.unique r member s there (Or.inl (same.trans of_id.symm))]
    exact of_customer
  unfold SendCall.target at target
  split at target <;> cases target
  · rfl
  next pc => exact own (by rw [pc]; rfl)
  next pc => exact own (by rw [pc]; rfl)

theorem ResendCall.target_own {c : ResendCall} (accounts : Accounts w)
    (ids : RowIds w.db.otpRequests w.nextId) (owns : Owns w c.applicationId customerId)
    (linked : (Thread.resend c).Linked env w) {change : RowChange}
    (target : c.pc.target = some change) : change.Own w.db.otpRequests customerId := by
  have own {record : OtpRequest} (holds : record ∈ c.pc.record) :
      ∀ r ∈ w.db.otpRequests, r.id = record.id → r.customerId = customerId := by
    obtain ⟨of_app, r, member, same⟩ := linked.1 record holds
    exact own_rows accounts ids owns ⟨r, member, same.id, same.applicationId.trans of_app⟩
  unfold ResendPc.target at target
  split at target <;> cases target
  next pc => exact own_rows accounts ids owns (linked.2 _ pc)
  next pc => exact own (by rw [pc]; rfl)
  next pc => exact own (by rw [pc]; rfl)

theorem VerifyCall.record_own {c : VerifyCall} (accounts : Accounts w)
    (ids : RowIds w.db.otpRequests w.nextId) (owns : Owns w c.applicationId customerId)
    (linked : c.Linked env w) {f : Fetched} {id : Id} (held : f ∈ c.pc.held)
    (of_record : id ∈ c.pc.record) :
    (∃ r ∈ w.db.otpRequests, r.id = id) ∧
      ∀ r ∈ w.db.otpRequests, r.id = id → r.customerId = customerId := by
  obtain ⟨r, member, of_id, -, of_app⟩ := linked.record f held id of_record
  exact ⟨⟨r, member, of_id⟩, own_rows accounts ids owns ⟨r, member, of_id, of_app⟩⟩

theorem VerifyCall.target_own {c : VerifyCall} (accounts : Accounts w)
    (ids : RowIds w.db.otpRequests w.nextId) (owns : Owns w c.applicationId customerId)
    (linked : c.Linked env w) {change : RowChange} (target : c.pc.target = some change) :
    change.Own w.db.otpRequests customerId := by
  unfold VerifyPc.target at target
  split at target <;> cases target
  all_goals next f record pc =>
    exact (record_own accounts ids owns linked (by rw [pc]; rfl) (by rw [pc]; rfl)).2

theorem StatusCall.target_own {customer : Customer} {c : StatusCall} (accounts : Accounts w)
    (ids : RowIds w.db.otpRequests w.nextId) (owns : Owns w c.applicationId customerId)
    (linked : (Thread.status customer c).Linked env w) {change : RowChange}
    (target : c.pc.target = some change) : change.Own w.db.otpRequests customerId := by
  unfold StatusPc.target at target
  split at target <;> cases target
  next record pc =>
    obtain ⟨of_app, r, member, same⟩ := linked record pc
    exact own_rows accounts ids owns ⟨r, member, same.id, same.applicationId.trans of_app⟩

end Rows

/-! ### API-key requests -/

section Calls

variable {env : Env} {w w' : World} {a : Answer} {ok : Bool} {applicationId customerId : Id}
  {charged judged : Option Id} {saved : Option (Id × String)} {target : Option RowChange}

theorem TouchesOwn.of_call (tables : TablesStep w w' charged judged saved)
    (charge : charged = none ∨ charged = some customerId) (rows : RowsTo w w' target)
    (own : ∀ change ∈ target, change.Own w.db.otpRequests customerId)
    (judge : ∀ id ∈ judged, (∃ r ∈ w.db.otpRequests, r.id = id) ∧
      ∀ r ∈ w.db.otpRequests, r.id = id → r.customerId = customerId)
    (only : OnlyOf applicationId w w')
    (entries : ∀ key requestId, key.1 = applicationId → Holds w key requestId ∨ Holds w' key requestId →
      OwnRequest w'.db customerId requestId) : TouchesOwn customerId w w' := by
  refine ⟨fun app => Or.inl (by rw [tables.applications]), fun k => Or.inl (by rw [tables.apiKeys]),
    rows.own own, fun v => ?_, fun other apart => ?_, fun tier key data => ?_⟩
  · rcases tables.otpVerifications with same | ⟨row, grown, of_row⟩
    · exact Or.inl (by rw [same])
    · by_cases new : v = row
      · subst new
        right
        obtain ⟨⟨r, old, of_id⟩, own⟩ := judge _ of_row
        obtain ⟨s, member, same⟩ := rows.persists old
        exact ⟨s, member, same.id.trans of_id, same.customerId.trans (own r old of_id)⟩
      · exact Or.inl (by simp [grown, new])
  · refine tables.wallets other fun charges => ?_
    rcases charge with free | paid
    · rw [free] at charges
      cases charges
    · exact apart (Option.some.inj (charges.symm.trans paid))
  · by_cases of_app : key.1 = applicationId
    · by_cases before : storedAt w tier key = some data
      · exact Or.inr (entries key _ of_app (Or.inl (holds_of_storedAt before)))
      · by_cases after : storedAt w' tier key = some data
        · exact Or.inr (entries key _ of_app (Or.inr (holds_of_storedAt after)))
        · exact Or.inl (by simp [before, after])
    · exact Or.inl (by rw [only tier key of_app])

theorem SendCall.step_returns {c c' : SendCall} (h : c.step env w a = some (w', c'))
    {statusCode : ℕ} {response : SendResponse} (replied : c'.pc = .replied statusCode response) :
    (∃ d ∈ c.pc.dispatch, response.requestId = d.requestId) ∨
      Saved w c.applicationId response.requestId := by
  have move := (step_move h).1
  have finished (d : Dispatch) (after : c.finish env d = .replied statusCode response) :
      response.requestId = d.requestId := by
    unfold finish at after
    split at after <;> cases after
    rfl
  rw [replied] at move
  generalize c.pc = pc at move
  generalize end_pc : SendPc.replied statusCode response = pc' at move
  cases move with
  | hit key cached found =>
    cases end_pc
    exact Or.inr (.of_cachedResponse found)
  | known key cached found =>
    cases end_pc
    exact Or.inr (.of_recordedResponse found)
  | enqueue d | markSent d | refund d => exact Or.inl ⟨d, rfl, finished d end_pc.symm⟩
  | saveRecord d key =>
    cases end_pc
    exact Or.inl ⟨d, rfl, rfl⟩
  | early before after =>
    rcases after with rfl | ⟨k, -, rfl⟩ | ⟨-, rfl⟩ <;> cases end_pc
  | check before same after =>
    subst end_pc
    cases after
  | deliver d after =>
    rw [after] at end_pc
    split at end_pc <;> cases end_pc
  | _ => cases end_pc

theorem StatusCall.step_returns {customer : Customer} {c c' : StatusCall}
    (linked : (Thread.status customer c).Linked env w) (h : c.step w ok = some (w', c'))
    {shown : StatusView} (answered : c'.pc = .answered shown) :
    ∃ r ∈ w.db.otpRequests, r.requestId = shown.requestId ∧ r.applicationId = c.applicationId := by
  cases pc : c.pc with
  | findRecord =>
    simp only [step, pc] at h
    split at h
    · split at h
      · cases h
        cases answered
      next r found =>
        obtain ⟨member, -, of_app⟩ := Database.findOtpRequest_eq_some found
        split at h <;> cases h <;> cases answered
        exact ⟨r, member, rfl, of_app⟩
    · cases h
      cases answered
  | expire record =>
    simp only [step, pc] at h
    split at h <;> cases h <;> cases answered
    obtain ⟨of_app, r, member, same⟩ := linked record pc
    exact ⟨r, member, same.requestId, same.applicationId.trans of_app⟩
  | answered | rejected | internalError => simp [step, pc] at h

end Calls

/-! ### Dashboard requests -/

section Dashboard

variable {env : Env} {w w' : World} {ok : Bool} {customerId : Id}

theorem TouchesOwn.of_sameRequests (same : SameRequests w w')
    (applications : ∀ a, (a ∈ w'.db.applications ↔ a ∈ w.db.applications) ∨ a.customerId = customerId)
    (apiKeys : ∀ k, (k ∈ w'.db.apiKeys ↔ k ∈ w.db.apiKeys) ∨ k.customerId = customerId)
    (wallets : ∀ other, other ≠ customerId → w'.db.wallets other = w.db.wallets other) :
    TouchesOwn customerId w w' := by
  refine ⟨applications, apiKeys, fun r => Or.inl (by rw [same.rows]),
    fun v => Or.inl (by rw [same.otpVerifications]), wallets, fun tier key data => Or.inl ?_⟩
  simp only [storedAt, same.now, same.redis, same.memory]

theorem setWallet_other (db : Database) (wallet : Wallet) (other : Id) (apart : other ≠ customerId) :
    (db.setWallet customerId wallet).wallets other = db.wallets other := by
  simp [Database.setWallet, apart]

private theorem mem_append_or_own {α : Type} {rows : List α} {row : α} {own : α → Prop}
    (new : own row) (x : α) : (x ∈ rows ++ [row] ↔ x ∈ rows) ∨ own x := by
  by_cases last : x = row
  · exact Or.inr (last ▸ new)
  · exact Or.inl (by simp [last])

private theorem mem_filter_or_own {α : Type} {rows : List α} {kept : α → Bool} {own : α → Prop}
    (removed : ∀ x ∈ rows, kept x = false → own x) (x : α) :
    (x ∈ rows.filter kept ↔ x ∈ rows) ∨ own x := by
  by_cases foreign : own x
  · exact Or.inr foreign
  · refine Or.inl ⟨List.mem_of_mem_filter, fun member => List.mem_filter.mpr ⟨member, ?_⟩⟩
    by_contra gone
    exact foreign (removed x member (by simpa using gone))

theorem DashboardCall.handle_touchesOwn (c : DashboardCall) (customer : Customer) :
    TouchesOwn customer.id w (c.handle env w customer).1 := by
  have unchanged : TouchesOwn customer.id w w :=
    .of_sameRequests (.refl w) (fun _ => Or.inl Iff.rfl) (fun _ => Or.inl Iff.rfl) fun _ _ => rfl
  have paid (wallet : Wallet) : TouchesOwn customer.id w (w.mapDb (·.setWallet customer.id wallet)) :=
    .of_sameRequests ⟨rfl, rfl, rfl, le_refl _, rfl, rfl, rfl, rfl⟩ (fun _ => Or.inl Iff.rfl)
      (fun _ => Or.inl Iff.rfl) fun other apart => setWallet_other _ _ other apart
  cases request : c.request with
  | createApplication name =>
    simp only [handle, request, Database.createApplication]
    split
    next created =>
      split at created <;> cases created
      exact .of_sameRequests ⟨rfl, rfl, rfl, Nat.le_succ _, rfl, rfl, rfl, rfl⟩
        (mem_append_or_own rfl) (fun _ => Or.inl Iff.rfl) fun _ _ => rfl
    · exact unchanged
  | createApiKey applicationId name rawSecret =>
    simp only [handle, request, Database.createApiKey]
    split
    next created =>
      split at created <;> cases created
      exact .of_sameRequests ⟨rfl, rfl, rfl, Nat.le_succ _, rfl, rfl, rfl, rfl⟩
        (fun _ => Or.inl Iff.rfl) (mem_append_or_own rfl) fun _ _ => rfl
    · exact unchanged
  | topup amount referenceId =>
    simp only [handle, request]
    split
    · exact paid _
    · exact unchanged
    · exact unchanged
  | account accountRequest =>
    cases accountRequest <;> simp only [handle, request]
    · exact paid _
    · exact paid _
    · exact unchanged
  | transactions =>
    simp only [handle, request]
    exact paid _
  | getApplication | deleteApplication | revokeApiKey =>
    simp only [handle, request]
    split <;> exact unchanged
  | listApplications | listApiKeys =>
    simp only [handle, request]
    exact unchanged

theorem DashboardCall.step_touchesOwn {c c' : DashboardCall} (accounts : Accounts w)
    (owned : c.pc.Owned w) {customer : Customer} (authenticated : c.pc.customer = some customer)
    (h : c.step env w ok = some (w', c')) : TouchesOwn customer.id w w' := by
  have unchanged : TouchesOwn customer.id w w :=
    .of_sameRequests (.refl w) (fun _ => Or.inl Iff.rfl) (fun _ => Or.inl Iff.rfl) fun _ _ => rfl
  cases pc : c.pc with
  | authenticate sub jwt =>
    rw [pc] at authenticated
    cases authenticated
  | handle caller =>
    rw [pc] at authenticated
    cases authenticated
    simp only [step, pc] at h
    split at h
    · have touches : TouchesOwn customer.id w (c.handle env w customer).1 :=
        c.handle_touchesOwn customer
      rw [Option.some.inj h] at touches
      exact touches
    · cases h
      exact unchanged
  | deleteApplication caller app =>
    rw [pc] at authenticated owned
    cases authenticated
    simp only [step, pc, Database.deleteApplication] at h
    split at h <;> cases h
    next deleted =>
      split at deleted
      · split at deleted <;> cases deleted
        refine .of_sameRequests ⟨rfl, rfl, rfl, le_refl _, rfl, rfl, rfl, rfl⟩
          (mem_filter_or_own fun a member gone => ?_) (mem_filter_or_own fun k member gone => ?_)
          fun _ _ => rfl
        · exact owned.owner a member (by simpa using gone)
        · -- a key that goes with the application
          have of_app : k.applicationId = app.id := by simpa using gone
          obtain ⟨a, there, of_id, of_customer⟩ := accounts.keysBelong k member
          rw [← of_customer]
          exact owned.owner a there (of_id.trans of_app)
      · cases deleted
    · exact unchanged
  | revokeApiKey caller apiKey =>
    rw [pc] at authenticated owned
    cases authenticated
    simp only [step, pc] at h
    split at h <;> cases h
    · refine .of_sameRequests ⟨rfl, rfl, rfl, le_refl _, rfl, rfl, rfl, rfl⟩
        (fun _ => Or.inl Iff.rfl) (fun k => ?_) fun _ _ => rfl
      by_cases foreign : k.customerId = customer.id
      · exact Or.inr foreign
      refine Or.inl ⟨fun member => ?_, fun member => ?_⟩
      · obtain ⟨j, old, rfl⟩ := List.mem_map.mp member
        split at foreign
        next here => exact absurd (owned.owner j old here) foreign
        next apart => rwa [if_neg apart]
      · have apart : k.id ≠ apiKey.id := fun here => foreign (owned.owner k member here)
        exact List.mem_map.mpr ⟨k, member, if_neg apart⟩
    · exact unchanged
  | readWallet caller newBalance =>
    rw [pc] at authenticated
    cases authenticated
    simp only [step, pc] at h
    split at h <;> cases h
    · exact .of_sameRequests ⟨rfl, rfl, rfl, le_refl _, rfl, rfl, rfl, rfl⟩
        (fun _ => Or.inl Iff.rfl) (fun _ => Or.inl Iff.rfl)
        fun other apart => setWallet_other _ _ other apart
    · exact unchanged
  | readTransactions | countVerified | countFailed =>
    simp only [step, pc] at h
    split at h <;> cases h <;> exact unchanged
  | answered | rejected | internalError => simp [step, pc] at h

theorem DashboardCall.handle_returnsOwn {c : DashboardCall} {customer caller : Customer}
    {answer : DashboardAnswer}
    (answered : (c.handle env w customer).2.pc = .answered caller answer) :
    answer.Own (c.handle env w customer).1.db customer.id := by
  cases request : c.request with
  | listApplications =>
    simp only [handle, request] at answered ⊢
    cases answered
    intro a member
    have kept := List.mem_filter.mp (List.mem_reverse.mp member)
    exact ⟨kept.1, by simpa using kept.2⟩
  | getApplication appId =>
    simp only [handle, request] at answered ⊢
    split at answered <;> cases answered
    next app found =>
      have selected := List.find?_some found
      simp only [Bool.and_eq_true, beq_iff_eq] at selected
      exact ⟨List.mem_of_find?_eq_some found, selected.2⟩
  | createApplication name =>
    simp only [handle, request] at answered ⊢
    split at answered <;> cases answered
    next db created =>
      unfold Database.createApplication at created
      split at created <;> cases created
      exact ⟨List.mem_append_right _ (List.mem_singleton_self _), rfl⟩
  | createApiKey applicationId name rawSecret =>
    simp only [handle, request] at answered ⊢
    split at answered <;> cases answered
    next db created =>
      unfold Database.createApiKey at created
      split at created <;> cases created
      exact ⟨List.mem_append_right _ (List.mem_singleton_self _), rfl⟩
  | listApiKeys =>
    simp only [handle, request] at answered ⊢
    cases answered
    intro k member
    have kept := List.mem_filter.mp (List.mem_reverse.mp member)
    have selected := kept.2
    simp only [Bool.and_eq_true, beq_iff_eq] at selected
    exact ⟨kept.1, selected.1⟩
  | account accountRequest =>
    cases accountRequest <;> simp only [handle, request] at answered ⊢ <;> cases answered
    · simp [DashboardAnswer.Own, openWallet, Database.setWallet]
    · simp [DashboardAnswer.Own, openWallet, Database.setWallet]
  | deleteApplication | revokeApiKey | topup =>
    simp only [handle, request] at answered
    split at answered <;> cases answered
  | transactions =>
    simp only [handle, request] at answered
    cases answered

theorem DashboardCall.step_returnsOwn {c c' : DashboardCall} {customer caller : Customer}
    {answer : DashboardAnswer} (authenticated : c.pc.customer = some customer)
    (h : c.step env w ok = some (w', c')) (answered : c'.pc = .answered caller answer) :
    answer.Own w'.db customer.id := by
  cases pc : c.pc with
  | authenticate sub jwt =>
    rw [pc] at authenticated
    cases authenticated
  | handle other =>
    rw [pc] at authenticated
    cases authenticated
    simp only [step, pc] at h
    split at h
    · have handled : c.handle env w customer = (w', c') := Option.some.inj h
      have returns : answer.Own (c.handle env w customer).1.db customer.id :=
        handle_returnsOwn (by rw [handled]; exact answered)
      rw [handled] at returns
      exact returns
    · cases h
      cases answered
  | deleteApplication other app =>
    simp only [step, pc] at h
    split at h <;> cases h <;> cases answered
    trivial
  | revokeApiKey other apiKey =>
    simp only [step, pc] at h
    split at h <;> cases h <;> cases answered
    trivial
  | readWallet other newBalance =>
    rw [pc] at authenticated
    cases authenticated
    simp only [step, pc] at h
    split at h <;> cases h <;> cases answered
    simp [DashboardAnswer.Own, openWallet, Database.setWallet]
  | readTransactions other =>
    rw [pc] at authenticated
    cases authenticated
    simp only [step, pc] at h
    split at h <;> cases h <;> cases answered
    intro x member
    exact List.mem_reverse.mp (List.mem_of_mem_take member)
  | countVerified other total =>
    simp only [step, pc] at h
    split at h <;> cases h <;> cases answered
  | countFailed other total verified =>
    rw [pc] at authenticated
    cases authenticated
    simp only [step, pc] at h
    split at h <;> cases h <;> cases answered
    rfl
  | answered | rejected | internalError => simp [step, pc] at h

end Dashboard

/-! ### Runs -/

/-- What holds in every state that is reached with keys for own applications only. -/
structure Tenants (env : Env) (p : System) : Prop where
  filed : Filed env p
  accounts : Accounts p.shared
  owned : ∀ t ∈ p.threads, t.Owned p.shared
  responses : ∀ applicationId requestId, Saved p.shared applicationId requestId →
    ∃ r ∈ p.shared.db.otpRequests, r.requestId = requestId ∧ r.applicationId = applicationId

section Runs

variable {env : Env} {p q : System}

theorem Thread.external_owned {w w' : World} {event : SystemEvent} {born : List Thread}
    (h : Thread.external w event = some (w', born)) : ∀ t ∈ born, t.Owned w' := by
  cases event with
  | tick d =>
    cases h
    intro t h
    cases h
  | api rawApiKey request =>
    cases h
    intro t member
    cases List.mem_singleton.mp member
    intro s present
    unfold AuthCall.start at present
    split at present <;> cases present
  | takeSendOtpJob i =>
    simp only [external] at h
    split at h <;> cases h
    intro t member
    cases List.mem_singleton.mp member
    trivial
  | dashboard | register | processWebhook =>
    cases h
    intro t member
    cases List.mem_singleton.mp member
    trivial

theorem Tenants.step (tenants : Tenants env p) {l : SystemLabel} (own : CreatesOwnKeys p l)
    (taken : Pool.step (systemProgram env) p l = some q) : Tenants env q := by
  have filed := tenants.filed.step taken
  cases l with
  | resume i a =>
    obtain ⟨t, w', u, found, resumed, rfl⟩ := step_resume taken
    simp only [systemProgram] at resumed
    have running := List.mem_of_getElem? found
    have rows := Thread.resume_rows resumed
    obtain ⟨⟨step, accounts⟩, moved⟩ := Thread.resume_accounts tenants.accounts
      (tenants.owned t running) (own t found) resumed
    refine ⟨filed, accounts, fun v there => ?_, fun app requestId saved => ?_⟩
    · rcases List.mem_or_eq_of_mem_set there with old | rfl
      · exact (tenants.owned v old).mono step
      · exact moved
    · rcases Thread.resume_saved resumed saved with old | ⟨c, rfl, saves⟩
      · obtain ⟨r, member, names, of_app⟩ := tenants.responses app requestId old
        obtain ⟨s, kept, same⟩ := rows.persists member
        exact ⟨s, kept, same.requestId.trans names, same.applicationId.trans of_app⟩
      · -- the response that is saved names the row of the send
        unfold SendCall.saves at saves
        split at saves <;> cases saves
        all_goals next d key pc =>
          obtain ⟨r, member, -, names, -, of_app, -⟩ :=
            tenants.filed.threads _ running d (by rw [pc]; rfl)
          obtain ⟨s, kept, same⟩ := rows.persists member
          exact ⟨s, kept, same.requestId.trans names, same.applicationId.trans of_app⟩
  | external d =>
    obtain ⟨w', born, acted, rfl⟩ := step_external taken
    have same : External env p.shared w' born := Thread.external_cases acted
    obtain ⟨step, accounts⟩ := tenants.accounts.same_tables same.nextId.ge
      (by rw [same.db]) (by rw [same.db]) (by rw [same.db])
    refine ⟨filed, accounts, fun v there => ?_, fun app requestId saved => ?_⟩
    · rcases List.mem_append.mp there with old | new
      · exact (tenants.owned v old).mono step
      · exact Thread.external_owned acted v new
    · rw [Saved, same.db, same.redis, same.memory] at saved
      simp only [same.db]
      exact tenants.responses app requestId saved

theorem Registered.tenants (registered : Registered p) : Tenants env p := by
  refine ⟨registered.unused.filed, ⟨registered.applications, registered.apiKeyIds,
    registered.apiKeys, ?_⟩, ?_, fun app requestId saved => ?_⟩
  · rw [registered.unused.rows]
    intro r h
    cases h
  · rw [registered.unused.threads]
    intro t h
    cases h
  · rcases saved with ⟨key, cell, there, -⟩ | ⟨process, key, response, there, -⟩ | ⟨row, member, -⟩
    · rw [registered.redis] at there
      cases there
    · rw [registered.memory] at there
      cases there
    · rw [registered.idempotencyKeys] at member
      cases member

/-- The next step of an authenticated request keeps to the rows of its customer. -/
theorem Tenants.request (tenants : Tenants env p) {i : ℕ} {a : Answer} {t : Thread}
    {customer : Customer} (found : p.threads[i]? = some t) (authenticated : t.customer = some customer)
    (taken : Pool.step (systemProgram env) p (.resume i a) = some q) :
    TouchesOwn customer.id p.shared q.shared ∧
      ∀ u ∈ q.threads[i]?, u.ReturnsOwn q.shared.db customer.id := by
  have filed := tenants.filed.step taken
  obtain ⟨t', w', u, found', resumed, rfl⟩ := step_resume taken
  obtain rfl : t = t' := Option.some.inj (found.symm.trans found')
  simp only [systemProgram] at resumed
  have running := List.mem_of_getElem? found
  have inside := (List.getElem?_eq_some_iff.mp found).1
  have linked := tenants.filed.threads t running
  have linked' := filed.threads u (List.mem_set inside u)
  have owned := tenants.owned t running
  have rows := Thread.resume_rows resumed
  have ids := tenants.filed.rows
  simp only [List.getElem?_set_self inside, Option.mem_def, Option.some.injEq]
  -- an entry of the caller's application names a request of the caller
  have entries (accounts : Accounts w') {applicationId : Id}
      (owns : Owns w' applicationId customer.id) (key : OtpKey) (requestId : String)
      (of_app : key.1 = applicationId) (held : Holds p.shared key requestId ∨ Holds w' key requestId) :
      OwnRequest w'.db customer.id requestId := by
    have requested : Requested env w'.db key requestId := by
      rcases held with before | after
      · exact (tenants.filed.entries key requestId before).mono rows
      · exact filed.entries key requestId after
    exact requested.own accounts (of_app ▸ owns)
  cases t with
  | send c =>
    cases authenticated
    obtain ⟨⟨step, accounts⟩, moved⟩ :=
      Thread.resume_accounts tenants.accounts owned (by simp [Thread.handling]) resumed
    obtain ⟨c', stepped, rfl⟩ := Thread.stepped_eq_some resumed
    have owns : Owns w' c.applicationId c.customer.id := Owns.mono owned step
    refine ⟨.of_call (SendCall.step_tables stepped) (Or.inr rfl) rows
      (fun change => SendCall.target_own ids linked) (by simp)
      (SendCall.step_onlyOf tenants.filed.objects stepped) (entries accounts owns), ?_⟩
    rintro _ rfl statusCode response replied
    -- it shows the request it has created, or a response saved under its application
    rcases SendCall.step_returns stepped replied with ⟨d, dispatched, names⟩ | saved
    · obtain ⟨r, member, -, of_request, of_customer, -⟩ := linked d dispatched
      obtain ⟨s, kept, same⟩ := rows.persists member
      exact ⟨s, kept, same.requestId.trans (of_request.trans names.symm),
        same.customerId.trans of_customer⟩
    · obtain ⟨r, member, names, of_app⟩ := tenants.responses _ _ saved
      obtain ⟨s, kept, same⟩ := rows.persists member
      exact ⟨s, kept, same.requestId.trans names,
        accounts.own_request owns kept (same.applicationId.trans of_app)⟩
  | verify caller c =>
    cases authenticated
    obtain ⟨⟨step, accounts⟩, moved⟩ :=
      Thread.resume_accounts tenants.accounts owned (by simp [Thread.handling]) resumed
    obtain ⟨c', stepped, rfl⟩ := Thread.stepped_eq_some resumed
    have owns : Owns w' c.applicationId customer.id := Owns.mono owned step
    refine ⟨.of_call (VerifyCall.step_tables stepped) (Or.inl rfl) rows
      (fun change => VerifyCall.target_own tenants.accounts ids owned linked) (fun id judged => ?_)
      (VerifyCall.step_onlyOf linked stepped) (entries accounts owns), ?_⟩
    · unfold VerifyPc.judged at judged
      split at judged <;> cases judged
      all_goals next pc =>
        exact VerifyCall.record_own tenants.accounts ids owned linked (by rw [pc]; rfl)
          (by rw [pc]; rfl)
    · rintro _ rfl result verified
      exact (VerifyCall.Linked.answered linked' result verified).own accounts moved
  | resend c =>
    cases authenticated
    obtain ⟨⟨step, accounts⟩, moved⟩ :=
      Thread.resume_accounts tenants.accounts owned (by simp [Thread.handling]) resumed
    obtain ⟨c', stepped, rfl⟩ := Thread.stepped_eq_some resumed
    have owns : Owns w' c.applicationId c.customer.id := Owns.mono owned step
    refine ⟨.of_call (ResendCall.step_tables stepped) (Or.inr rfl) rows
      (fun change => ResendCall.target_own tenants.accounts ids owned linked) (by simp)
      (ResendCall.step_onlyOf tenants.filed.objects stepped) (entries accounts owns), ?_⟩
    rintro _ rfl d replied
    -- the record it holds is a row of its application
    obtain ⟨of_app, r, member, same⟩ := linked'.1 d.record (by rw [replied]; rfl)
    rw [(ResendCall.step_move stepped).2] at of_app
    exact ⟨r, member, same, accounts.own_request owns member (same.applicationId.trans of_app)⟩
  | status caller c =>
    cases authenticated
    obtain ⟨⟨step, accounts⟩, moved⟩ :=
      Thread.resume_accounts tenants.accounts owned (by simp [Thread.handling]) resumed
    obtain ⟨c', stepped, rfl⟩ := Thread.stepped_eq_some resumed
    have owns : Owns w' c.applicationId customer.id := Owns.mono owned step
    have stores := StatusCall.step_sameStores stepped
    refine ⟨.of_call (StatusCall.step_tables stepped) (Or.inl rfl) rows
      (fun change => StatusCall.target_own tenants.accounts ids owned linked) (by simp)
      (.of_stores stores.now stores.redis stores.memory) (entries accounts owns), ?_⟩
    rintro _ rfl shown answered
    -- what is shown is a row of its application
    obtain ⟨r, member, names, of_app⟩ := StatusCall.step_returns linked stepped answered
    obtain ⟨s, kept, same⟩ := rows.persists member
    exact ⟨s, kept, same.requestId.trans names,
      accounts.own_request owns kept (same.applicationId.trans of_app)⟩
  | dashboard c =>
    obtain ⟨c', stepped, rfl⟩ := Thread.stepped_eq_some resumed
    refine ⟨DashboardCall.step_touchesOwn tenants.accounts owned authenticated stepped, ?_⟩
    rintro _ rfl caller answer answered
    exact DashboardCall.step_returnsOwn authenticated stepped answered
  | authenticating | register | sendOtpJob | webhook => cases authenticated

/-- In every state of a run in which API keys are created for own applications only, tenants
are isolated. -/
theorem tenants_isolated_of_createsOwnKeys {es : List SystemLabel} (registered : Registered p)
    (respects : Respects (Pool.step (systemProgram env)) CreatesOwnKeys p es)
    (ran : run (Pool.step (systemProgram env)) p es = some q) : TenantsIsolated env q := by
  have tenants : Tenants env q := run_invariant_of_respects (Tenants env)
    (fun _ _ _ inv own taken => inv.step own taken) registered.tenants respects ran
  exact ⟨tenants.accounts.keysBelong, fun i a t customer q' found authenticated taken =>
    tenants.request found authenticated taken⟩

end Runs

section Sample

instance {w : World} {c : DashboardCall} {customer : Customer} : Decidable (c.NamesOwn w customer) :=
  inferInstanceAs (Decidable (∀ applicationId ∈ c.request.keyApplication, ∀ app ∈ w.db.applications,
    app.id = applicationId → app.customerId = customer.id))

instance : DecidableRel CreatesOwnKeys
  | p, .resume i a => inferInstanceAs (Decidable (∀ t ∈ p.threads[i]?, ∀ x ∈ t.handling,
      a.ok = true → x.1.NamesOwn p.shared x.2))
  | _, .external _ => isTrue trivial

instance {db : Database} {customerId : Id} {requestId : String} :
    Decidable (OwnRequest db customerId requestId) :=
  inferInstanceAs (Decidable (∃ r ∈ db.otpRequests, r.requestId = requestId ∧ r.customerId = customerId))

/-- Acme has an API key; Beta has an application of its own and a user. -/
def twoTenants : System :=
  ⟨{ sampleSystem.shared with
      db := { sampleSystem.shared.db with
        customers := [⟨1, "Acme", "it@acme.test", .active⟩, ⟨4, "Beta", "it@beta.test", .active⟩]
        users := [⟨5, "it@beta.test", .active⟩]
        customerUsers := [⟨4, 5⟩]
        applications := [⟨2, 1, "Acme - Default", none⟩, ⟨6, 4, "Beta - Default", none⟩] } }, []⟩

theorem twoTenants_registered : Registered twoTenants := by
  refine ⟨⟨rfl, rfl, rfl, fun _ => rfl, fun _ _ => rfl⟩, fun _ => rfl, fun _ _ => rfl, rfl,
    fun a member => ⟨?_, ?_⟩, fun k member => ⟨?_, ?_⟩, fun k member => ?_⟩
  · revert a member
    decide
  · revert a member
    decide
  · revert k member
    decide
  · revert k member
    decide
  · unfold Belongs
    revert k member
    decide

/-- Acme sends a code, Beta creates an API key for `applicationId`, and asks with that key for
the status of Acme's request. -/
def probe (applicationId : Id) : List SystemLabel :=
  .external (.api (some "wotp_live_00") ⟨.send ⟨"+4915112345678", none, 300, "otp_auth_v1", "en_US"⟩
    none, "198.51.100.7", none, 0, 7, 0⟩) :: resolve 0 29 ++
  .external (.dashboard 5 (.createApiKey applicationId "probe" "ff")) :: resolve 1 3 ++
  .external (.api (some "wotp_live_ff") ⟨.status "req_000000000000000000000007", "203.0.113.9", none,
    0, 0, 0⟩) :: resolve 2 5

/-- The request id that an answered status request shows. -/
def Thread.shown : Thread → Option String
  | status _ c =>
    match c.pc with
    | .answered view => some view.requestId
    | _ => none
  | _ => none

theorem Thread.ReturnsOwn.shown {db : Database} {customerId : Id} {t : Thread} {requestId : String}
    (own : t.ReturnsOwn db customerId) (shown : t.shown = some requestId) :
    OwnRequest db customerId requestId := by
  cases t with
  | status customer c =>
    simp only [Thread.shown] at shown
    split at shown <;> cases shown
    next view pc => exact own view pc
  | authenticating | send | verify | resend | dashboard | register | sendOtpJob | webhook =>
    cases shown

end Sample

/-- Beta's key is for Beta's own application. -/
theorem tenants_isolated_of_own_key :
    ∃ q, run (Pool.step (systemProgram OtpPool.sampleEnv)) twoTenants (probe 6) = some q ∧
      TenantsIsolated OtpPool.sampleEnv q :=
  ⟨_, (Option.some_get (by decide +kernel)).symm,
    tenants_isolated_of_createsOwnKeys twoTenants_registered (by decide +kernel)
      (Option.some_get (by decide +kernel)).symm⟩

/-- With a key that Beta has created for Acme's application, Beta is shown Acme's request. -/
theorem foreign_request_shown :
    ¬∀ (env : Env) (p q : System) (es : List SystemLabel), Registered p →
      run (Pool.step (systemProgram env)) p es = some q → TenantsIsolated env q := by
  intro isolated
  have shows := (isolated OtpPool.sampleEnv twoTenants _ (probe 2) twoTenants_registered
    (Option.some_get (by decide +kernel)).symm).requests 2 .resolved _
      ⟨4, "Beta", "it@beta.test", .active⟩ _ (Option.some_get (by decide +kernel)).symm
      (by decide +kernel) (Option.some_get (by decide +kernel)).symm
  have own : OwnRequest _ _ "req_000000000000000000000007" :=
    (shows.2 _ (Option.some_get (by decide +kernel)).symm).shown (by decide +kernel)
  revert own
  decide +kernel

end SelfOtp
