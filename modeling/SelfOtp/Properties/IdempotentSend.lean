import SelfOtp.Properties.DispatchMoves
import SelfOtp.Properties.OtpPool
import SelfOtp.Properties.Wallet

/-! Sends that carry one idempotency key. -/
namespace SelfOtp

/-- Past the first part of the look-up, and not answered. -/
def SendPc.inFlight : SendPc → Bool
  | idempotencyRecord _ | limit .. | cooldown | create .. => true
  | pc => pc.dispatch.isSome

namespace IdempotentSend

open Pool Transition WalletService

/-! ### Debits, dispatches and answers -/

/-- Debit entries in the ledger of a customer. -/
def debits (w : World) (customerId : Id) : ℕ :=
  (getOrCreateWallet (w.db.wallets customerId)).transactions.countP (·.transactionType == .debit)

/-- Messages handed to the queue or to the provider. -/
def dispatches (w : World) : ℕ := w.otpQueue.length + w.provider.length

def answer : Thread → Option SendResponse
  | .send c =>
    match c.pc with
    | .replied _ response => some response
    | _ => none
  | _ => none

/-- Since `w` one wallet has been debited once at most and one message dispatched at most,
and all successful answers name one request. -/
structure SentOnce (w : World) (p : System) : Prop where
  debited : ∃ customerId, debits p.shared customerId ≤ debits w customerId + 1 ∧
    ∀ other, other ≠ customerId → debits p.shared other = debits w other
  dispatched : dispatches p.shared ≤ dispatches w + 1
  answers : ∀ t ∈ p.threads, ∀ u ∈ p.threads, ∀ r ∈ answer t, ∀ s ∈ answer u,
    s.requestId = r.requestId

/-! ### The runs -/

def idempotencyKey : Endpoint → Option String
  | .send _ key => key
  | _ => none

/-- A send with the key, by an API key of the application. -/
def Carries (env : Env) (app : Id) (key : String) (db : Database) (rawApiKey : Option String)
    (request : ApiRequest) : Prop :=
  idempotencyKey request.endpoint = some key ∧
    ∀ found ∈ db.findApiKey (hashApiKey env (rawApiKey.getD "")), found.2.1.id = app

/-- Only such sends arrive, and time passes. -/
def OnlyKey (env : Env) (app : Id) (key : String) (p : System) : SystemLabel → Prop
  | .resume .. => True
  | .external (.tick _) => True
  | .external (.api rawApiKey request) => Carries env app key p.shared.db rawApiKey request
  | .external (.dashboard ..) => False
  | .external (.register ..) => False
  | .external (.takeSendOtpJob _) => False
  | .external (.processWebhook ..) => False

/-- The awaited call is `otpQueue.add`. -/
def enqueuing : Thread → Bool
  | .send c =>
    match c.pc with
    | .enqueue _ => true
    | _ => false
  | _ => false

/-- Redis, the database and the provider answer; the queue may refuse the job. -/
def Reachable (p : System) : SystemLabel → Prop
  | .resume i a => ∀ t ∈ p.threads[i]?, enqueuing t = true ∨ a.ok = true
  | .external _ => True

/-- The send is about to look its key up. -/
def lookingUp : Thread → Option SendCall
  | .send c =>
    match c.pc with
    | .idempotencyCache _ => some c
    | _ => none
  | _ => none

/-- The send has started to look its key up and has not answered. -/
def inFlight : Thread → Bool
  | .send c => c.pc.inFlight
  | _ => false

/-- The send was answered with 202. -/
def accepted : Thread → Bool
  | .send c =>
    match c.pc with
    | .replied statusCode _ => statusCode == 202
    | _ => false
  | _ => false

/-- A send looks its key up only while no other one is between its own look-up and its answer.
A key too long for the database is looked up only before the first 202 answer or where that
answer is still cached. -/
def LooksUpAlone (app : Id) (key : String) (p : System) : SystemLabel → Prop
  | .resume i a => ∀ t ∈ p.threads[i]?, ∀ c ∈ lookingUp t,
    (∀ u ∈ p.threads, inFlight u = false) ∧
      (key.length ≤ 255 ∨ (∀ u ∈ p.threads, accepted u = false) ∨
        (cachedResponse p.shared c.process app key a.ok).isSome = true)
  | .external _ => True

/-- No response is saved under the key, and nothing runs. -/
def Fresh (app : Id) (key : String) (p : System) : Prop :=
  p.threads = [] ∧ p.shared.redis.idempotency (app, key) = none ∧
    (∀ process, (p.shared.memory process).idempotency (app, key) = none) ∧
    ∀ row ∈ p.shared.db.idempotencyKeys, ¬(row.applicationId = app ∧ row.idempotencyKey = key)

/-! ### Positions of a send -/

/-- Not past its debit, and not answered. -/
def unpaid : SendPc → Bool
  | .customerBlocked | .phoneBlocked | .idempotencyCache _ | .idempotencyRecord _ | .limit ..
  | .cooldown | .create .. | .debit _ | .rejected _ | .internalError => true
  | _ => false

/-- Before its look-up, or given up. -/
def idle : SendPc → Bool
  | .customerBlocked | .phoneBlocked | .idempotencyCache _ | .rejected _ | .internalError => true
  | _ => false

/-- Debited and not yet answered. -/
def paid : SendPc → Option Dispatch
  | .store d | .setCooldown d | .enqueue d | .fallback d | .fallbackSent d | .fallbackFailed d _
  | .fallbackRefund d _ | .saveCache d _ | .saveRecord d _ => some d
  | _ => none

/-- How often the send has handed its message over. -/
def handedOver : SendPc → ℕ
  | .fallbackSent _ | .fallbackFailed .. | .fallbackRefund .. | .saveCache .. | .saveRecord .. => 1
  | _ => 0

/-! ### What is saved under the key -/

def Saved (app : Id) (key : String) (w : World) (response : SendResponse) : Prop :=
  (∃ cell, w.redis.idempotency (app, key) = some cell ∧ cell.value = response) ∨
    (∃ process, (w.memory process).idempotency (app, key) = some response) ∨
    ∃ row ∈ w.db.idempotencyKeys, row.applicationId = app ∧ row.idempotencyKey = key ∧
      row.responseBody = response

variable {env : Env} {app : Id} {key : String} {w w' : World} {a : Answer}

theorem saved_of_cached {process : ℕ} {ok : Bool} {response : SendResponse}
    (found : cachedResponse w process app key ok = some response) : Saved app key w response := by
  unfold cachedResponse at found
  split at found
  next cached got =>
    cases found
    cases ok with
    | false => simp at got
    | true =>
      obtain ⟨cell, stored, -, value⟩ := ExpiringMap.get_eq_some.mp (by simpa using got)
      exact Or.inl ⟨cell, stored, value⟩
  · exact Or.inr (Or.inl ⟨process, found⟩)

theorem saved_of_recorded {endpoint : String} {ok : Bool} {response : SendResponse}
    (found : recordedResponse w app key endpoint ok = some response) :
    Saved app key w response := by
  unfold recordedResponse at found
  split at found
  · obtain ⟨row, at_row, body⟩ := Option.map_eq_some_iff.mp found
    have member := List.mem_of_find?_eq_some at_row
    have selected := List.find?_some at_row
    simp only [Bool.and_eq_true, beq_iff_eq] at selected
    exact Or.inr (Or.inr ⟨row, member, selected.1.1, selected.1.2, body⟩)
  · cases found

theorem saved_cacheResponse {process : ℕ} {ok : Bool} {response r : SendResponse}
    (saved : Saved app key (cacheResponse w process app key response ok) r) :
    Saved app key w r ∨ r = response := by
  unfold cacheResponse at saved
  dsimp only at saved
  rcases saved with ⟨cell, stored, value⟩ | ⟨other, stored⟩ | recorded
  · rw [World.mapMemory_redis] at stored
    split at stored
    next idempotency set =>
      obtain ⟨-, rfl⟩ := ExpiringMap.sent_setEx_eq_some set
      simp only [World.mapRedis_redis, ExpiringMap.put, Function.update_self] at stored
      cases stored
      exact Or.inr value.symm
    · exact Or.inl (Or.inl ⟨cell, stored, value⟩)
  · rw [World.mapMemory_memory] at stored
    split at stored
    · simp only [Function.update_self] at stored
      cases stored
      exact Or.inr rfl
    · left
      right
      left
      refine ⟨other, ?_⟩
      split at stored <;> exact stored
  · left
    right
    right
    simp only [World.mapMemory_db] at recorded
    split at recorded <;> exact recorded

theorem saved_recordResponse {row : IdempotencyKey} {ok : Bool} {r : SendResponse}
    (saved : Saved app key (recordResponse w row ok) r) :
    Saved app key w r ∨ r = row.responseBody := by
  unfold recordResponse at saved
  split at saved
  · rcases saved with cached | remembered | ⟨stored, member, of_app, of_key, body⟩
    · exact Or.inl (Or.inl cached)
    · exact Or.inl (Or.inr (Or.inl remembered))
    · rcases List.mem_append.mp member with old | new
      · exact Or.inl (Or.inr (Or.inr ⟨stored, old, of_app, of_key, body⟩))
      · cases List.mem_singleton.mp new
        exact Or.inr body.symm
  · exact Or.inl saved

/-! ### Steps that leave the books alone -/

/-- No debit, no dispatch and no saved response. -/
structure SameBooks (app : Id) (key : String) (w w' : World) : Prop where
  debits : ∀ customerId, debits w' customerId = debits w customerId
  dispatches : dispatches w' = dispatches w
  saved : ∀ r, Saved app key w' r → Saved app key w r
  recorded : w'.db.idempotencyKeys = w.db.idempotencyKeys
  applications : w'.db.applications = w.db.applications
  customers : w'.db.customers = w.db.customers
  apiKeys : w'.db.apiKeys = w.db.apiKeys

theorem SameBooks.of_core (same : SameCore w w') : SameBooks app key w w' := by
  refine ⟨fun x => by rw [IdempotentSend.debits, same.db]; rfl, ?_, fun r saved => ?_, by rw [same.db],
    by rw [same.db], by rw [same.db], by rw [same.db]⟩
  · rw [IdempotentSend.dispatches, same.otpQueue, same.provider]
    rfl
  · rcases saved with ⟨cell, stored, value⟩ | ⟨process, stored⟩ | recorded
    · rw [same.idempotency] at stored
      exact Or.inl ⟨cell, stored, value⟩
    · rw [(same.memory process).2.2.2] at stored
      exact Or.inr (Or.inl ⟨process, stored⟩)
    · rw [same.db] at recorded
      exact Or.inr (Or.inr recorded)

/-- A change to `otp_requests` alone. -/
theorem SameBooks.of_requests {rows : List OtpRequest} (nextId : Id) :
    SameBooks app key w { w with db := { w.db with otpRequests := rows }, nextId := nextId } :=
  ⟨fun _ => rfl, rfl, fun _ saved => saved, rfl, rfl, rfl, rfl⟩

theorem SameBooks.of_storeOtp {process : ℕ} {k : OtpKey} {data : StoredOtp} {ttlSeconds : ℚ}
    {ok : Bool} : SameBooks app key w (storeOtp w process k data ttlSeconds ok) := by
  unfold storeOtp
  split
  · exact ⟨fun _ => rfl, rfl, fun _ saved => saved, rfl, rfl, rfl, rfl⟩
  · refine ⟨fun _ => rfl, rfl, fun r saved => ?_, rfl, rfl, rfl, rfl⟩
    rcases saved with cached | ⟨other, stored⟩ | recorded
    · exact Or.inl cached
    · rw [World.mapMemory_memory] at stored
      refine Or.inr (Or.inl ⟨other, ?_⟩)
      split at stored
      next same =>
        subst same
        exact stored
      · exact stored
    · exact Or.inr (Or.inr recorded)

/-- A refund is no debit. -/
theorem SameBooks.of_refund {customerId : Id} {cost balance : ℚ} {type id reason : String}
    {wallet : Wallet}
    (granted : refundCredits resolves (w.db.wallets customerId) cost type id reason = .ok (balance, wallet)) :
    SameBooks app key w (w.mapDb (·.setWallet customerId wallet)) := by
  refine ⟨fun other => ?_, rfl, fun _ saved => saved, rfl, rfl, rfl, rfl⟩
  by_cases same : other = customerId
  · subst same
    simp only [IdempotentSend.debits, World.mapDb_db, Database.setWallet, Function.update_self]
    rcases refundCredits_ok granted with ⟨-, rfl⟩ | ⟨-, rfl⟩
    · rfl
    · simp [getOrCreateWallet, Wallet.enter, List.countP_append]
  · simp only [IdempotentSend.debits, World.mapDb_db, Database.setWallet,
      Function.update_of_ne same]

@[simp] theorem debits_cacheResponse {process : ℕ} {response : SendResponse} {ok : Bool}
    {customerId : Id} : debits (cacheResponse w process app key response ok) customerId =
      debits w customerId := by
  unfold cacheResponse
  simp only [debits, World.mapMemory_db]
  split <;> rfl

@[simp] theorem dispatches_cacheResponse {process : ℕ} {response : SendResponse} {ok : Bool} :
    dispatches (cacheResponse w process app key response ok) = dispatches w := by
  unfold cacheResponse
  simp only [dispatches, World.mapMemory]
  split <;> rfl

@[simp] theorem debits_recordResponse {row : IdempotencyKey} {ok : Bool} {customerId : Id} :
    debits (recordResponse w row ok) customerId = debits w customerId := by
  unfold recordResponse
  split <;> rfl

@[simp] theorem dispatches_recordResponse {row : IdempotencyKey} {ok : Bool} :
    dispatches (recordResponse w row ok) = dispatches w := by
  unfold recordResponse
  split <;> rfl

/-- The debit of a send. -/
theorem debits_deduct {customerId other : Id} {cost balance : ℚ} {type id : String} {wallet : Wallet}
    (paid : deductCreditsAtomic resolves (w.db.wallets customerId) cost type id = .ok (balance, wallet)) :
    debits (w.mapDb (·.setWallet customerId wallet)) other =
      debits w other + if other = customerId then 1 else 0 := by
  by_cases same : other = customerId
  · subst same
    rw [if_pos rfl]
    simp only [debits, World.mapDb_db, Database.setWallet, Function.update_self]
    obtain rfl := deductCreditsAtomic_ok paid
    simp [getOrCreateWallet, Wallet.enter, List.countP_append]
  · rw [if_neg same]
    simp only [debits, World.mapDb_db, Database.setWallet, Function.update_of_ne same]
    rfl

/-! ### The three stages of a run -/

/-- What the threads are: sends with the key, authenticated or not yet. -/
def Carried (env : Env) (app : Id) (key : String) (db : Database) : Thread → Prop
  | .authenticating request c => Carries env app key db c.rawApiKey request ∧
      ∀ s ∈ c.session, s.application.id = app
  | .send c => c.applicationId = app ∧ c.key = some key ∧ (∀ k ∈ c.pc.idempotencyKey, k = key) ∧
      (c.pc.dispatch.isSome = true → (∃ a ∈ db.applications, a.id = app) ∧
        ∃ x ∈ db.customers, x.id = c.customer.id)
  | _ => False

/-- No send has been debited. -/
structure Unpaid (app : Id) (key : String) (w : World) (p : System) : Prop where
  positions : ∀ c, .send c ∈ p.threads → unpaid c.pc = true
  alone : ∀ (i j : ℕ) (b c : SendCall), p.threads[i]? = some (.send b) →
    p.threads[j]? = some (.send c) → b.pc.inFlight = true → c.pc.inFlight = true → i = j
  debited : ∀ x, debits p.shared x = debits w x
  dispatched : dispatches p.shared = dispatches w
  saved : ∀ r, ¬Saved app key p.shared r

/-- Thread `i` is debited and not yet answered. -/
structure Paid (env : Env) (app : Id) (key : String) (w : World) (p : System) (i : ℕ)
    (c : SendCall) (d : Dispatch) : Prop where
  leader : p.threads[i]? = some (.send c)
  paid : paid c.pc = some d
  others : ∀ j b, j ≠ i → p.threads[j]? = some (.send b) → idle b.pc = true
  debited : ∀ x, debits p.shared x = debits w x + if x = c.customer.id then 1 else 0
  dispatched : dispatches p.shared = dispatches w + handedOver c.pc
  saved : ∀ r, Saved app key p.shared r → (∃ k, c.pc = .saveRecord d k) ∧ r = c.response env d

/-- Where a send can be once `r` has been answered. -/
def Settled (key : String) (r : SendResponse) (pc : SendPc) : Prop :=
  idle pc = true ∨ (key.length ≤ 255 ∧ pc = .idempotencyRecord key) ∨ ∃ n, pc = .replied n r

/-- One send has been answered with 202. -/
structure Answered (app : Id) (key : String) (w : World) (p : System) (r : SendResponse) :
    Prop where
  positions : ∀ c, .send c ∈ p.threads → Settled key r c.pc
  first : ∃ t ∈ p.threads, accepted t = true
  debited : ∃ y, ∀ x, debits p.shared x = debits w x + if x = y then 1 else 0
  dispatched : dispatches p.shared = dispatches w + 1
  saved : ∀ r', Saved app key p.shared r' → r' = r
  recorded : key.length ≤ 255 → ∃ row ∈ p.shared.db.idempotencyKeys, row.applicationId = app ∧
    row.idempotencyKey = key ∧ row.endpoint = "/v1/otp/send"

def Stage (env : Env) (app : Id) (key : String) (w : World) (p : System) : Prop :=
  Unpaid app key w p ∨ (∃ i c d, Paid env app key w p i c d) ∨ ∃ r, Answered app key w p r

section Stages

variable {p : System} {i : ℕ} {t u : Thread} {s w₀ : World}

theorem idle_not_inFlight {pc : SendPc} (h : idle pc = true) : pc.inFlight = false := by
  cases pc <;> first | rfl | cases h

theorem idle_unpaid {pc : SendPc} (h : idle pc = true) : unpaid pc = true := by
  cases pc <;> first | rfl | cases h

theorem paid_inFlight {pc : SendPc} {d : Dispatch} (h : paid pc = some d) : pc.inFlight = true := by
  cases pc <;> first | rfl | cases h

/-- The thread moves from no position of interest to another one. -/
theorem Stage.idle_step (stage : Stage env app key w₀ p) (same : SameBooks app key p.shared s)
    (found : p.threads[i]? = some t) (was : ∀ c, t = .send c → idle c.pc = true)
    (becomes : ∀ c, u = .send c → idle c.pc = true) :
    Stage env app key w₀ ⟨s, p.threads.set i u⟩ := by
  have at_other {j : ℕ} {b : SendCall} (there : (p.threads.set i u)[j]? = some (.send b)) :
      (j = i ∧ idle b.pc = true) ∨ (j ≠ i ∧ p.threads[j]? = some (.send b)) := by
    rcases getElem?_set_cases there with ⟨rfl, moved⟩ | other
    · exact Or.inl ⟨rfl, becomes b moved.symm⟩
    · exact Or.inr other
  rcases stage with unpaid | ⟨j, c, d, paid⟩ | ⟨r, answered⟩
  · left
    refine ⟨fun c member => ?_, fun j k b c first second flying flying' => ?_, fun x => ?_, ?_,
      fun r saved => unpaid.saved r (same.saved r saved)⟩
    · rcases mem_set_cases member with here | ⟨j, -, there⟩
      · exact idle_unpaid (becomes c here.symm)
      · exact unpaid.positions c (List.mem_of_getElem? there)
    · rcases at_other first with ⟨-, resting⟩ | ⟨-, first⟩
      · rw [idle_not_inFlight resting] at flying
        cases flying
      rcases at_other second with ⟨-, resting⟩ | ⟨-, second⟩
      · rw [idle_not_inFlight resting] at flying'
        cases flying'
      exact unpaid.alone j k b c first second flying flying'
    · exact (same.debits x).trans (unpaid.debited x)
    · exact same.dispatches.trans unpaid.dispatched
  · right
    left
    have apart : j ≠ i := by
      rintro rfl
      have same_thread := Option.some.inj (found.symm.trans paid.leader)
      have resting := idle_not_inFlight (was c same_thread)
      rw [paid_inFlight paid.paid] at resting
      cases resting
    refine ⟨j, c, d, ?_, paid.paid, fun k b other there => ?_, fun x => ?_, ?_, fun r saved =>
      paid.saved r (same.saved r saved)⟩
    · exact (List.getElem?_set_ne (Ne.symm apart)).trans paid.leader
    · rcases at_other there with ⟨-, resting⟩ | ⟨-, there⟩
      · exact resting
      · exact paid.others k b other there
    · exact (same.debits x).trans (paid.debited x)
    · exact same.dispatches.trans paid.dispatched
  · right
    right
    obtain ⟨y, debited⟩ := answered.debited
    refine ⟨r, fun c member => ?_, ?_, ⟨y, fun x => ?_⟩, ?_, fun r' saved =>
      answered.saved r' (same.saved r' saved), ?_⟩
    · rcases mem_set_cases member with here | ⟨j, -, there⟩
      · exact Or.inl (becomes c here.symm)
      · exact answered.positions c (List.mem_of_getElem? there)
    · obtain ⟨v, member, done⟩ := answered.first
      obtain ⟨j, there⟩ := List.mem_iff_getElem?.mp member
      have apart : j ≠ i := by
        rintro rfl
        cases Option.some.inj (found.symm.trans there)
        cases t with
        | send c =>
          have resting := was c rfl
          simp only [accepted] at done
          split at done
          next at_reply =>
            rw [at_reply] at resting
            cases resting
          · cases done
        | _ => cases done
      exact ⟨v, List.mem_of_getElem? ((List.getElem?_set_ne (Ne.symm apart)).trans there), done⟩
    · exact (same.debits x).trans (debited x)
    · exact same.dispatches.trans answered.dispatched
    · intro short
      rw [same.recorded]
      exact answered.recorded short

variable {c c' : SendCall} {d : Dispatch}

/-- While a debited send is under way it is the only one in flight. -/
theorem Paid.only {j : ℕ} {b : SendCall} (paid : Paid env app key w₀ p j b d)
    (found : p.threads[i]? = some (.send c)) (flying : c.pc.inFlight = true) : i = j ∧ c = b := by
  by_cases same : i = j
  · subst same
    cases Option.some.inj (found.symm.trans paid.leader)
    exact ⟨rfl, rfl⟩
  · rw [idle_not_inFlight (paid.others i c same found)] at flying
    cases flying

/-- After the first answer the only send in flight reads the record of the key. -/
theorem Settled.at_record {r : SendResponse} {pc : SendPc} (settled : Settled key r pc)
    (flying : pc.inFlight = true) : key.length ≤ 255 ∧ pc = .idempotencyRecord key := by
  rcases settled with resting | at_record | ⟨n, rfl⟩
  · rw [idle_not_inFlight resting] at flying
    cases flying
  · exact at_record
  · cases flying

/-- A send that has looked its key up in vain, and is not debited, is the only one under way. -/
theorem Stage.unpaid_of_checking (stage : Stage env app key w₀ p)
    (found : p.threads[i]? = some (.send c)) (flying : c.pc.inFlight = true)
    (before : IdempotentSend.unpaid c.pc = true) (past : c.pc.idempotencyKey = none) :
    Unpaid app key w₀ p := by
  rcases stage with unpaid | ⟨j, b, d, paid⟩ | ⟨r, answered⟩
  · exact unpaid
  · exfalso
    obtain ⟨-, rfl⟩ := paid.only found flying
    have paid_here := paid.paid
    revert before paid_here
    cases c.pc <;> simp [IdempotentSend.unpaid, IdempotentSend.paid]
  · exfalso
    obtain ⟨-, at_record⟩ :=
      (answered.positions c (List.mem_of_getElem? found)).at_record flying
    rw [at_record] at past
    cases past

theorem Stage.paid_of_position (stage : Stage env app key w₀ p)
    (found : p.threads[i]? = some (.send c)) (position : IdempotentSend.paid c.pc = some d) :
    Paid env app key w₀ p i c d := by
  have flying := paid_inFlight position
  rcases stage with unpaid | ⟨j, b, e, paid⟩ | ⟨r, answered⟩
  · exfalso
    have before := unpaid.positions c (List.mem_of_getElem? found)
    revert before position
    cases c.pc <;> simp [IdempotentSend.unpaid, IdempotentSend.paid]
  · obtain ⟨rfl, rfl⟩ := paid.only found flying
    cases Option.some.inj (position.symm.trans paid.paid)
    exact paid
  · exfalso
    obtain ⟨-, at_record⟩ :=
      (answered.positions c (List.mem_of_getElem? found)).at_record flying
    rw [at_record] at position
    cases position

/-- A send at its second look-up is not debited. -/
theorem Stage.at_record (stage : Stage env app key w₀ p)
    (found : p.threads[i]? = some (.send c)) {k : String} (here : c.pc = .idempotencyRecord k) :
    Unpaid app key w₀ p ∨ ∃ r, Answered app key w₀ p r := by
  rcases stage with unpaid | ⟨j, b, d, paid⟩ | answered
  · exact Or.inl unpaid
  · exfalso
    obtain ⟨-, rfl⟩ := paid.only found (by rw [here]; rfl)
    have paid_here := paid.paid
    rw [here] at paid_here
    cases paid_here
  · exact Or.inr answered

/-- While nobody is in flight no send is debited and unanswered. -/
theorem Stage.quiet (stage : Stage env app key w₀ p)
    (nobody : ∀ v ∈ p.threads, inFlight v = false) :
    Unpaid app key w₀ p ∨ ∃ r, Answered app key w₀ p r := by
  rcases stage with unpaid | ⟨j, b, d, paid⟩ | answered
  · exact Or.inl unpaid
  · exfalso
    have still := nobody _ (List.mem_of_getElem? paid.leader)
    rw [inFlight, paid_inFlight paid.paid] at still
    cases still
  · exact Or.inr answered

theorem Unpaid.advance (unpaid : Unpaid app key w₀ p) (same : SameBooks app key p.shared s)
    (found : p.threads[i]? = some (.send c))
    (flying : c.pc.inFlight = true ∨ ∀ v ∈ p.threads, inFlight v = false)
    (after : IdempotentSend.unpaid c'.pc = true) :
    Unpaid app key w₀ ⟨s, p.threads.set i (.send c')⟩ := by
  -- whoever else is in flight was so before, and then nobody but thread `i` was
  have only {k : ℕ} {b : SendCall} (there : p.threads[k]? = some (.send b))
      (other : b.pc.inFlight = true) : i = k := by
    rcases flying with flying | nobody
    · exact unpaid.alone i k c b found there flying other
    · have still := nobody _ (List.mem_of_getElem? there)
      rw [inFlight, other] at still
      cases still
  refine ⟨fun b member => ?_, fun j k b b' first second flies flies' => ?_, fun x => ?_, ?_,
    fun r saved => unpaid.saved r (same.saved r saved)⟩
  · rcases mem_set_cases member with here | ⟨j, -, there⟩
    · cases here
      exact after
    · exact unpaid.positions b (List.mem_of_getElem? there)
  · rcases getElem?_set_cases first with ⟨here, -⟩ | ⟨apart, first⟩
    · rcases getElem?_set_cases second with ⟨here', -⟩ | ⟨-, second⟩
      · exact here.trans here'.symm
      · exact here.trans (only second flies')
    · exact absurd (only first flies).symm apart
  · exact (same.debits x).trans (unpaid.debited x)
  · exact same.dispatches.trans unpaid.dispatched

/-- The debit, by the only send in flight. -/
theorem Unpaid.pay (unpaid : Unpaid app key w₀ p) (found : p.threads[i]? = some (.send c))
    (flying : c.pc.inFlight = true) (position : c'.pc = .store d)
    (customer : c'.customer.id = c.customer.id)
    (debited : ∀ x, debits s x = debits p.shared x + if x = c.customer.id then 1 else 0)
    (dispatched : dispatches s = dispatches p.shared)
    (saved : ∀ r, Saved app key s r → Saved app key p.shared r) :
    Paid env app key w₀ ⟨s, p.threads.set i (.send c')⟩ i c' d := by
  have inside := (List.getElem?_eq_some_iff.mp found).1
  refine ⟨List.getElem?_set_self inside, by rw [position]; rfl, fun j b apart there => ?_,
    fun x => ?_, ?_, fun r kept => absurd (saved r kept) (unpaid.saved r)⟩
  · rcases getElem?_set_cases there with ⟨here, -⟩ | ⟨-, there⟩
    · exact absurd here apart
    · have before := unpaid.positions b (List.mem_of_getElem? there)
      have still : b.pc.inFlight ≠ true := fun flies =>
        apart (unpaid.alone j i b c there found flies flying)
      revert before still
      cases b.pc <;> simp [IdempotentSend.unpaid, SendPc.inFlight, SendPc.dispatch, idle]
  · rw [debited, unpaid.debited, customer]
  · rw [dispatched, unpaid.dispatched, position]
    rfl

theorem Paid.advance (paid : Paid env app key w₀ p i c d)
    (position : IdempotentSend.paid c'.pc = some d) (customer : c'.customer.id = c.customer.id)
    (debited : ∀ x, debits s x = debits p.shared x)
    (dispatched : dispatches s + handedOver c.pc = dispatches p.shared + handedOver c'.pc)
    (saved : ∀ r, Saved app key s r → (∃ k, c'.pc = .saveRecord d k) ∧ r = c'.response env d) :
    Paid env app key w₀ ⟨s, p.threads.set i (.send c')⟩ i c' d := by
  have inside := (List.getElem?_eq_some_iff.mp paid.leader).1
  refine ⟨List.getElem?_set_self inside, position, fun j b apart there => ?_, fun x => ?_, ?_, saved⟩
  · rcases getElem?_set_cases there with ⟨here, -⟩ | ⟨-, there⟩
    · exact absurd here apart
    · exact paid.others j b apart there
  · rw [debited, paid.debited, customer]
  · have before := paid.dispatched
    change dispatches s = _
    omega

theorem Paid.answer (paid : Paid env app key w₀ p i c d) (handed : handedOver c.pc = 1)
    {r : SendResponse} (position : c'.pc = .replied 202 r)
    (debited : ∀ x, debits s x = debits p.shared x)
    (dispatched : dispatches s = dispatches p.shared)
    (saved : ∀ r', Saved app key s r' → r' = r)
    (recorded : key.length ≤ 255 → ∃ row ∈ s.db.idempotencyKeys, row.applicationId = app ∧
      row.idempotencyKey = key ∧ row.endpoint = "/v1/otp/send") :
    Answered app key w₀ ⟨s, p.threads.set i (.send c')⟩ r := by
  have inside := (List.getElem?_eq_some_iff.mp paid.leader).1
  refine ⟨fun b member => ?_, ⟨.send c', ?_, ?_⟩, ⟨c.customer.id, fun x => ?_⟩, ?_, saved, recorded⟩
  · rcases mem_set_cases member with here | ⟨j, apart, there⟩
    · cases here
      exact Or.inr (Or.inr ⟨202, position⟩)
    · exact Or.inl (paid.others j b apart there)
  · exact List.mem_of_getElem? (List.getElem?_set_self inside)
  · simp [accepted, position]
  · rw [debited, paid.debited]
  · rw [dispatched, paid.dispatched, handed]

theorem Answered.advance {r : SendResponse} (answered : Answered app key w₀ p r)
    (found : p.threads[i]? = some (.send c)) (running : accepted (.send c) = false)
    (settled : Settled key r c'.pc) :
    Answered app key w₀ ⟨p.shared, p.threads.set i (.send c')⟩ r := by
  refine ⟨fun b member => ?_, ?_, answered.debited, answered.dispatched, answered.saved,
    answered.recorded⟩
  · rcases mem_set_cases member with here | ⟨j, -, there⟩
    · cases here
      exact settled
    · exact answered.positions b (List.mem_of_getElem? there)
  · obtain ⟨t, member, done⟩ := answered.first
    obtain ⟨j, there⟩ := List.mem_iff_getElem?.mp member
    have apart : j ≠ i := by
      rintro rfl
      cases Option.some.inj (found.symm.trans there)
      rw [running] at done
      cases done
    exact ⟨t, List.mem_of_getElem? ((List.getElem?_set_ne (Ne.symm apart)).trans there), done⟩

/-! ### One step of a send -/

theorem unlooked_idle {pc : SendPc} (h : pc.unlooked = true) : idle pc = true := by
  cases pc <;> first | rfl | cases h

theorem checking_inFlight {pc : SendPc} (h : pc.checking = true) :
    pc.inFlight = true ∧ IdempotentSend.unpaid pc = true ∧ pc.idempotencyKey = none := by
  cases pc <;> first | exact ⟨rfl, rfl, rfl⟩ | cases h

theorem recordResponse_recorded {row : IdempotencyKey}
    (short : row.idempotencyKey.length ≤ 255) (endpoint : row.endpoint = "/v1/otp/send")
    (of_app : ∃ x ∈ w.db.applications, x.id = row.applicationId)
    (of_customer : ∃ x ∈ w.db.customers, x.id = row.customerId) :
    row ∈ (recordResponse w row true).db.idempotencyKeys := by
  have fits : row.endpoint.length ≤ 255 := by
    rw [endpoint]
    decide
  unfold recordResponse
  rw [if_pos ⟨rfl, short, fits, of_app, of_customer⟩]
  simp

/-- A debited send goes on, and saves nothing yet. -/
theorem Stage.paid_step (stage : Stage env app key w₀ p) (found : p.threads[i]? = some (.send c))
    (before : IdempotentSend.paid c.pc = some d) (unsaved : ∀ k, c.pc ≠ .saveRecord d k)
    (after : IdempotentSend.paid c'.pc = some d) (customer : c'.customer.id = c.customer.id)
    (debited : ∀ x, debits s x = debits p.shared x)
    (dispatched : dispatches s + handedOver c.pc = dispatches p.shared + handedOver c'.pc)
    (saved : ∀ r, Saved app key s r → Saved app key p.shared r) :
    Stage env app key w₀ ⟨s, p.threads.set i (.send c')⟩ := by
  have paid := stage.paid_of_position found before
  refine Or.inr (Or.inl ⟨i, c', d, paid.advance after customer debited dispatched fun r kept => ?_⟩)
  obtain ⟨⟨k, elsewhere⟩, -⟩ := paid.saved r (saved r kept)
  exact absurd elsewhere (unsaved k)

/-- A saved answer is given again. -/
theorem Stage.replay (quiet : Unpaid app key w₀ p ∨ ∃ r, Answered app key w₀ p r)
    (found : p.threads[i]? = some (.send c)) (running : accepted (.send c) = false)
    {cached : SendResponse} (saved : Saved app key p.shared cached)
    (there : c'.pc = .replied 200 cached) :
    Stage env app key w₀ ⟨p.shared, p.threads.set i (.send c')⟩ := by
  rcases quiet with unpaid | ⟨r, answered⟩
  · exact absurd saved (unpaid.saved cached)
  · right
    right
    refine ⟨r, answered.advance found running ?_⟩
    rw [there, answered.saved cached saved]
    exact Or.inr (Or.inr ⟨200, rfl⟩)

/-- Nothing under the key in the cache. -/
theorem Stage.miss (stage : Stage env app key w₀ p) (found : p.threads[i]? = some (.send c))
    (here : c.pc = .idempotencyCache key) (there : c'.pc = .idempotencyRecord key)
    (nobody : ∀ u ∈ p.threads, inFlight u = false)
    (findable : key.length ≤ 255 ∨ ∀ u ∈ p.threads, accepted u = false) :
    Stage env app key w₀ ⟨p.shared, p.threads.set i (.send c')⟩ := by
  rcases stage.quiet nobody with unpaid | ⟨r, answered⟩
  · exact Or.inl (unpaid.advance (.of_core (.refl _)) found (Or.inr nobody) (by rw [there]; rfl))
  · right
    right
    refine ⟨r, answered.advance found (by simp [accepted, here]) ?_⟩
    rw [there]
    rcases findable with short | none_accepted
    · exact Or.inr (Or.inl ⟨short, rfl⟩)
    · obtain ⟨t, member, done⟩ := answered.first
      rw [none_accepted t member] at done
      cases done

/-- Nothing under the key in the database either: after an answer its record would be found. -/
theorem Stage.unknown (stage : Stage env c.applicationId key w₀ p)
    (found : p.threads[i]? = some (.send c)) (here : c.pc = .idempotencyRecord key)
    {call : LimitCall} (there : c'.pc = .limit .ip call)
    (missed : recordedResponse p.shared c.applicationId key "/v1/otp/send" true = none) :
    Stage env c.applicationId key w₀ ⟨p.shared, p.threads.set i (.send c')⟩ := by
  have flying : c.pc.inFlight = true := by rw [here]; rfl
  rcases stage.at_record found here with unpaid | ⟨r, answered⟩
  · exact Or.inl (unpaid.advance (.of_core (.refl _)) found (Or.inl flying) (by rw [there]; rfl))
  · exfalso
    obtain ⟨short, -⟩ := (answered.positions c (List.mem_of_getElem? found)).at_record flying
    obtain ⟨row, member, of_app, of_row_key, of_endpoint⟩ := answered.recorded short
    rw [recordedResponse, if_pos rfl, Option.map_eq_none_iff, List.find?_eq_none] at missed
    exact missed row member (by simp [of_app, of_row_key, of_endpoint])

/-- The answer goes into the cache, where nothing was. -/
theorem Paid.saveCache {k : String} (paid : Paid env c.applicationId key w₀ p i c d)
    (here : c.pc = .saveCache d k) (there : c'.pc = .saveRecord d k)
    (customer : c'.customer.id = c.customer.id) (response : c'.response env d = c.response env d)
    {ok : Bool} : Paid env c.applicationId key w₀
      ⟨cacheResponse p.shared c.process c.applicationId key (c.response env d) ok,
        p.threads.set i (.send c')⟩ i c' d := by
  refine paid.advance (by rw [there]; rfl) customer (fun x => debits_cacheResponse) ?_ fun r kept => ?_
  · rw [dispatches_cacheResponse, here, there]
    rfl
  · refine ⟨⟨k, there⟩, ?_⟩
    rcases saved_cacheResponse kept with old | new
    · obtain ⟨⟨k, elsewhere⟩, -⟩ := paid.saved r old
      rw [here] at elsewhere
      cases elsewhere
    · rw [new, response]

/-- The answer is recorded and given. -/
theorem Paid.saveRecord {k : String} (paid : Paid env app key w₀ p i c d)
    (here : c.pc = .saveRecord d k) (there : c'.pc = .replied 202 (c.response env d))
    {row : IdempotencyKey} (of_app : row.applicationId = app) (of_key : row.idempotencyKey = key)
    (of_endpoint : row.endpoint = "/v1/otp/send") (body : row.responseBody = c.response env d)
    (application : ∃ x ∈ p.shared.db.applications, x.id = row.applicationId)
    (customer : ∃ x ∈ p.shared.db.customers, x.id = row.customerId) :
    Answered app key w₀ ⟨recordResponse p.shared row true, p.threads.set i (.send c')⟩
      (c.response env d) := by
  refine paid.answer (by rw [here]; rfl) there (fun x => debits_recordResponse)
    dispatches_recordResponse (fun r kept => ?_) fun short => ?_
  · rcases saved_recordResponse kept with old | new
    · exact (paid.saved r old).2
    · rw [new, body]
  · rw [← of_key] at short
    exact ⟨row, recordResponse_recorded short of_endpoint application customer, of_app, of_key,
      of_endpoint⟩

/-- A send that rests, before the step and after it. -/
theorem Stage.rests (stage : Stage env app key w₀ p) (same : SameBooks app key p.shared s)
    (found : p.threads[i]? = some (.send c)) (was : idle c.pc = true) (becomes : idle c'.pc = true) :
    Stage env app key w₀ ⟨s, p.threads.set i (.send c')⟩ := by
  refine stage.idle_step same found ?_ ?_
  · intro b eq
    cases eq
    exact was
  · intro b eq
    cases eq
    exact becomes

/-- A step before the debit. -/
theorem Stage.unchanged (stage : Stage env app key w₀ p) (found : p.threads[i]? = some (.send c))
    (same : SameBooks app key p.shared s) {pc : SendPc} (here : c.pc = pc)
    (flying : pc.inFlight = true) (before : IdempotentSend.unpaid pc = true)
    (past : pc.idempotencyKey = none) (after : IdempotentSend.unpaid c'.pc = true) :
    Stage env app key w₀ ⟨s, p.threads.set i (.send c')⟩ := by
  subst here
  have unpaid := stage.unpaid_of_checking found flying before past
  exact Or.inl (unpaid.advance same found (Or.inl flying) after)

/-- A step between the debit and the saved answer. -/
theorem Stage.paying (stage : Stage env app key w₀ p) (found : p.threads[i]? = some (.send c))
    (customer : c'.customer.id = c.customer.id) (same : SameBooks app key p.shared s) {pc : SendPc}
    (here : c.pc = pc) (before : IdempotentSend.paid pc = some d) (unsaved : ∀ k, pc ≠ .saveRecord d k)
    (after : IdempotentSend.paid c'.pc = some d) (handed : handedOver c'.pc = handedOver pc) :
    Stage env app key w₀ ⟨s, p.threads.set i (.send c')⟩ := by
  subst here
  refine stage.paid_step found before unsaved after customer same.debits ?_ same.saved
  rw [same.dispatches, handed]

/-- The queue or the provider takes the message over. -/
theorem Stage.handOver (stage : Stage env app key w₀ p) (found : p.threads[i]? = some (.send c))
    (customer : c'.customer.id = c.customer.id) {pc : SendPc} (here : c.pc = pc)
    (before : IdempotentSend.paid pc = some d) (unsaved : ∀ k, pc ≠ .saveRecord d k)
    (after : IdempotentSend.paid c'.pc = some d) (db : s.db = p.shared.db)
    (caches : ∀ r, Saved app key s r → Saved app key p.shared r)
    (dispatched : dispatches s = dispatches p.shared + 1)
    (handed : handedOver c'.pc = handedOver pc + 1) :
    Stage env app key w₀ ⟨s, p.threads.set i (.send c')⟩ := by
  subst here
  refine stage.paid_step found before unsaved after customer (fun x => ?_) ?_ caches
  · rw [debits, db]
    rfl
  · omega

theorem Stage.step_send (stage : Stage env app key w₀ p)
    (found : p.threads[i]? = some (.send c)) (carried : Carried env app key p.shared.db (.send c))
    (up : (∃ d, c.pc = .enqueue d) ∨ a.ok = true)
    (alone : ∀ k, c.pc = .idempotencyCache k → (∀ u ∈ p.threads, inFlight u = false) ∧
      (key.length ≤ 255 ∨ (∀ u ∈ p.threads, accepted u = false) ∨
        (cachedResponse p.shared c.process app key a.ok).isSome = true))
    (taken : c.step env p.shared a = some (w', c')) :
    Stage env app key w₀ ⟨w', p.threads.set i (.send c')⟩ := by
  obtain ⟨of_app, of_key, keys, rows⟩ := carried
  subst of_app
  obtain ⟨move, same_call⟩ := SendCall.step_move taken
  have customer : c'.customer.id = c.customer.id := by rw [same_call]; rfl
  have response (d : Dispatch) : c'.response env d = c.response env d := by rw [same_call]; rfl
  have finish (d : Dispatch) : c.finish env d = .saveCache d key := by
    simp only [SendCall.finish, of_key]
  generalize here : c.pc = pc at move keys rows up alone
  generalize there : c'.pc = pc' at move
  -- at rest, or before the debit; from there on the send is the debited one until it has answered
  cases move with
  | early before after =>
    refine stage.rests (.of_core (.refl _)) found (by rw [here]; exact unlooked_idle before) ?_
    rw [there]
    rcases after with rfl | ⟨k, -, rfl⟩ | ⟨no_key, -⟩
    · rfl
    · rfl
    · rw [of_key] at no_key
      cases no_key
  | refuse before same error =>
    rcases before with before | before
    · exact stage.rests (.of_core same) found (by rw [here]; exact unlooked_idle before)
        (by rw [there]; rfl)
    · obtain ⟨flying, position, past⟩ := checking_inFlight before
      exact stage.unchanged found (.of_core same) here flying position past (by rw [there]; rfl)
  | hit k cached seen =>
    obtain rfl := keys k rfl
    exact Stage.replay (stage.quiet (alone k rfl).1) found (by simp [accepted, here])
      (saved_of_cached seen) there
  | miss k missed =>
    obtain rfl := keys k rfl
    obtain ⟨nobody, findable⟩ := alone k rfl
    rw [missed] at findable
    exact stage.miss found here there nobody (by simpa using findable)
  | known k cached seen =>
    obtain rfl := keys k rfl
    exact Stage.replay (stage.at_record found here) found (by simp [accepted, here])
      (saved_of_recorded seen) there
  | unknown k missed =>
    obtain rfl := keys k rfl
    -- only `otpQueue.add` is awaited in vain
    rw [up.resolve_left (by simp)] at missed
    exact stage.unknown found here there missed
  | check before same after =>
    obtain ⟨flying, position, past⟩ := checking_inFlight before
    exact stage.unchanged found (.of_core same) here flying position past
      (by rw [there]; exact (checking_inFlight after).2.1)
  | prepare otpCode expiresAt =>
    exact stage.unchanged found (.of_core (.refl _)) here rfl rfl rfl (by rw [there]; rfl)
  | create otpCode requestId expiresAt db created =>
    unfold Database.createOtpRequest at created
    split at created
    · cases created
      exact stage.unchanged found (.of_requests _) here rfl rfl rfl (by rw [there]; rfl)
    · cases created
  | debit d balance wallet charged =>
    -- nobody else is under way, so this is the only debit
    have unpaid := stage.unpaid_of_checking found (by rw [here]; rfl) (by rw [here]; rfl)
      (by rw [here]; rfl)
    exact Or.inr (Or.inl ⟨i, c', d, unpaid.pay found (by rw [here]; rfl) there customer
      (fun x => debits_deduct charged) rfl fun r saved => saved⟩)
  | unpaid d error =>
    exact stage.unchanged found (.of_core (.refl _)) here rfl rfl rfl (by rw [there]; rfl)
  | store d =>
    have same : SameBooks c.applicationId key p.shared (storeOtp p.shared c.process
        (c.applicationId, c.phoneHash env) (storedOtp env d.otpCode d.requestId) c.body.ttlSeconds
        a.ok) := .of_storeOtp
    exact stage.paying found customer same here rfl (by simp) (by rw [there]; rfl)
      (by rw [there]; rfl)
  | setCooldown d core =>
    exact stage.paying found customer (.of_core core) here rfl (by simp) (by rw [there]; rfl)
      (by rw [there]; rfl)
  | enqueue d =>
    exact stage.handOver found customer here rfl (by simp) (by rw [there, finish]; rfl) rfl
      (fun r saved => saved) (by simp [dispatches, addSendOtpJob]; omega) (by rw [there, finish]; rfl)
  | offline d down =>
    exact stage.paying found customer (.of_core (.refl _)) here rfl (by simp) (by rw [there]; rfl)
      (by rw [there]; rfl)
  | deliver d after =>
    have position : IdempotentSend.paid c'.pc = some d ∧ handedOver c'.pc = 1 := by
      rw [there, after]
      split <;> exact ⟨rfl, rfl⟩
    exact stage.handOver found customer here rfl (by simp) position.1 rfl (fun r saved => saved)
      (by simp [dispatches, sendOtp]; omega) position.2
  | markSent d =>
    exact stage.paying found customer (.of_requests p.shared.nextId) here rfl (by simp)
      (by rw [there, finish]; rfl) (by rw [there, finish]; rfl)
  | markFailed d reason =>
    exact stage.paying found customer (.of_requests p.shared.nextId) here rfl (by simp)
      (by rw [there]; rfl) (by rw [there]; rfl)
  | refund d reason balance wallet granted =>
    exact stage.paying found customer (.of_refund granted) here rfl (by simp)
      (by rw [there, finish]; rfl) (by rw [there, finish]; rfl)
  | saveCache d k =>
    obtain rfl := keys k rfl
    have paid := stage.paid_of_position (d := d) found (by rw [here]; rfl)
    exact Or.inr (Or.inl ⟨i, c', d, paid.saveCache here there customer (response d)⟩)
  | saveRecord d k =>
    obtain rfl := keys k rfl
    have paid := stage.paid_of_position (d := d) found (by rw [here]; rfl)
    obtain ⟨of_app, of_customer⟩ := rows rfl
    rw [up.resolve_left (by simp)]
    exact Or.inr (Or.inr ⟨c.response env d,
      paid.saveRecord here there rfl rfl rfl rfl of_app of_customer⟩)
  | crash before cause =>
    rcases cause with down | ⟨otpCode, requestId, expiresAt, rfl⟩
    · rcases up with ⟨d, rfl⟩ | up
      · cases before
      · rw [up] at down
        cases down
    · exact stage.unchanged found (.of_core (.refl _)) here rfl rfl rfl (by rw [there]; rfl)

end Stages

/-! ### Runs -/

section Runs

variable {p q : System} {c c' : SendCall}

/-- Customers, applications and API keys stay as they are. -/
structure SameTenants (w w' : World) : Prop where
  applications : w'.db.applications = w.db.applications
  customers : w'.db.customers = w.db.customers
  apiKeys : w'.db.apiKeys = w.db.apiKeys

theorem SameTenants.of_core (same : SameCore w w') : SameTenants w w' :=
  ⟨by rw [same.db], by rw [same.db], by rw [same.db]⟩

theorem Carried.mono {t : Thread} (carried : Carried env app key w.db t) (same : SameTenants w w') :
    Carried env app key w'.db t := by
  cases t with
  | authenticating request c =>
    refine ⟨⟨carried.1.1, ?_⟩, carried.2⟩
    have found := carried.1.2
    simp only [Database.findApiKey, Database.findCustomer] at found ⊢
    rw [same.apiKeys, same.applications, same.customers]
    exact found
  | send c =>
    refine ⟨carried.1, carried.2.1, carried.2.2.1, ?_⟩
    rw [same.applications, same.customers]
    exact carried.2.2.2
  | _ => exact carried

theorem send_sameTenants (taken : c.step env w a = some (w', c')) : SameTenants w w' := by
  have move := (SendCall.step_move taken).1
  generalize c.pc = pc at move
  generalize c'.pc = pc' at move
  cases move with
  | refuse before same => exact .of_core same
  | check before same => exact .of_core same
  | setCooldown d same => exact .of_core same
  | create otpCode requestId expiresAt db created =>
    unfold Database.createOtpRequest at created
    split at created <;> cases created
    exact ⟨rfl, rfl, rfl⟩
  | store d =>
    unfold storeOtp
    split <;> exact ⟨rfl, rfl, rfl⟩
  | saveCache d key =>
    unfold cacheResponse
    dsimp only
    split <;> exact ⟨rfl, rfl, rfl⟩
  | saveRecord d key =>
    unfold recordResponse
    split <;> exact ⟨rfl, rfl, rfl⟩
  | _ => exact ⟨rfl, rfl, rfl⟩

theorem send_carried (taken : c.step env w a = some (w', c'))
    (carried : Carried env app key w.db (.send c)) : Carried env app key w'.db (.send c') := by
  have tenants := send_sameTenants taken
  obtain ⟨of_app, of_key, keys, rows⟩ := carried
  obtain ⟨move, same_call⟩ := SendCall.step_move taken
  have saving (d : Dispatch) : c.finish env d = .saveCache d key := by
    simp only [SendCall.finish, of_key]
  have app_same : c'.applicationId = app := by
    rw [same_call]
    exact of_app
  have key_same : c'.key = some key := by
    rw [same_call]
    exact of_key
  have customer : c'.customer.id = c.customer.id := by
    rw [same_call]
    rfl
  refine ⟨app_same, key_same, ?_, ?_⟩
  · generalize c.pc = pc at move keys
    generalize c'.pc = pc' at move
    cases move with
    | early before after =>
      rcases after with rfl | ⟨k, has, rfl⟩ | ⟨-, rfl⟩
      · intro k h
        cases h
      · intro k member
        cases member
        exact Option.some.inj (has.symm.trans of_key)
      · intro k h
        cases h
    | miss k | saveCache d k => exact keys
    | check before same after => exact fun k member => absurd member (by
        rw [(checking_inFlight after).2.2]
        exact fun h => (by cases h))
    | enqueue d | markSent d | refund d =>
      rw [saving]
      intro k member
      cases member
      rfl
    | deliver d after =>
      rw [after]
      split <;> intro k h <;> cases h
    | _ =>
      intro k h
      cases h
  · rw [tenants.applications, tenants.customers, customer]
    generalize c.pc = pc at move rows
    generalize c'.pc = pc' at move
    cases move with
    | early before after =>
      rcases after with rfl | ⟨k, has, rfl⟩ | ⟨-, rfl⟩ <;> intro h <;> cases h
    | check before same after =>
      intro dispatched
      rw [SendPc.checking_dispatch after] at dispatched
      cases dispatched
    | create otpCode requestId expiresAt db created =>
      intro _
      unfold Database.createOtpRequest at created
      split at created
      next conditions => exact ⟨of_app ▸ conditions.2.2.1, conditions.2.1⟩
      · cases created
    | debit | store | setCooldown | enqueue | offline | deliver | markSent | markFailed | refund
    | saveCache => exact fun _ => rows rfl
    | _ =>
      intro h
      cases h

/-- Time passes, or threads that are no sends start. -/
theorem Stage.grow {s w₀ : World} (stage : Stage env app key w₀ p)
    (same : SameBooks app key p.shared s) (born : List Thread) (no_send : ∀ c, .send c ∉ born) :
    Stage env app key w₀ ⟨s, p.threads ++ born⟩ := by
  have old {j : ℕ} {b : SendCall} (there : (p.threads ++ born)[j]? = some (.send b)) :
      p.threads[j]? = some (.send b) := by
    rw [List.getElem?_append] at there
    split at there
    · exact there
    · exact absurd (List.mem_of_getElem? there) (no_send b)
  have old_member {b : SendCall} (member : .send b ∈ p.threads ++ born) : .send b ∈ p.threads :=
    (List.mem_append.mp member).resolve_right (no_send b)
  have kept {j : ℕ} {t : Thread} (there : p.threads[j]? = some t) :
      (p.threads ++ born)[j]? = some t := by
    rw [List.getElem?_append_left (List.getElem?_eq_some_iff.mp there).1]
    exact there
  rcases stage with unpaid | ⟨j, c, d, paid⟩ | ⟨r, answered⟩
  · left
    exact ⟨fun c member => unpaid.positions c (old_member member),
      fun i j b c first second => unpaid.alone i j b c (old first) (old second),
      fun x => (same.debits x).trans (unpaid.debited x), same.dispatches.trans unpaid.dispatched,
      fun r saved => unpaid.saved r (same.saved r saved)⟩
  · right
    left
    exact ⟨j, c, d, kept paid.leader, paid.paid, fun k b apart there => paid.others k b apart (old there),
      fun x => (same.debits x).trans (paid.debited x), same.dispatches.trans paid.dispatched,
      fun r saved => paid.saved r (same.saved r saved)⟩
  · right
    right
    obtain ⟨t, member, done⟩ := answered.first
    obtain ⟨y, debited⟩ := answered.debited
    exact ⟨r, fun c member => answered.positions c (old_member member),
      ⟨t, List.mem_append_left _ member, done⟩, ⟨y, fun x => (same.debits x).trans (debited x)⟩,
      same.dispatches.trans answered.dispatched, fun r' saved => answered.saved r' (same.saved r' saved),
      fun short => same.recorded ▸ answered.recorded short⟩

theorem authenticating_carried {request : ApiRequest} {b b' : AuthCall} (nonempty : key ≠ "")
    (taken : b.step env w a.ok = some (w', b'))
    (carried : Carried env app key w.db (.authenticating request b)) {t : Thread}
    (next : t = match b'.pc with
      | .authenticated s => Thread.handler s request
      | _ => .authenticating request b') :
    Carried env app key w'.db t ∧ ∀ c, t = .send c → idle c.pc = true := by
  obtain ⟨core, raw, sessions⟩ := AuthCall.step_session taken
  obtain ⟨⟨of_key, resolves⟩, of_app⟩ := carried
  have session_app : ∀ s ∈ b'.session, s.application.id = app := by
    intro s present
    rcases sessions s present with before | found
    · exact of_app s before
    · exact resolves _ found
  split at next
  next s authenticated =>
    have present : b'.session = some s := by simp only [AuthCall.session, authenticated]
    subst next
    cases endpoint : request.endpoint with
    | send body header =>
      obtain rfl : header = some key := by
        rw [endpoint] at of_key
        exact of_key
      rw [Thread.handler, endpoint]
      refine ⟨⟨session_app s present, ?_, fun k h => (by cases h), (by simp [SendPc.dispatch])⟩, fun c eq => ?_⟩
      · simp [SendCall.key, nonempty]
      · cases eq
        rfl
    | verify | resend | status | account =>
      rw [endpoint] at of_key
      cases of_key
  next waiting =>
    subst next
    refine ⟨⟨⟨of_key, ?_⟩, session_app⟩, fun c eq => (by cases eq)⟩
    rw [core.db, raw]
    exact resolves

/-- What holds in every state of such a run from `w₀` on. -/
def Inv (env : Env) (app : Id) (key : String) (w₀ : World) (p : System) : Prop :=
  Stage env app key w₀ p ∧ ∀ t ∈ p.threads, Carried env app key p.shared.db t

/-- The condition on each step. -/
def Allowed (env : Env) (app : Id) (key : String) (p : System) (l : SystemLabel) : Prop :=
  OnlyKey env app key p l ∧ Reachable p l ∧ LooksUpAlone app key p l

theorem inv_step {w₀ : World} (nonempty : key ≠ "") (l : SystemLabel) (inv : Inv env app key w₀ p)
    (allowed : Allowed env app key p l) (taken : step (systemProgram env) p l = some q) :
    Inv env app key w₀ q := by
  obtain ⟨stage, carried⟩ := inv
  obtain ⟨only, reachable, alone⟩ := allowed
  cases l with
  | external event =>
    obtain ⟨s, born, acted, rfl⟩ := step_external taken
    simp only [systemProgram, Thread.external] at acted
    cases event with
    | tick d =>
      cases acted
      have same : SameBooks app key p.shared (p.shared.tick d) :=
        ⟨fun _ => rfl, rfl, fun _ saved => saved, rfl, rfl, rfl, rfl⟩
      refine ⟨stage.grow same [] (by simp), fun t member => ?_⟩
      rw [List.append_nil] at member
      exact carried t member
    | api rawApiKey request =>
      cases acted
      refine ⟨stage.grow (.of_core (.refl _)) _ (by simp), fun t member => ?_⟩
      rcases List.mem_append.mp member with old | new
      · exact carried t old
      · rw [List.mem_singleton.mp new]
        obtain ⟨of_key, resolves⟩ := only
        unfold AuthCall.start
        split
        next raw present =>
          have raw_same : rawApiKey = some raw := (Option.filter_eq_some_iff.mp present).1
          rw [raw_same] at resolves
          exact ⟨⟨of_key, resolves⟩, fun s h => (by cases h)⟩
        next missing =>
          have blank : rawApiKey.getD "" = "" := by
            cases rawApiKey with
            | none => rfl
            | some raw => simpa [Option.filter_eq_none_iff] using missing
          rw [blank] at resolves
          exact ⟨⟨of_key, resolves⟩, fun s h => (by cases h)⟩
    | dashboard | register | takeSendOtpJob | processWebhook => exact only.elim
  | resume i a =>
    obtain ⟨t, s, u, found, resumed, rfl⟩ := step_resume taken
    have mine := carried t (List.mem_of_getElem? found)
    cases t with
    | authenticating request b =>
      simp only [systemProgram, Thread.resume] at resumed
      obtain ⟨b', stepped, rfl⟩ := Thread.stepped_eq_some resumed
      have core := (AuthCall.step_session stepped).1
      obtain ⟨becomes, idle⟩ := authenticating_carried nonempty stepped mine rfl
      refine ⟨stage.idle_step (.of_core core) found (fun c eq => (by cases eq)) idle, ?_⟩
      intro v member
      rcases List.mem_or_eq_of_mem_set member with old | rfl
      · exact (carried v old).mono (.of_core core)
      · exact becomes
    | send c =>
      simp only [systemProgram, Thread.resume] at resumed
      obtain ⟨c', stepped, rfl⟩ := Thread.stepped_eq_some resumed
      refine ⟨stage.step_send found mine ?_ (fun k at_cache => ?_) stepped, fun v member => ?_⟩
      · rcases reachable _ found with enqueues | up
        · left
          revert enqueues
          simp only [enqueuing]
          split
          next d at_enqueue => exact fun _ => ⟨d, at_enqueue⟩
          · intro h
            cases h
        · exact Or.inr up
      · exact alone _ found c (by simp [lookingUp, at_cache])
      · rcases List.mem_or_eq_of_mem_set member with old | rfl
        · exact (carried v old).mono (send_sameTenants stepped)
        · exact send_carried stepped mine
    | verify | resend | status | dashboard | register | sendOtpJob | webhook => exact mine.elim

theorem Inv.sentOnce {w₀ : World} (inv : Inv env app key w₀ q) : SentOnce w₀ q := by
  have answered_at {t : Thread} {r : SendResponse} (member : t ∈ q.threads)
      (replied : r ∈ answer t) : ∃ c n, .send c ∈ q.threads ∧ c.pc = .replied n r := by
    cases t with
    | send c =>
      simp only [answer] at replied
      split at replied
      next n response at_reply =>
        cases replied
        exact ⟨c, n, member, at_reply⟩
      · cases replied
    | _ => cases replied
  rcases inv.1 with unpaid | ⟨i, c, d, paid⟩ | ⟨r, answered⟩
  · refine ⟨⟨0, ?_, fun x _ => unpaid.debited x⟩, ?_, fun t member u _ r replied => ?_⟩
    · rw [unpaid.debited]
      omega
    · rw [unpaid.dispatched]
      omega
    · obtain ⟨c, n, there, at_reply⟩ := answered_at member replied
      have position := unpaid.positions c there
      rw [at_reply] at position
      cases position
  · have handed : handedOver c.pc ≤ 1 := by
      unfold handedOver
      split <;> decide
    refine ⟨⟨c.customer.id, ?_, fun x other => ?_⟩, ?_, fun t member u _ r replied => ?_⟩
    · rw [paid.debited, if_pos rfl]
    · rw [paid.debited, if_neg other, Nat.add_zero]
    · have dispatched := paid.dispatched
      omega
    · exfalso
      obtain ⟨b, n, there, at_reply⟩ := answered_at member replied
      obtain ⟨j, found⟩ := List.mem_iff_getElem?.mp there
      by_cases same : j = i
      · subst same
        cases Option.some.inj (found.symm.trans paid.leader)
        have position := paid.paid
        rw [at_reply] at position
        cases position
      · have resting := paid.others j b same found
        rw [at_reply] at resting
        cases resting
  · obtain ⟨y, debited⟩ := answered.debited
    have same_answer {t : Thread} {s : SendResponse} (member : t ∈ q.threads)
        (replied : s ∈ answer t) : s = r := by
      obtain ⟨c, n, there, at_reply⟩ := answered_at member replied
      rcases answered.positions c there with resting | ⟨-, at_record⟩ | ⟨m, settled⟩
      · rw [at_reply] at resting
        cases resting
      · rw [at_reply] at at_record
        cases at_record
      · rw [at_reply] at settled
        cases settled
        rfl
    refine ⟨⟨y, ?_, fun x other => ?_⟩, ?_, fun t member u member' a replied b replied' => ?_⟩
    · rw [debited, if_pos rfl]
    · rw [debited, if_neg other, Nat.add_zero]
    · rw [answered.dispatched]
    · rw [same_answer member replied, same_answer member' replied']

theorem Fresh.inv (fresh : Fresh app key p) : Inv env app key p.shared p := by
  obtain ⟨no_threads, redis, memory, records⟩ := fresh
  refine ⟨Or.inl ⟨?_, ?_, fun _ => rfl, rfl, fun r saved => ?_⟩, ?_⟩
  · simp [no_threads]
  · simp [no_threads]
  · rcases saved with ⟨cell, stored, -⟩ | ⟨process, stored⟩ | ⟨row, member, of_app, of_key, -⟩
    · rw [redis] at stored
      cases stored
    · rw [memory] at stored
      cases stored
    · exact records row member ⟨of_app, of_key⟩
  · simp [no_threads]

/-- Sends with one key that look it up one after the other amount to one send. -/
theorem sentOnce_of_looksUpAlone {labels : List SystemLabel} (nonempty : key ≠ "")
    (fresh : Fresh app key p)
    (respects : Respects (Pool.step (systemProgram env)) (Allowed env app key) p labels)
    (returned : run (Pool.step (systemProgram env)) p labels = some q) : SentOnce p.shared q := by
  have inv := run_invariant_of_respects (Inv env app key p.shared)
    (fun s l t inv allowed taken => inv_step nonempty l inv allowed taken)
    fresh.inv respects returned
  exact inv.sentOnce

section Sample

instance {db : Database} {rawApiKey : Option String} {request : ApiRequest} :
    Decidable (Carries env app key db rawApiKey request) :=
  inferInstanceAs (Decidable (_ ∧ ∀ found ∈ db.findApiKey _, _))

instance : DecidablePred (OnlyKey env app key p)
  | .resume .. => isTrue trivial
  | .external (.tick _) => isTrue trivial
  | .external (.api rawApiKey request) =>
    inferInstanceAs (Decidable (Carries env app key p.shared.db rawApiKey request))
  | .external (.dashboard ..) => isFalse id
  | .external (.register ..) => isFalse id
  | .external (.takeSendOtpJob _) => isFalse id
  | .external (.processWebhook ..) => isFalse id

instance : DecidablePred (Reachable p)
  | .resume i a => inferInstanceAs (Decidable (∀ t ∈ p.threads[i]?, enqueuing t = true ∨ a.ok = true))
  | .external _ => isTrue trivial

instance : DecidablePred (LooksUpAlone app key p)
  | .resume i a => inferInstanceAs (Decidable (∀ t ∈ p.threads[i]?, ∀ c ∈ lookingUp t,
      (∀ u ∈ p.threads, inFlight u = false) ∧ (key.length ≤ 255 ∨
        (∀ u ∈ p.threads, accepted u = false) ∨
          (cachedResponse p.shared c.process app key a.ok).isSome = true)))
  | .external _ => isTrue trivial

instance : DecidablePred (Allowed env app key p) := fun _ => inferInstanceAs (Decidable (_ ∧ _ ∧ _))

def sampleSend (phoneNumber : String) (bytes : ℕ) : SystemLabel :=
  .external (.api (some "wotp_live_00")
    ⟨.send ⟨phoneNumber, none, 300, "otp_auth_v1", "en_US"⟩ (some "order-17"), "198.51.100.7", none,
      0, bytes, 0⟩)

theorem sampleSystem_fresh : Fresh 2 "order-17" sampleSystem :=
  ⟨rfl, rfl, fun _ => rfl, fun row member => (by cases member)⟩

end Sample

/-- A send to one number and, once it is answered, one to another number. -/
theorem sentOnce_of_two_sends :
    ∃ q, run (Pool.step (systemProgram OtpPool.sampleEnv)) sampleSystem
      (sampleSend "+4915112345678" 7 :: resolve 0 33 ++
        sampleSend "+4915112345679" 8 :: resolve 1 8) = some q ∧ SentOnce sampleSystem.shared q :=
  ⟨_, (Option.some_get (by decide +kernel)).symm,
    sentOnce_of_looksUpAlone (by decide) sampleSystem_fresh (by decide +kernel)
      (Option.some_get (by decide +kernel)).symm⟩

/-- The second send looks the key up before the first one has saved its answer. -/
theorem two_sends_dispatched :
    ¬∀ (env : Env) (app : Id) (key : String) (p q : System) (labels : List SystemLabel),
      key ≠ "" → Fresh app key p →
      Respects (Pool.step (systemProgram env)) (fun s l => OnlyKey env app key s l ∧ Reachable s l)
        p labels →
      run (Pool.step (systemProgram env)) p labels = some q → SentOnce p.shared q := by
  intro once
  have violated := once OtpPool.sampleEnv 2 "order-17" sampleSystem _
    (sampleSend "+4915112345678" 7 :: sampleSend "+4915112345679" 8 ::
      (resolve 0 9 ++ resolve 1 33 ++ resolve 0 24))
    (by decide) sampleSystem_fresh (by decide +kernel) (Option.some_get (by decide +kernel)).symm
  have dispatched := violated.dispatched
  revert dispatched
  decide +kernel

end Runs

end IdempotentSend

end SelfOtp
