import SelfOtp.Properties.OtpPool
import SelfOtp.Properties.Tenants

/-! Which request a saved response is given back to. -/
namespace SelfOtp.Replay

open Pool Transition

/-! ### Saved and replayed responses -/

def call : Thread → Option SendCall
  | .send c => some c
  | _ => none

def sends (p : System) : List SendCall := p.threads.filterMap call

/-- The response that a send has made. -/
def made (env : Env) (c : SendCall) : Option SendResponse :=
  match c.pc with
  | .saveRecord d _ => some (c.response env d)
  | .replied statusCode response => if statusCode = 202 then some response else none
  | _ => none

/-- The saved response that a send was answered with. -/
def replayed : SendPc → Option SendResponse
  | .replied statusCode response => if statusCode = 200 then some response else none
  | _ => none

structure SameRequest (env : Env) (numberText : ℚ → String) (first second : SendBody) : Prop where
  requestHash : hashRequestBody env numberText first = hashRequestBody env numberText second
  phoneNumber : first.phoneNumber = second.phoneNumber
  otp : first.otp = second.otp
  ttlSeconds : first.ttlSeconds = second.ttlSeconds

/-- Whoever receives the response of another send has made the same request. -/
def ReplaysSame (env : Env) (numberText : ℚ → String) (p : System) : Prop :=
  ∀ b ∈ sends p, ∀ c ∈ sends p, ∀ response ∈ made env b, replayed c.pc = some response →
    SameRequest env numberText b.body c.body

/-! ### What has been saved -/

structure Save where
  body : SendBody
  response : SendResponse
  savedAt : Millis

/-- What has been saved, by application and key: the last save to Redis or to the memory of a process
comes first, the first one to the database does. -/
structure Saves where
  redis : List ((Id × String) × Save)
  memory : List ((ℕ × Id × String) × Save)
  records : List ((Id × String) × Save)

namespace Saves

def none : Saves := ⟨[], [], []⟩

def all (h : Saves) : List Save :=
  h.redis.map (·.2) ++ h.memory.map (·.2) ++ h.records.map (·.2)

/-- The save that a send finds: the last one to Redis, for a day, or else the last one in its process,
and in the database the first one. -/
def found (h : Saves) (now : Millis) (a : Answer) (c : SendCall) : Option Save :=
  match c.pc with
  | .idempotencyCache key =>
    -- without an answer of Redis, or with an expired entry, the process memory is looked at
    let cached := if a.ok then h.redis.lookup (c.applicationId, key) else .none
    (cached.filter fun s => now ≤ s.savedAt + 86400000).or
      (h.memory.lookup (c.process, c.applicationId, key))
  | .idempotencyRecord key => if a.ok then h.records.lookup (c.applicationId, key) else .none
  | _ => .none

end Saves

/-- `idempotency_keys` has room for the key, and the application and the customer exist. -/
def Recordable (w : World) (c : SendCall) (key : String) : Prop :=
  key.length ≤ 255 ∧ (∃ a ∈ w.db.applications, a.id = c.applicationId) ∧
    ∃ x ∈ w.db.customers, x.id = c.customer.id

instance (w : World) (c : SendCall) (key : String) : Decidable (Recordable w c key) :=
  inferInstanceAs (Decidable (_ ∧ _ ∧ _))

def noteSave (env : Env) (w : World) (a : Answer) (h : Saves) (c : SendCall) : Saves :=
  match c.pc with
  | .saveCache d key =>
    let save : Save := ⟨c.body, c.response env d, w.now⟩
    -- the process memory takes the response whether or not Redis does
    { h with
      redis := if a.ok then ((c.applicationId, key), save) :: h.redis else h.redis
      memory := ((c.process, c.applicationId, key), save) :: h.memory }
  | .saveRecord d key =>
    if a.ok ∧ Recordable w c key then
      { h with records := h.records ++ [((c.applicationId, key), ⟨c.body, c.response env d, w.now⟩)] }
    else h
  | _ => h

def note (env : Env) (p : System) (h : Saves) : SystemLabel → Saves
  | .resume i a => ((p.threads[i]?.bind call).map (noteSave env p.shared a h)).getD h
  | .external _ => h

/-- The system and the record of its saves. -/
def saving (env : Env) : System × Saves → SystemLabel → Option (System × Saves) :=
  recording (step (systemProgram env)) (note env)

/-- What a send finds was saved by the same request. -/
def FindsSame (env : Env) (numberText : ℚ → String) : System × Saves → SystemLabel → Prop
  | (p, h), .resume i a => ∀ c ∈ p.threads[i]?.bind call, ∀ s ∈ h.found p.shared.now a c,
      SameRequest env numberText s.body c.body
  | _, .external _ => True

/-- No response is saved, and nothing runs. -/
structure Unsaved (p : System) : Prop where
  threads : p.threads = []
  redis : ∀ slot, p.shared.redis.idempotency slot = none
  memory : ∀ process slot, (p.shared.memory process).idempotency slot = none
  records : p.shared.db.idempotencyKeys = []

/-! ### The three stores and the record -/

/-- The stores hold what the record says. -/
structure Mirrors (w : World) (h : Saves) : Prop where
  redis : ∀ slot, w.redis.idempotency slot =
    (h.redis.lookup slot).map fun s => ⟨s.response, s.savedAt + 86400000⟩
  memory : ∀ process slot, (w.memory process).idempotency slot =
    (h.memory.lookup (process, slot)).map (·.response)
  records : ∀ applicationId key, recordedResponse w applicationId key "/v1/otp/send" true =
    (h.records.lookup (applicationId, key)).map (·.response)

section Stores

variable {env : Env} {w w' : World} {h : Saves} {c : SendCall} {a : Answer} {d : Dispatch} {key : String}

theorem Mirrors.same (mirrors : Mirrors w h) (caches : SameCaches w w')
    (keys : w'.db.idempotencyKeys = w.db.idempotencyKeys) : Mirrors w' h := by
  refine ⟨fun slot => ?_, fun process slot => ?_, fun applicationId key => ?_⟩
  · rw [caches.1]
    exact mirrors.redis slot
  · rw [caches.2 process]
    exact mirrors.memory process slot
  · have before := mirrors.records applicationId key
    unfold recordedResponse at before ⊢
    rw [keys]
    exact before

/-- The entry in front is the value of its key. -/
theorem lookup_cons {α β : Type} [BEq α] [LawfulBEq α] [DecidableEq α] {k j : α} {v : β}
    {l : List (α × β)} : List.lookup j ((k, v) :: l) = if j = k then some v else l.lookup j := by
  by_cases same : j = k
  · subst same
    rw [List.lookup_cons_self, if_pos rfl]
  · have apart : (j == k) = false := beq_false_of_ne same
    rw [if_neg same, List.lookup_cons, apart]

theorem memory_cacheResponse {process other : ℕ} {applicationId : Id} {response : SendResponse} {ok : Bool}
    {slot : Id × String} :
    ((cacheResponse w process applicationId key response ok).memory other).idempotency slot =
      if (other, slot) = (process, applicationId, key) then some response
      else (w.memory other).idempotency slot := by
  unfold cacheResponse
  simp only [World.mapMemory_memory, Prod.mk.injEq]
  by_cases here : other = process
  · subst here
    simp only [if_true, true_and, Function.update_apply]
    split
    · rfl
    · split <;> rfl
  · simp only [here, false_and, if_false]
    split <;> rfl

theorem Mirrors.saveCache (mirrors : Mirrors w h) (here : c.pc = .saveCache d key) :
    Mirrors (cacheResponse w c.process c.applicationId key (c.response env d) a.ok)
      (noteSave env w a h c) := by
  simp only [noteSave, here]
  refine ⟨fun slot => ?_, fun process slot => ?_, fun applicationId key => ?_⟩
  · have before := mirrors.redis slot
    have day : (86400 : ℚ) = ((86400 : ℤ) : ℚ) := rfl
    have milliseconds : 1000 * (86400 : ℤ).toNat = 86400000 := rfl
    unfold cacheResponse
    rw [day, ExpiringMap.setEx_whole (by decide), milliseconds]
    cases a.ok with
    | false => exact before
    | true =>
      simp only [if_true, World.mapMemory_redis, World.mapRedis_redis, ExpiringMap.put,
        Function.update_apply, lookup_cons]
      split
      · rfl
      · exact before
  · rw [lookup_cons, memory_cacheResponse]
    split
    · rfl
    · exact mirrors.memory process slot
  · have before := mirrors.records applicationId key
    unfold cacheResponse
    dsimp only
    split <;> exact before

theorem Mirrors.saveRecord (mirrors : Mirrors w h) (here : c.pc = .saveRecord d key) :
    Mirrors (recordResponse w ⟨c.customer.id, c.applicationId, key, "/v1/otp/send", 202, c.response env d⟩ a.ok)
      (noteSave env w a h c) := by
  simp only [noteSave, here]
  have fits : "/v1/otp/send".length ≤ 255 := by decide
  unfold recordResponse
  by_cases takes : a.ok ∧ Recordable w c key
  · have inserted : a.ok = true ∧ key.length ≤ 255 ∧ "/v1/otp/send".length ≤ 255 ∧
        (∃ x ∈ w.db.applications, x.id = c.applicationId) ∧ ∃ x ∈ w.db.customers, x.id = c.customer.id :=
      ⟨takes.1, takes.2.1, fits, takes.2.2⟩
    rw [if_pos inserted, if_pos takes]
    refine ⟨mirrors.redis, mirrors.memory, fun applicationId other => ?_⟩
    have before := mirrors.records applicationId other
    unfold recordedResponse at before ⊢
    simp only [if_true, World.mapDb_db, List.find?_append, List.lookup_append, Option.map_or] at before ⊢
    rw [before, List.find?_singleton, lookup_cons, List.lookup_nil]
    congr 1
    -- the new record is the last one, so it only counts where there was none
    by_cases same : (applicationId, other) = (c.applicationId, key)
    · cases same
      rw [if_pos rfl]
      simp
    · have apart : ¬(c.applicationId = applicationId ∧ key = other) := fun equal =>
        same (by rw [equal.1, equal.2])
      rw [if_neg same]
      simp [apart]
  · rw [if_neg fun inserted => takes ⟨inserted.1, inserted.2.1, inserted.2.2.2⟩, if_neg takes]
    exact mirrors

theorem Mirrors.get (mirrors : Mirrors w h) (slot : Id × String) :
    w.redis.idempotency.get w.now slot =
      ((h.redis.lookup slot).filter fun s => w.now ≤ s.savedAt + 86400000).map (·.response) := by
  unfold ExpiringMap.get
  rw [mirrors.redis]
  cases h.redis.lookup slot with
  | none => rfl
  | some s =>
    by_cases live : w.now ≤ s.savedAt + 86400000
    · rw [Option.filter_some, if_pos (decide_eq_true live)]
      exact if_pos live
    · rw [Option.filter_some, if_neg (by simpa using live)]
      exact if_neg live

/-- What a send finds is the response of the save. -/
theorem Mirrors.found (mirrors : Mirrors w h) :
    (h.found w.now a c).map (·.response) =
      match c.pc with
      | .idempotencyCache key => cachedResponse w c.process c.applicationId key a.ok
      | .idempotencyRecord key => recordedResponse w c.applicationId key "/v1/otp/send" a.ok
      | _ => none := by
  unfold Saves.found
  split
  next key pc =>
    unfold cachedResponse
    rw [mirrors.get, mirrors.memory]
    cases a.ok with
    | false => rfl
    | true =>
      simp only [if_true]
      cases (h.redis.lookup (c.applicationId, key)).filter fun s => w.now ≤ s.savedAt + 86400000 <;> rfl
  next key pc =>
    cases a.ok with
    | false => rfl
    | true => exact (mirrors.records c.applicationId key).symm
  · rfl

end Stores

/-! ### The steps -/

/-- The id of the request that a send at this position has created. -/
def named : SendPc → Option String
  | .replied statusCode response => if statusCode = 202 then some response.requestId else none
  | pc => pc.dispatch.map (·.requestId)

section Steps

variable {env : Env} {w w' : World} {h : Saves} {c c' : SendCall} {t t' : Thread} {a : Answer}
  {r : SendResponse}

theorem named_of_made (response : made env c = some r) : named c.pc = some r.requestId := by
  unfold made at response
  split at response
  next d key pc =>
    cases response
    rw [pc]
    rfl
  next statusCode r pc =>
    split at response
    next accepted =>
      cases response
      rw [pc]
      exact if_pos accepted
    · cases response
  · cases response

theorem named_finish (d : Dispatch) : named (c.finish env d) = some d.requestId := by
  unfold SendCall.finish
  cases c.key <;> rfl

/-- The request that a send names after a step is the one it named before, or the step creates it. -/
theorem step_named (taken : c.step env w a = some (w', c')) :
    named c'.pc = none ∨ named c'.pc = named c.pc ∨
      ∃ r ∈ w'.db.otpRequests, named c'.pc = some r.requestId ∧
        ∀ s ∈ w.db.otpRequests, s.requestId ≠ r.requestId := by
  have move := (SendCall.step_move taken).1
  generalize c.pc = pc at move
  generalize c'.pc = pc' at move
  cases move with
  | early before after =>
    left
    rcases after with rfl | ⟨key, -, rfl⟩ | ⟨-, rfl⟩ <;> rfl
  | check before same after =>
    left
    cases pc' with
    | limit | cooldown => rfl
    | _ => cases after
  | refuse | hit | miss | known | unknown | prepare | unpaid | crash => exact Or.inl rfl
  | create otpCode requestId expiresAt db created =>
    unfold Database.createOtpRequest at created
    split at created
    -- the row is inserted only if no row has its request id
    next conditions =>
      cases created
      exact Or.inr (Or.inr ⟨_, List.mem_append_right _ (List.mem_singleton_self _), rfl, conditions.1⟩)
    · cases created
  | debit | store | setCooldown | offline | markFailed | saveCache | saveRecord => exact Or.inr (Or.inl rfl)
  | enqueue d | markSent d | refund d => exact Or.inr (Or.inl (named_finish d))
  | deliver d after =>
    right
    left
    rw [after]
    split <;> rfl

theorem step_body (taken : c.step env w a = some (w', c')) : c'.body = c.body := by
  rw [(SendCall.step_move taken).2]
  rfl

/-- A response that has been made stays. -/
theorem step_made (taken : c.step env w a = some (w', c')) (response : made env c = some r) :
    made env c' = some r := by
  unfold made at response
  split at response
  next d key pc =>
    simp only [SendCall.step, pc] at taken
    cases taken
    exact response
  next statusCode r pc => simp [SendCall.step, pc] at taken
  · cases response

/-- The stores and the record keep step. -/
theorem step_mirrors (mirrors : Mirrors w h) (taken : c.step env w a = some (w', c')) :
    Mirrors w' (noteSave env w a h c) := by
  cases idle : c.saves with
  | none =>
    obtain ⟨caches, keys⟩ := SendCall.step_keepsSaved taken idle
    have unnoted : noteSave env w a h c = h := by
      unfold SendCall.saves at idle
      unfold noteSave
      cases pc : c.pc with
      | saveCache d key | saveRecord d key =>
        rw [pc] at idle
        cases idle
      | _ => rfl
    rw [unnoted]
    exact mirrors.same caches keys
  -- the two steps of `saveIdempotentResponse`
  | some saved =>
    unfold SendCall.saves at idle
    split at idle
    next d key pc =>
      have mirrored : Mirrors (cacheResponse w c.process c.applicationId key (c.response env d) a.ok)
          (noteSave env w a h c) := mirrors.saveCache pc
      simp only [SendCall.step, pc] at taken
      cases taken
      exact mirrored
    next d key pc =>
      have mirrored : Mirrors (recordResponse w ⟨c.customer.id, c.applicationId, key, "/v1/otp/send", 202,
          c.response env d⟩ a.ok) (noteSave env w a h c) := mirrors.saveRecord pc
      simp only [SendCall.step, pc] at taken
      cases taken
      exact mirrored
    · cases idle

/-- A send is answered with a saved response if it finds one. -/
theorem step_replayed (mirrors : Mirrors w h) (taken : c.step env w a = some (w', c')) :
    replayed c'.pc = (h.found w.now a c).map (·.response) := by
  rw [mirrors.found]
  have move := (SendCall.step_move taken).1
  generalize c.pc = pc at move
  generalize c'.pc = pc' at move
  cases move with
  | hit key response found | known key response found => exact found.symm
  | miss key missed | unknown key missed => exact missed.symm
  | early before after =>
    cases pc with
    | customerBlocked | phoneBlocked => rcases after with rfl | ⟨key, -, rfl⟩ | ⟨-, rfl⟩ <;> rfl
    | _ => cases before
  | refuse before same =>
    cases pc with
    | idempotencyCache | idempotencyRecord => simp [SendPc.unlooked, SendPc.checking] at before
    | _ => rfl
  | check before same after =>
    cases pc with
    | limit | cooldown => cases pc' <;> first | rfl | cases after
    | _ => cases before
  | crash before =>
    cases pc with
    | idempotencyCache | idempotencyRecord => cases before
    | _ => rfl
  | enqueue d | markSent d | refund d =>
    unfold SendCall.finish
    cases c.key <;> rfl
  | deliver d after =>
    rw [after]
    split <;> rfl
  | _ => rfl

theorem mem_noteSave {s : Save} (saved : s ∈ (noteSave env w a h c).all) :
    s ∈ h.all ∨ ∃ d, ((∃ key, c.pc = .saveCache d key) ∨ ∃ key, c.pc = .saveRecord d key) ∧
      s = ⟨c.body, c.response env d, w.now⟩ := by
  unfold noteSave at saved
  split at saved
  next d key pc =>
    have either : s ∈ h.all ∨ s = ⟨c.body, c.response env d, w.now⟩ := by
      cases up : a.ok <;>
        simp only [up, Saves.all, if_true, Bool.false_eq_true, if_false, List.map_cons, List.mem_append,
          List.mem_cons] at saved ⊢ <;> tauto
    exact either.imp_right fun new => ⟨d, Or.inl ⟨key, pc⟩, new⟩
  next d key pc =>
    split at saved
    · have either : s ∈ h.all ∨ s = ⟨c.body, c.response env d, w.now⟩ := by
        simp only [Saves.all, List.map_append, List.map_cons, List.map_nil, List.mem_append,
          List.mem_singleton] at saved ⊢
        tauto
      exact either.imp_right fun new => ⟨d, Or.inr ⟨key, pc⟩, new⟩
    · exact Or.inl saved
  · exact Or.inl saved

/-- A save is in the record already, or is of the response that the send makes. -/
theorem step_authors (taken : c.step env w a = some (w', c')) {s : Save}
    (saved : s ∈ (noteSave env w a h c).all) :
    s ∈ h.all ∨ c'.body = s.body ∧ made env c' = some s.response := by
  rcases mem_noteSave saved with old | ⟨d, ⟨key, pc⟩ | ⟨key, pc⟩, rfl⟩
  · exact Or.inl old
  · simp only [SendCall.step, pc] at taken
    cases taken
    exact Or.inr ⟨rfl, rfl⟩
  · simp only [SendCall.step, pc] at taken
    cases taken
    exact Or.inr ⟨rfl, rfl⟩

/-! ### The system -/

theorem resume_other (resumed : Thread.resume env w t a = some (w', t')) (other : call t = none) :
    ∀ c ∈ call t', c.pc = .customerBlocked := by
  intro c sent
  cases t with
  | authenticating request b =>
    simp only [Thread.resume] at resumed
    obtain ⟨b', -, rfl⟩ := Thread.stepped_eq_some resumed
    split at sent
    · unfold Thread.handler at sent
      split at sent <;> cases sent
      rfl
    · cases sent
  | send b => cases other
  | verify | resend | status | dashboard | register | sendOtpJob | webhook =>
    simp only [Thread.resume] at resumed
    obtain ⟨b', -, rfl⟩ := Thread.stepped_eq_some resumed
    cases sent

end Steps

/-- The created requests are in the database, and each belongs to one send. -/
structure Named (p : System) : Prop where
  known : ∀ c ∈ sends p, ∀ id ∈ named c.pc, ∃ r ∈ p.shared.db.otpRequests, r.requestId = id
  apart : ∀ (i j : ℕ) (b c : SendCall), p.threads[i]? = some (.send b) → p.threads[j]? = some (.send c) →
    ∀ id ∈ named b.pc, named c.pc = some id → i = j

/-- The record is true, and its responses were made by the sends that it names. -/
structure Recorded (env : Env) (p : System) (h : Saves) : Prop where
  mirrors : Mirrors p.shared h
  authors : ∀ s ∈ h.all, ∃ b ∈ sends p, b.body = s.body ∧ made env b = some s.response
  named : Named p

/-- Every response that was received again has been made by the same request. -/
def FromSame (env : Env) (numberText : ℚ → String) (p : System) : Prop :=
  ∀ c ∈ sends p, ∀ response ∈ replayed c.pc, ∃ b ∈ sends p, made env b = some response ∧
    SameRequest env numberText b.body c.body

section Invariants

variable {env : Env} {numberText : ℚ → String} {p q : System} {h : Saves} {w' : World} {t t' : Thread}
  {a : Answer} {i : ℕ} {b c : SendCall}

theorem call_eq_some : call t = some c ↔ t = .send c := by
  constructor
  · intro sent
    cases t with
    | send b =>
      cases sent
      rfl
    | _ => cases sent
  · rintro rfl
    rfl

theorem mem_sends : c ∈ sends p ↔ .send c ∈ p.threads := by
  unfold sends
  rw [List.mem_filterMap]
  constructor
  · rintro ⟨t, member, sent⟩
    rwa [← call_eq_some.mp sent]
  · exact fun member => ⟨_, member, rfl⟩

/-- Two sends that name one request are one send. -/
theorem Named.same {id : String} (named : Named p) (first : b ∈ sends p) (second : c ∈ sends p)
    (one : Replay.named b.pc = some id) (two : Replay.named c.pc = some id) : b = c := by
  obtain ⟨i, at_i⟩ := List.mem_iff_getElem?.mp (mem_sends.mp first)
  obtain ⟨j, at_j⟩ := List.mem_iff_getElem?.mp (mem_sends.mp second)
  obtain rfl := named.apart i j b c at_i at_j id one two
  cases at_i.symm.trans at_j
  rfl

theorem Recorded.replaysSame (recorded : Recorded env p h) (same : FromSame env numberText p) :
    ReplaysSame env numberText p := by
  intro b maker c receiver response response_made received
  obtain ⟨first, member, also_made, alike⟩ := same c receiver response received
  have one := recorded.named.same member maker (named_of_made also_made) (named_of_made response_made)
  rwa [one] at alike

/-- A send keeps its body, the response that it has made and the one that it has received. -/
structure Keeps (env : Env) (b b' : SendCall) : Prop where
  body : b'.body = b.body
  made : ∀ r, made env b = some r → made env b' = some r
  replayed : ∀ r, replayed b.pc = some r → replayed b'.pc = some r

theorem keeps_of_resume (found : p.threads[i]? = some t)
    (resumed : Thread.resume env p.shared t a = some (w', t')) (member : b ∈ sends p) :
    ∃ b' ∈ sends ⟨w', p.threads.set i t'⟩, Keeps env b b' := by
  have inside := (List.getElem?_eq_some_iff.mp found).1
  rcases mem_set_or_eq (u := t') found (mem_sends.mp member) with still | rfl
  · exact ⟨b, mem_sends.mpr still, rfl, fun _ => id, fun _ => id⟩
  · obtain ⟨b', stepped, rfl⟩ := Thread.stepped_eq_some resumed
    refine ⟨b', mem_sends.mpr (List.mem_set inside _), step_body stepped, fun r => step_made stepped,
      fun r received => ?_⟩
    unfold replayed at received
    split at received
    next statusCode response pc => simp [SendCall.step, pc] at stepped
    · cases received

theorem sends_of_resume (member : c ∈ sends ⟨w', p.threads.set i t'⟩) : c ∈ sends p ∨ call t' = some c := by
  rcases mem_set_cases (mem_sends.mp member) with rfl | ⟨j, -, old⟩
  · exact Or.inr rfl
  · exact Or.inl (mem_sends.mpr (List.mem_of_getElem? old))

theorem resume_send (resumed : Thread.resume env p.shared (.send b) a = some (w', t'))
    (sent : call t' = some c) :
    b.step env p.shared a = some (w', c) := by
  obtain ⟨b', stepped, rfl⟩ := Thread.stepped_eq_some resumed
  cases sent
  exact stepped

theorem resume_named (resumed : Thread.resume env p.shared t a = some (w', t')) (sent : call t' = some c) :
    named c.pc = none ∨ (∃ b, t = .send b ∧ named c.pc = named b.pc) ∨
      ∃ r ∈ w'.db.otpRequests, named c.pc = some r.requestId ∧
        ∀ s ∈ p.shared.db.otpRequests, s.requestId ≠ r.requestId := by
  cases other : call t with
  | none =>
    left
    rw [resume_other resumed other c sent]
    rfl
  | some b =>
    obtain rfl := call_eq_some.mp other
    rcases step_named (resume_send resumed sent) with nothing | same | created
    · exact Or.inl nothing
    · exact Or.inr (Or.inl ⟨b, rfl, same⟩)
    · exact Or.inr (Or.inr created)

theorem Named.resume (named : Named p) (found : p.threads[i]? = some t)
    (resumed : Thread.resume env p.shared t a = some (w', t')) : Named ⟨w', p.threads.set i t'⟩ := by
  have rows := Thread.resume_rows resumed
  have member := List.mem_of_getElem? found
  -- a send elsewhere names another request than the thread that moves
  have apart {j : ℕ} {b c : SendCall} {id : String} (sent : call t' = some c) (ne : j ≠ i)
      (there : p.threads[j]? = some (.send b)) (one : Replay.named b.pc = some id)
      (two : Replay.named c.pc = some id) : False := by
    rcases resume_named resumed sent with nothing | ⟨c', rfl, same⟩ | ⟨r, -, names, unused⟩
    · cases nothing.symm.trans two
    · exact ne (named.apart j i b c' there found id one (same.symm.trans two))
    · obtain ⟨s, old, requested⟩ := named.known b (mem_sends.mpr (List.mem_of_getElem? there)) id one
      cases names.symm.trans two
      exact unused s old requested
  refine ⟨fun c sent id names => ?_, fun j k b c first second id one two => ?_⟩
  · have persists (r : OtpRequest) (old : r ∈ p.shared.db.otpRequests) (requested : r.requestId = id) :
        ∃ s ∈ w'.db.otpRequests, s.requestId = id := by
      obtain ⟨s, still, same⟩ := rows.persists old
      exact ⟨s, still, same.requestId.trans requested⟩
    rcases sends_of_resume sent with old | moved
    · obtain ⟨r, old_row, requested⟩ := named.known c old id names
      exact persists r old_row requested
    · rcases resume_named resumed moved with nothing | ⟨b, rfl, same⟩ | ⟨r, there, names', -⟩
      · cases nothing.symm.trans names
      · obtain ⟨r, old_row, requested⟩ := named.known b (mem_sends.mpr member) id (same.symm.trans names)
        exact persists r old_row requested
      · exact ⟨r, there, Option.some.inj (names'.symm.trans names)⟩
  · rcases getElem?_set_cases first with ⟨rfl, here⟩ | ⟨ne, there⟩
    · rcases getElem?_set_cases second with ⟨rfl, -⟩ | ⟨ne', there'⟩
      · rfl
      · exact (apart (call_eq_some.mpr here.symm) ne' there' two one).elim
    · rcases getElem?_set_cases second with ⟨rfl, here⟩ | ⟨-, there'⟩
      · exact (apart (call_eq_some.mpr here.symm) ne there one two).elim
      · exact named.apart j k b c there there' id one two

theorem Recorded.resume (recorded : Recorded env p h) (found : p.threads[i]? = some t)
    (resumed : Thread.resume env p.shared t a = some (w', t')) :
    Recorded env ⟨w', p.threads.set i t'⟩ (((call t).map (noteSave env p.shared a h)).getD h) := by
  have inside := (List.getElem?_eq_some_iff.mp found).1
  have old (s : Save) (saved : s ∈ h.all) : ∃ b ∈ sends ⟨w', p.threads.set i t'⟩, b.body = s.body ∧
      made env b = some s.response := by
    obtain ⟨b, member, body, response⟩ := recorded.authors s saved
    obtain ⟨b', still, keeps⟩ := keeps_of_resume found resumed member
    exact ⟨b', still, keeps.body.trans body, keeps.made _ response⟩
  cases other : call t with
  -- no other thread saves a response
  | none =>
    have idle (c : SendCall) (sent : t = .send c) : c.saves = none := by
      rw [call_eq_some.mpr sent] at other
      cases other
    obtain ⟨caches, keys⟩ := Thread.resume_keepsSaved resumed idle
    exact ⟨recorded.mirrors.same caches keys, old, recorded.named.resume found resumed⟩
  | some c =>
    obtain rfl := call_eq_some.mp other
    obtain ⟨c', stepped, rfl⟩ := Thread.stepped_eq_some resumed
    refine ⟨step_mirrors recorded.mirrors stepped, fun s saved => ?_, recorded.named.resume found resumed⟩
    rcases step_authors stepped saved with before | ⟨body, response⟩
    · exact old s before
    · exact ⟨c', mem_sends.mpr (List.mem_set inside _), body, response⟩

theorem mem_of_found {s : Save} {now : Millis} (found : h.found now a c = some s) : s ∈ h.all := by
  have value {α : Type} [BEq α] [LawfulBEq α] {k : α} {l : List (α × Save)} (there : l.lookup k = some s) :
      s ∈ l.map (·.2) := by
    obtain ⟨before, after, rfl, -⟩ := List.lookup_eq_some_iff.mp there
    simp
  unfold Saves.found at found
  unfold Saves.all
  split at found
  · rcases Option.or_eq_some_iff.mp found with cached | ⟨-, remembered⟩
    · obtain ⟨cached, -⟩ := Option.filter_eq_some_iff.mp cached
      split at cached
      · exact List.mem_append_left _ (List.mem_append_left _ (value cached))
      · cases cached
    · exact List.mem_append_left _ (List.mem_append_right _ (value remembered))
  · split at found
    · exact List.mem_append_right _ (value found)
    · cases found
  · cases found

/-- Who receives a response in this step has found it. -/
theorem found_of_received (recorded : Recorded env p h)
    (resumed : Thread.resume env p.shared t a = some (w', t')) (sent : call t' = some c) {r : SendResponse}
    (received : replayed c.pc = some r) :
    ∃ b s, t = .send b ∧ c.body = b.body ∧ h.found p.shared.now a b = some s ∧ s.response = r := by
  cases other : call t with
  | none =>
    rw [resume_other resumed other c sent] at received
    cases received
  | some b =>
    obtain rfl := call_eq_some.mp other
    have stepped := resume_send resumed sent
    rw [step_replayed recorded.mirrors stepped] at received
    obtain ⟨s, found, response⟩ := Option.map_eq_some_iff.mp received
    exact ⟨b, s, rfl, step_body stepped, found, response⟩

theorem FromSame.resume (same : FromSame env numberText p) (recorded : Recorded env p h)
    (found : p.threads[i]? = some t) (resumed : Thread.resume env p.shared t a = some (w', t'))
    (finds : FindsSame env numberText (p, h) (.resume i a)) :
    FromSame env numberText ⟨w', p.threads.set i t'⟩ := by
  intro c receiver response received
  rcases sends_of_resume receiver with old | moved
  -- received before: the request that made the response is still there
  · obtain ⟨b, maker, response_made, alike⟩ := same c old response received
    obtain ⟨b', still, keeps⟩ := keeps_of_resume found resumed maker
    exact ⟨b', still, keeps.made _ response_made, by rwa [keeps.body]⟩
  -- received now, from a save in the record
  · obtain ⟨c₀, s, rfl, body, save, rfl⟩ := found_of_received recorded resumed moved received
    have alike := finds c₀ (by rw [found]; rfl) s save
    obtain ⟨b, maker, author, response_made⟩ := recorded.authors s (mem_of_found save)
    obtain ⟨b', still, keeps⟩ := keeps_of_resume found resumed maker
    exact ⟨b', still, keeps.made _ response_made, by rwa [keeps.body, author, body]⟩

/-! ### Runs -/

theorem external_silent {event : SystemEvent} {born : List Thread}
    (acted : Thread.external p.shared event = some (w', born)) : ∀ u ∈ born, call u = none := by
  have one {v : Thread} (silent : call v = none) : ∀ u ∈ [v], call u = none := fun u member => by
    rwa [List.mem_singleton.mp member]
  cases event with
  | tick d =>
    cases acted
    exact fun u member => (by cases member)
  | takeSendOtpJob j =>
    simp only [Thread.external] at acted
    split at acted <;> cases acted
    exact one rfl
  | api | dashboard | register | processWebhook =>
    cases acted
    exact one rfl

theorem external_sends {event : SystemEvent} {born : List Thread}
    (acted : Thread.external p.shared event = some (w', born)) : sends ⟨w', p.threads ++ born⟩ = sends p := by
  unfold sends
  rw [List.filterMap_append, List.filterMap_eq_nil_iff.mpr (external_silent acted), List.append_nil]

theorem Recorded.external {event : SystemEvent} {born : List Thread} (recorded : Recorded env p h)
    (acted : Thread.external p.shared event = some (w', born)) :
    Recorded env ⟨w', p.threads ++ born⟩ h := by
  have same : External env p.shared w' born := Thread.external_cases acted
  have sent := external_sends acted
  refine ⟨recorded.mirrors.same (.of_stores same.redis same.memory) (by rw [same.db]), ?_, ?_, ?_⟩
  · rw [sent]
    exact recorded.authors
  · rw [sent, same.db]
    exact recorded.named.known
  · have old {j : ℕ} {b : SendCall} (there : (p.threads ++ born)[j]? = some (.send b)) :
        p.threads[j]? = some (.send b) := by
      rw [List.getElem?_append] at there
      split at there
      · exact there
      · cases external_silent acted _ (List.mem_of_getElem? there)
    exact fun j k b c first second => recorded.named.apart j k b c (old first) (old second)

theorem Recorded.step {l : SystemLabel} (recorded : Recorded env p h)
    (taken : Pool.step (systemProgram env) p l = some q) : Recorded env q (note env p h l) := by
  cases l with
  | resume i a =>
    obtain ⟨t, w', t', found, resumed, rfl⟩ := step_resume taken
    simp only [note, found]
    exact recorded.resume found resumed
  | external event =>
    obtain ⟨w', born, acted, rfl⟩ := step_external taken
    exact recorded.external acted

theorem FromSame.step {l : SystemLabel} (same : FromSame env numberText p) (recorded : Recorded env p h)
    (finds : FindsSame env numberText (p, h) l) (taken : Pool.step (systemProgram env) p l = some q) :
    FromSame env numberText q := by
  cases l with
  | resume i a =>
    obtain ⟨t, w', t', found, resumed, rfl⟩ := step_resume taken
    exact same.resume recorded found resumed finds
  | external event =>
    obtain ⟨w', born, acted, rfl⟩ := step_external taken
    unfold FromSame
    rw [external_sends acted]
    exact same

/-- A send that finds a save receives its response. -/
theorem ReplaysSame.finds {l : SystemLabel} (same : ReplaysSame env numberText q)
    (recorded : Recorded env p h) (taken : Pool.step (systemProgram env) p l = some q) :
    FindsSame env numberText (p, h) l := by
  cases l with
  | external event => trivial
  | resume i a =>
    obtain ⟨t, w', t', found, resumed, rfl⟩ := step_resume taken
    intro c sent s save
    rw [found] at sent
    obtain rfl := call_eq_some.mp sent
    obtain ⟨c', stepped, rfl⟩ := Thread.stepped_eq_some resumed
    have inside := (List.getElem?_eq_some_iff.mp found).1
    have received : replayed c'.pc = some s.response := by
      rw [step_replayed recorded.mirrors stepped, save]
      rfl
    obtain ⟨b, maker, author, response_made⟩ := recorded.authors s (mem_of_found save)
    obtain ⟨b', still, keeps⟩ := keeps_of_resume found resumed maker
    have alike := same b' still c' (mem_sends.mpr (List.mem_set inside _)) s.response
      (keeps.made _ response_made) received
    rwa [keeps.body, author, step_body stepped] at alike

theorem Recorded.advances {l : SystemLabel} (recorded : Recorded env p h)
    (taken : Pool.step (systemProgram env) p l = some q) :
    FindsSame env numberText (p, h) l ∧ Recorded env q (note env p h l) ∨ ¬ReplaysSame env numberText q := by
  by_cases finds : FindsSame env numberText (p, h) l
  · exact Or.inl ⟨finds, recorded.step taken⟩
  · exact Or.inr fun same => finds (same.finds recorded taken)

/-- What the sends have received after a step does not contradict what they had received before. -/
theorem ReplaysSame.before {l : SystemLabel} (same : ReplaysSame env numberText q)
    (taken : Pool.step (systemProgram env) p l = some q) : ReplaysSame env numberText p := by
  cases l with
  | resume i a =>
    obtain ⟨t, w', t', found, resumed, rfl⟩ := step_resume taken
    intro b maker c receiver r response received
    obtain ⟨b', still, keeps⟩ := keeps_of_resume found resumed maker
    obtain ⟨c', still', keeps'⟩ := keeps_of_resume found resumed receiver
    have alike := same b' still c' still' r (keeps.made r response) (keeps'.replayed r received)
    rwa [keeps.body, keeps'.body] at alike
  | external event =>
    obtain ⟨w', born, acted, rfl⟩ := step_external taken
    unfold ReplaysSame at same
    rw [external_sends acted] at same
    exact same

theorem Unsaved.recorded (unsaved : Unsaved p) : Recorded env p .none := by
  have nobody : sends p = [] := by
    unfold sends
    rw [unsaved.threads]
    rfl
  refine ⟨⟨unsaved.redis, unsaved.memory, fun applicationId key => ?_⟩, fun s saved => (by cases saved), ?_, ?_⟩
  · unfold recordedResponse
    rw [unsaved.records]
    rfl
  · simp [nobody]
  · simp [unsaved.threads]

/-- A saved response is given to the same request only, if and only if every send that finds a save is
the same request as the one that saved it. -/
theorem replays_same_iff {labels : List SystemLabel} {k : Saves} (unsaved : Unsaved p)
    (returned : run (saving env) (p, .none) labels = some (q, k)) :
    ReplaysSame env numberText q ↔ Respects (saving env) (FindsSame env numberText) (p, .none) labels := by
  have fresh : FromSame env numberText p := by
    unfold FromSame sends
    rw [unsaved.threads]
    exact fun c sent => (by cases sent)
  constructor
  -- a step that breaks the condition gives a response away, and that stays so
  · intro same
    have advances (s : System × Saves) (l : SystemLabel) (t : System × Saves) (recorded : Recorded env s.1 s.2)
        (_ : True) (taken : saving env s l = some t) : FindsSame env numberText s l ∧ Recorded env t.1 t.2 ∨
          ¬ReplaysSame env numberText t.1 := by
      obtain ⟨taken, noted⟩ := recording_eq_some taken
      rw [noted]
      exact recorded.advances taken
    have either := respects_or_marked (fun s => Recorded env s.1 s.2)
      (fun s => ¬ReplaysSame env numberText s.1) advances
      (fun s l t mixed _ taken same => mixed (same.before (recording_eq_some taken).1))
      unsaved.recorded (respects_of_forall (fun _ _ _ => trivial) _) returned
    exact (either.resolve_right fun mixed => mixed same).1
  -- by induction on the run: who received a response was the same request as its maker
  · intro finds
    have both := run_invariant_of_respects
      (fun s => Recorded env s.1 s.2 ∧ FromSame env numberText s.1)
      (fun s l t held finds taken => by
        obtain ⟨taken, noted⟩ := recording_eq_some taken
        rw [noted]
        exact ⟨held.1.step taken, held.2.step held.1 finds taken⟩)
      ⟨unsaved.recorded, fresh⟩ finds returned
    exact both.1.replaysSame both.2

/-! ### A small system -/

instance (first second : SendBody) : Decidable (SameRequest env numberText first second) :=
  decidable_of_iff (hashRequestBody env numberText first = hashRequestBody env numberText second ∧
      first.phoneNumber = second.phoneNumber ∧ first.otp = second.otp ∧ first.ttlSeconds = second.ttlSeconds)
    ⟨fun ⟨hash, phone, otp, ttl⟩ => ⟨hash, phone, otp, ttl⟩,
      fun ⟨hash, phone, otp, ttl⟩ => ⟨hash, phone, otp, ttl⟩⟩

instance : Decidable (ReplaysSame env numberText p) :=
  inferInstanceAs (Decidable (∀ b ∈ sends p, ∀ c ∈ sends p, ∀ response ∈ made env b,
    replayed c.pc = some response → SameRequest env numberText b.body c.body))

instance : DecidableRel (FindsSame env numberText)
  | (p, h), .resume i a => inferInstanceAs (Decidable (∀ c ∈ p.threads[i]?.bind call,
      ∀ s ∈ h.found p.shared.now a c, SameRequest env numberText s.body c.body))
  | _, .external _ => isTrue trivial

/-- One send, and another with the same key once it is answered. -/
def keyTwice (first second : String) : List SystemLabel :=
  let send (phoneNumber : String) : SystemLabel :=
    sampleRequest (.send ⟨phoneNumber, none, 300, "otp_auth_v1", "en_US"⟩ (some "order-17"))
  send first :: resolve 0 33 ++ send second :: resolve 1 8

theorem sampleSystem_unsaved : Unsaved sampleSystem := ⟨rfl, fun _ => rfl, fun _ _ => rfl, rfl⟩

/-- The text of a whole number. -/
def wholeText (q : ℚ) : String := toString q.num

/-- The same request twice. -/
theorem replays_same_of_repeated :
    ∃ q k, run (saving OtpPool.sampleEnv) (sampleSystem, .none) (keyTwice "+4915112345678" "+4915112345678") =
        some (q, k) ∧ (∃ c ∈ sends q, (replayed c.pc).isSome) ∧
      ReplaysSame OtpPool.sampleEnv wholeText q := by
  have returned := (Option.some_get (show (run (saving OtpPool.sampleEnv) (sampleSystem, .none)
    (keyTwice "+4915112345678" "+4915112345678")).isSome = true by decide +kernel)).symm
  exact ⟨_, _, returned, by decide +kernel,
    (replays_same_iff sampleSystem_unsaved returned).mpr (by decide +kernel)⟩

/-- The key is used again for another phone number. -/
theorem replayed_to_another_request :
    ¬∀ (env : Env) (numberText : ℚ → String) (p q : System) (labels : List SystemLabel), Unsaved p →
      run (step (systemProgram env)) p labels = some q → ReplaysSame env numberText q := by
  intro same
  have violated := same OtpPool.sampleEnv wholeText sampleSystem _
    (keyTwice "+4915112345678" "+4915112345679") sampleSystem_unsaved
    (Option.some_get (by decide +kernel)).symm
  revert violated
  decide +kernel

end Invariants

end SelfOtp.Replay
