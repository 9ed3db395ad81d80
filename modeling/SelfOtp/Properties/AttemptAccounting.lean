import SelfOtp.Properties.Dispatches
import SelfOtp.Properties.Filing
import SelfOtp.Properties.OtpPool

/-! The attempts of an OTP request and the verifications that are recorded for it. -/
namespace SelfOtp

/-- Redis refuses the entry that a send stores next. -/
def Thread.refused : Thread → Bool
  | send c =>
    match c.pc with
    | .store _ => !(0 < c.body.ttlSeconds && c.body.ttlSeconds.den == 1)
    | _ => false
  | authenticating .. | verify .. | resend _ | status .. | dashboard _ | register _ | sendOtpJob _
  | webhook _ => false

/-- The next step does not lose count: a resend stores a new entry for a request that has had
no attempt, and a wrong code finds more than half a second of life left, or none. -/
def Thread.countsOn (env : Env) (w : World) : Thread → Bool
  | resend c =>
    match c.pc with
    | .store d => w.db.otpRequests.all fun r => r.id != d.record.id || r.attempts == 0
    | _ => true
  | verify _ c =>
    match c.pc with
    | .ttl _ => w.redis.otp.ttl w.now (c.key env) != 0
    | _ => true
  | authenticating .. | send _ | status .. | dashboard _ | register _ | sendOtpJob _
  | webhook _ => true

/-- The row has been created, its entry has not been stored yet. -/
def SendPc.entering : SendPc → Option Dispatch
  | debit d | store d => some d
  | _ => none

namespace AttemptAccounting

open Pool Transition

def attemptNumbers (db : Database) (id : Id) : List ℕ :=
  (db.otpVerifications.filter (·.otpRequestId == id)).map (·.attemptNumber)

def incorrects (db : Database) (id : Id) : ℕ :=
  (db.otpVerifications.filter (·.otpRequestId == id)).countP (·.result == .incorrect)

/-- The row and its verifications agree. -/
structure Accounted (db : Database) (r : OtpRequest) : Prop where
  attempts : r.attempts = (attemptNumbers db r.id).length
  numbers : (attemptNumbers db r.id).Perm (List.range' 1 r.attempts)
  incorrect : incorrects db r.id ≤ r.maxAttempts

/-- The calls of sends, resends and verifications succeed. -/
def CallsSucceed (p : System) : SystemLabel → Prop
  | .resume i a => ∀ t ∈ p.threads[i]?, t.unanswered true = true → a.ok = true ∧ t.refused = false
  | .external _ => True

def CountsOn (env : Env) (p : System) : SystemLabel → Prop
  | .resume i _ => ∀ t ∈ p.threads[i]?, t.countsOn env p.shared = true
  | .external _ => True

section Decidable

variable {env : Env} {p : System}

instance : DecidablePred (CallsSucceed p)
  | .resume i _ => inferInstanceAs (Decidable (∀ t ∈ p.threads[i]?, _ → _))
  | .external _ => isTrue trivial

instance : DecidablePred (CountsOn env p)
  | .resume i _ => inferInstanceAs (Decidable (∀ t ∈ p.threads[i]?, _))
  | .external _ => isTrue trivial

end Decidable

/-! ### The books -/

/-- What is counted of a request. -/
structure Account where
  id : Id
  requestId : String
  attempts : ℕ
  maxAttempts : ℕ
  deriving DecidableEq

def account (r : OtpRequest) : Account := ⟨r.id, r.requestId, r.attempts, r.maxAttempts⟩

def accounts (db : Database) : List Account := db.otpRequests.map account

/-- The verifications of the request are numbered in order. -/
structure InOrder (db : Database) (x : Account) : Prop where
  numbers : attemptNumbers db x.id = List.range' 1 x.attempts
  incorrect : incorrects db x.id ≤ x.maxAttempts

/-- The books are kept but for the row `owing` a verification, and the OTP entries but for the
one under the key `stale`. -/
structure Kept (env : Env) (w : World) (owing : Option Id) (stale : Option OtpKey) : Prop where
  memory : ∀ process key, (w.memory process).otp key = none
  limits : ∀ x ∈ accounts w.db, x.maxAttempts = env.otpMaxVerifyAttempts
  owned : ∀ v ∈ w.db.otpVerifications, ∃ x ∈ accounts w.db, x.id = v.otpRequestId
  rows : ∀ x ∈ accounts w.db, owing ≠ some x.id → InOrder w.db x
  entries : ∀ key data, w.redis.otp.get w.now key = some data → stale ≠ some key →
    ∃ x ∈ accounts w.db, x.requestId = data.requestId ∧ x.attempts = data.attempts ∧
      data.attempts < env.otpMaxVerifyAttempts

/-- Nothing of this changes. -/
structure Neutral (w w' : World) : Prop where
  now : w.now ≤ w'.now
  books : accounts w'.db = accounts w.db
  otpVerifications : w'.db.otpVerifications = w.db.otpVerifications
  otp : w'.redis.otp = w.redis.otp
  memory : ∀ process, (w'.memory process).otp = (w.memory process).otp

section Books

variable {env : Env} {w w' : World} {db : Database} {owing : Option Id} {stale : Option OtpKey}

theorem InOrder.accounted {r : OtpRequest} (in_order : InOrder db (account r)) : Accounted db r := by
  have numbers : attemptNumbers db r.id = List.range' 1 r.attempts := in_order.numbers
  exact ⟨by rw [numbers, List.length_range'], by rw [numbers], in_order.incorrect⟩

theorem incorrects_le (db : Database) (id : Id) : incorrects db id ≤ (attemptNumbers db id).length := by
  rw [attemptNumbers, List.length_map]
  exact List.countP_le_length

theorem attemptNumbers_createVerification (v : OtpVerification) (id : Id) :
    attemptNumbers (db.createVerification v) id =
      attemptNumbers db id ++ if v.otpRequestId = id then [v.attemptNumber] else [] := by
  by_cases same : v.otpRequestId = id <;> simp [attemptNumbers, Database.createVerification, same]

theorem incorrects_createVerification (v : OtpVerification) (id : Id) :
    incorrects (db.createVerification v) id = incorrects db id +
      if v.otpRequestId = id ∧ v.result = .incorrect then 1 else 0 := by
  by_cases same : v.otpRequestId = id <;>
    simp [incorrects, Database.createVerification, same, List.countP_singleton]

theorem InOrder.of_verifications {x : Account} {db' : Database} (in_order : InOrder db x)
    (same : db'.otpVerifications = db.otpVerifications) : InOrder db' x := by
  refine ⟨?_, ?_⟩
  · rw [attemptNumbers, same]
    exact in_order.numbers
  · rw [incorrects, same]
    exact in_order.incorrect

/-- A verification of another request. -/
theorem InOrder.createVerification {x : Account} (in_order : InOrder db x) {v : OtpVerification}
    (other : v.otpRequestId ≠ x.id) : InOrder (db.createVerification v) x := by
  refine ⟨?_, ?_⟩
  · rw [attemptNumbers_createVerification, if_neg other, List.append_nil]
    exact in_order.numbers
  · rw [incorrects_createVerification, if_neg fun both => other both.1]
    exact in_order.incorrect

theorem accounts_updateOtpRequest (id : Id) (data : OtpRequest → OtpRequest)
    (change : Account → Account) (same : ∀ r, account (data r) = change (account r)) :
    accounts (db.updateOtpRequest id data) =
      (accounts db).map fun x => if x.id = id then change x else x := by
  simp only [accounts, Database.updateOtpRequest, List.map_map]
  refine List.map_congr_left fun r _ => ?_
  rw [Function.comp_apply, Function.comp_apply]
  by_cases here : r.id = id
  · rw [if_pos here, if_pos (c := (account r).id = id) here, same]
  · rw [if_neg here, if_neg (c := (account r).id = id) here]

theorem Neutral.refl (w : World) : Neutral w w := ⟨le_refl _, rfl, rfl, rfl, fun _ => rfl⟩

theorem Neutral.of_core (same : SameCore w w') : Neutral w w' :=
  ⟨same.now.ge, by rw [same.db], by rw [same.db], same.otp, fun process => (same.memory process).1⟩

theorem Neutral.of_statuses (same : SameStores w w') (statuses : StatusesOnly w w') : Neutral w w' :=
  ⟨same.now.ge, statuses.map_eq account fun _ _ => rfl, statuses.otpVerifications, by rw [same.redis],
    fun process => by rw [same.memory]⟩

theorem Neutral.of_requests (same : SameRequests w w') : Neutral w w' :=
  ⟨same.now.ge, by rw [accounts, same.rows, accounts], same.otpVerifications, by rw [same.redis],
    fun process => by rw [same.memory]⟩

theorem Neutral.setStatus (id : Id) (status : OtpStatus) :
    Neutral w (w.mapDb (·.setStatus id status)) :=
  ⟨le_refl _, w.db.map_updateOtpRequest account id _ fun _ => rfl, rfl, rfl, fun _ => rfl⟩

theorem Kept.neutral (kept : Kept env w owing stale) (neutral : Neutral w w') :
    Kept env w' owing stale := by
  refine ⟨fun process key => ?_, ?_, ?_, fun x there due => ?_, fun key data got fresh => ?_⟩
  · rw [neutral.memory]
    exact kept.memory process key
  · rw [neutral.books]
    exact kept.limits
  · rw [neutral.books, neutral.otpVerifications]
    exact kept.owned
  · rw [neutral.books] at there
    exact (kept.rows x there due).of_verifications neutral.otpVerifications
  · rw [neutral.otp] at got
    rw [neutral.books]
    exact kept.entries key data (ExpiringMap.get_later got neutral.now) fresh

/-! ### The steps that keep no count -/

theorem AuthCall.step_neutral {c c' : AuthCall} {ok : Bool} (h : c.step env w ok = some (w', c')) :
    Neutral w w' := .of_core (AuthCall.step_session h).1

/-- Neither the creation of a row nor a new entry. -/
theorem SendCall.step_neutral {c c' : SendCall} {a : Answer} (h : c.step env w a = some (w', c'))
    (no_row : ∀ otpCode requestId expiresAt, c.pc ≠ .create otpCode requestId expiresAt)
    (no_entry : ∀ d, c.pc ≠ .store d) : Neutral w w' := by
  have move := (SendCall.step_move h).1
  generalize c.pc = pc at move no_row no_entry
  generalize c'.pc = pc' at move
  cases move with
  | create otpCode requestId expiresAt => exact absurd rfl (no_row otpCode requestId expiresAt)
  | store d => exact absurd rfl (no_entry d)
  | refuse before same | check before same | setCooldown d same => exact .of_core same
  | markSent | markFailed => exact .setStatus ..
  | saveCache d key =>
    unfold cacheResponse
    dsimp only
    refine ⟨?_, ?_, ?_, ?_, fun process => ?_⟩
    · rw [World.mapMemory_now]
      split <;> exact le_refl _
    · rw [World.mapMemory_db]
      split <;> rfl
    · rw [World.mapMemory_db]
      split <;> rfl
    · rw [World.mapMemory_redis]
      split <;> rfl
    · rw [World.mapMemory_memory]
      split
      next here =>
        subst here
        split <;> rfl
      · split <;> rfl
  | saveRecord d key =>
    unfold recordResponse
    split <;> exact ⟨le_refl _, rfl, rfl, rfl, fun _ => rfl⟩
  | _ => exact ⟨le_refl _, rfl, rfl, rfl, fun _ => rfl⟩

theorem ResendCall.step_neutral {c c' : ResendCall} {a : Answer} (h : c.step env w a = some (w', c'))
    (no_entry : ∀ d, c.pc ≠ .store d) : Neutral w w' := by
  have move := (ResendCall.step_move h).1
  generalize c.pc = pc at move no_entry
  generalize c'.pc = pc' at move
  cases move with
  | store d => exact absurd rfl (no_entry d)
  | setCooldown d same => exact .of_core same
  | expire | markSent => exact .setStatus ..
  | update d =>
    exact ⟨le_refl _, w.db.map_updateOtpRequest account _ _ fun _ => rfl, rfl, rfl, fun _ => rfl⟩
  | _ => exact ⟨le_refl _, rfl, rfl, rfl, fun _ => rfl⟩

end Books

/-! ### One verification -/

/-- The row of a request and its attempts. -/
def Row (env : Env) (w : World) (id : Id) (requestId : String) (attempts : ℕ) : Prop :=
  ⟨id, requestId, attempts, env.otpMaxVerifyAttempts⟩ ∈ accounts w.db

/-- The entry that a wrong code has been counted in. -/
structure Counted (f : Fetched) : Prop where
  object : f.object = none
  attempts : f.data.attempts = f.attempts

/-- The state of the books at each point of a verification under the key. -/
inductive Stage (env : Env) (w : World) (key : OtpKey) : VerifyPc → Prop
  | even {pc} (kept : Kept env w none none) (at_ends : pc = .lookup ∨ pc.answered = true) :
      Stage env w key pc
  | found {f} (kept : Kept env w none none) (object : f.object = none) (id : Id)
      (row : Row env w id f.data.requestId f.data.attempts) (next : f.attempts = f.data.attempts + 1)
      (few : f.data.attempts < env.otpMaxVerifyAttempts) : Stage env w key (.findRecord f)
  | counting {f id} (kept : Kept env w none none) (counted : Counted f) (before : ℕ)
      (row : Row env w id f.data.requestId before) (next : f.attempts = before + 1)
      (few : before < env.otpMaxVerifyAttempts) : Stage env w key (.incorrectAttempts f id)
  | recording {f id} (kept : Kept env w (some id) (some key)) (counted : Counted f) (before : ℕ)
      (row : Row env w id f.data.requestId f.attempts)
      (numbers : attemptNumbers w.db id = List.range' 1 before) (next : f.attempts = before + 1)
      (few : before < env.otpMaxVerifyAttempts) : Stage env w key (.incorrectVerification f id)
  | exceeding {pc} (kept : Kept env w none (some key))
      (at_limit : (∃ f id, pc = .maxStatus f id) ∨ ∃ f, pc = .maxBlock f ∨ pc = .maxDelete f) :
      Stage env w key pc
  | renewing {pc f} (kept : Kept env w none (some key)) (counted : Counted f) (id : Id)
      (row : Row env w id f.data.requestId f.attempts) (few : f.attempts < env.otpMaxVerifyAttempts)
      (at_life : pc = .ttl f ∨ ∃ seconds, 0 < seconds ∧ pc = .writeBack f seconds) : Stage env w key pc
  | accepting {f id} (kept : Kept env w none none) (before : ℕ)
      (row : Row env w id f.data.requestId before) (next : f.attempts = before + 1) :
      Stage env w key (.delete f (some id))
  | verifying {f id time} (kept : Kept env w none none) (gone : w.redis.otp.get w.now key = none)
      (before : ℕ) (row : Row env w id f.data.requestId before) (next : f.attempts = before + 1) :
      Stage env w key (.verifiedStatus f id time)
  | confirming {f id time} (kept : Kept env w (some id) none) (before : ℕ)
      (row : Row env w id f.data.requestId f.attempts)
      (numbers : attemptNumbers w.db id = List.range' 1 before) (next : f.attempts = before + 1)
      (incorrect : incorrects w.db id ≤ env.otpMaxVerifyAttempts) :
      Stage env w key (.correctVerification f id time)

section Stages

variable {env : Env} {w w' : World} {key : OtpKey} {pc : VerifyPc} {c c' : VerifyCall}

theorem Stage.neutral (stage : Stage env w key pc) (neutral : Neutral w w') : Stage env w' key pc := by
  have row {id : Id} {requestId : String} {attempts : ℕ} (row : Row env w id requestId attempts) :
      Row env w' id requestId attempts := by
    rw [Row, neutral.books]
    exact row
  have numbers (id : Id) : attemptNumbers w'.db id = attemptNumbers w.db id := by
    rw [attemptNumbers, neutral.otpVerifications, attemptNumbers]
  cases stage with
  | even kept at_ends => exact .even (kept.neutral neutral) at_ends
  | found kept object id there next few => exact .found (kept.neutral neutral) object id (row there) next few
  | counting kept counted before there next few =>
    exact .counting (kept.neutral neutral) counted before (row there) next few
  | recording kept counted before there in_order next few =>
    exact .recording (kept.neutral neutral) counted before (row there) ((numbers _).trans in_order) next few
  | exceeding kept at_limit => exact .exceeding (kept.neutral neutral) at_limit
  | renewing kept counted id there few at_life =>
    exact .renewing (kept.neutral neutral) counted id (row there) few at_life
  | accepting kept before there next => exact .accepting (kept.neutral neutral) before (row there) next
  | verifying kept gone before there next =>
    refine .verifying (kept.neutral neutral) ?_ before (row there) next
    by_contra live
    obtain ⟨data, got⟩ := Option.ne_none_iff_exists'.mp live
    rw [neutral.otp] at got
    rw [ExpiringMap.get_later got neutral.now] at gone
    cases gone
  | confirming kept before there in_order next incorrect =>
    refine .confirming (kept.neutral neutral) before (row there) ((numbers _).trans in_order) next ?_
    rw [incorrects, neutral.otpVerifications]
    exact incorrect

theorem Stage.kept_of_answered (stage : Stage env w key pc) (answered : pc.answered = true) :
    Kept env w none none := by
  cases stage with
  | even kept => exact kept
  | exceeding kept at_limit =>
    rcases at_limit with ⟨f, id, rfl⟩ | ⟨f, rfl | rfl⟩ <;> cases answered
  | renewing kept counted id row few at_life =>
    rcases at_life with rfl | ⟨seconds, -, rfl⟩ <;> cases answered
  | _ => cases answered

/-- Two rows of a request are one. -/
theorem Row.unique (ids : RowIds w.db.otpRequests w.nextId) {x : Account} (there : x ∈ accounts w.db)
    {id : Id} {requestId : String} {attempts : ℕ} (row : Row env w id requestId attempts)
    (same : x.id = id ∨ x.requestId = requestId) :
    x = ⟨id, requestId, attempts, env.otpMaxVerifyAttempts⟩ := by
  obtain ⟨r, member, rfl⟩ := List.mem_map.mp there
  obtain ⟨s, member', is_row⟩ := List.mem_map.mp row
  have ids_eq : s.id = id := congrArg Account.id is_row
  have names_eq : s.requestId = requestId := congrArg Account.requestId is_row
  rw [← is_row, ids.unique r member s member']
  rcases same with same | same
  · exact Or.inl (same.trans ids_eq.symm)
  · exact Or.inr (same.trans names_eq.symm)

/-- An entry under another key belongs to another row. -/
theorem other_row (ids : RowIds w.db.otpRequests w.nextId) {other : OtpKey} {requestId : String}
    (here : Requested env w.db key requestId) (there : Requested env w.db other requestId) :
    other = key := by
  obtain ⟨r, member, names, of_app, of_phone⟩ := here
  obtain ⟨s, member', names', of_app', of_phone'⟩ := there
  obtain rfl := ids.unique r member s member' (Or.inr (names.trans names'.symm))
  exact Prod.ext (of_app'.symm.trans of_app) (of_phone'.symm.trans of_phone)

/-- The row counts an attempt that has no verification yet. -/
theorem Kept.charge (kept : Kept env w none none) (ids : RowIds w.db.otpRequests w.nextId)
    (entries : ∀ key requestId, Holds w key requestId → Requested env w.db key requestId)
    {id : Id} {requestId : String} {before attempts : ℕ} (row : Row env w id requestId before)
    (here : Requested env w.db key requestId) (data : OtpRequest → OtpRequest)
    (counts : ∀ r, account (data r) = { account r with attempts := attempts }) :
    Kept env (w.mapDb (·.updateOtpRequest id data)) (some id) (some key) ∧
      Row env (w.mapDb (·.updateOtpRequest id data)) id requestId attempts := by
  have books : accounts (w.mapDb (·.updateOtpRequest id data)).db =
      (accounts w.db).map fun x => if x.id = id then { x with attempts := attempts } else x :=
    accounts_updateOtpRequest id data (fun x => { x with attempts := attempts }) counts
  have moved {x : Account} (there : x ∈ accounts w.db) (other : x.id ≠ id) :
      x ∈ accounts (w.mapDb (·.updateOtpRequest id data)).db := by
    rw [books]
    exact List.mem_map.mpr ⟨x, there, if_neg other⟩
  refine ⟨⟨kept.memory, fun x there => ?_, fun v there => ?_, fun x there due => ?_,
    fun other stored got fresh => ?_⟩, ?_⟩
  · rw [books] at there
    obtain ⟨y, old, rfl⟩ := List.mem_map.mp there
    have limit := kept.limits y old
    split <;> exact limit
  · obtain ⟨x, there, owns⟩ := kept.owned v there
    rw [books]
    refine ⟨_, List.mem_map_of_mem there, ?_⟩
    split <;> exact owns
  · rw [books] at there
    obtain ⟨y, old, rfl⟩ := List.mem_map.mp there
    split
    next same =>
      rw [if_pos same] at due
      exact absurd (congrArg some same.symm) due
    · exact (kept.rows y old (by simp)).of_verifications rfl
  · obtain ⟨x, there, names, rest⟩ := kept.entries other stored got (by simp)
    refine ⟨x, moved there fun same => fresh ?_, names, rest⟩
    -- the row of the key is the one that is written
    have is_row := row.unique ids there (Or.inl same)
    have names : stored.requestId = requestId := by
      rw [← names, is_row]
    have there := entries other stored.requestId (Or.inl ⟨stored, got, rfl⟩)
    rw [names] at there
    exact congrArg some (other_row ids here there).symm
  · rw [Row, books]
    exact List.mem_map.mpr ⟨_, row, if_pos rfl⟩

/-- The entry under the key is gone. -/
theorem Kept.fresh {owing : Option Id} (kept : Kept env w owing (some key))
    (gone : w.redis.otp.get w.now key = none) : Kept env w owing none := by
  refine ⟨kept.memory, kept.limits, kept.owned, kept.rows, fun other data got _ => ?_⟩
  refine kept.entries other data got fun same => ?_
  cases same
  rw [gone] at got
  cases got

/-- The entry under the key is deleted. -/
theorem Kept.deleted {stale : Option OtpKey} (kept : Kept env w none stale)
    (only : ∀ other, stale = some other → other = c.key env) :
    Kept env (c.deleteEntry env w true) none none ∧
      (c.deleteEntry env w true).redis.otp.get (c.deleteEntry env w true).now (c.key env) = none := by
  have gone : (w.redis.otp.del (c.key env)).get w.now (c.key env) = none := ExpiringMap.get_del_self
  refine ⟨⟨fun process key => ?_, kept.limits, kept.owned, kept.rows, fun other data got _ => ?_⟩, gone⟩
  · rcases (VerifyCall.deleteEntry_memory process).otp key with same | dropped
    · exact same.trans (kept.memory process key)
    · exact dropped
  · have got : (w.redis.otp.del (c.key env)).get w.now other = some data := got
    refine kept.entries other data (ExpiringMap.get_of_get_del got) fun same => ?_
    rw [only other same, gone] at got
    cases got

/-- The entry under the key has the count of its row again. -/
theorem Kept.renewed (kept : Kept env w none (some key)) {otp : ExpiringMap OtpKey StoredOtp}
    {cell : Cell StoredOtp} (put : otp = w.redis.otp.put key cell) (id : Id)
    (row : Row env w id cell.value.requestId cell.value.attempts)
    (few : cell.value.attempts < env.otpMaxVerifyAttempts) :
    Kept env (w.mapRedis fun r => { r with otp := otp }) none none := by
  subst put
  refine ⟨kept.memory, kept.limits, kept.owned, kept.rows, fun other data got _ => ?_⟩
  by_cases here : other = key
  · subst here
    have got : (w.redis.otp.put other cell).get w.now other = some data := got
    rw [ExpiringMap.get_put_self] at got
    split at got <;> cases got
    exact ⟨_, row, rfl, rfl, few⟩
  · have got : (w.redis.otp.put key cell).get w.now other = some data := got
    rw [ExpiringMap.get_put_ne here] at got
    exact kept.entries other data got fun same => here (Option.some.inj same).symm

/-- The verification that a row owes. -/
theorem Kept.record {stale : Option OtpKey} (ids : RowIds w.db.otpRequests w.nextId) {id : Id}
    (kept : Kept env w (some id) stale) {requestId : String} {before : ℕ}
    (row : Row env w id requestId (before + 1)) (numbers : attemptNumbers w.db id = List.range' 1 before)
    {v : OtpVerification} (of_row : v.otpRequestId = id) (number : v.attemptNumber = before + 1)
    (incorrect : incorrects w.db id + (if v.result = .incorrect then 1 else 0) ≤
      env.otpMaxVerifyAttempts) : Kept env (w.mapDb (·.createVerification v)) none stale := by
  refine ⟨kept.memory, kept.limits, fun u there => ?_, fun x there _ => ?_, kept.entries⟩
  · rcases List.mem_append.mp there with old | new
    · exact kept.owned u old
    · cases List.mem_singleton.mp new
      exact ⟨_, row, of_row.symm⟩
  · by_cases same : x.id = id
    · rw [row.unique ids there (Or.inl same)]
      refine ⟨?_, ?_⟩
      · simp only [World.mapDb_db, attemptNumbers_createVerification, if_pos of_row, numbers, number]
        rw [List.range'_concat, Nat.one_mul, Nat.add_comm]
      · simpa only [World.mapDb_db, incorrects_createVerification, of_row, true_and] using incorrect
    · refine (kept.rows x there fun owing => same (Option.some.inj owing).symm).createVerification ?_
      rw [of_row]
      exact Ne.symm same

theorem Stage.step {ok : Bool} (stage : Stage env w (c.key env) c.pc)
    (ids : RowIds w.db.otpRequests w.nextId)
    (entries : ∀ key requestId, Holds w key requestId → Requested env w.db key requestId)
    (linked : c.Linked env w) (up : ok = true)
    (countsOn : ∀ f, c.pc = .ttl f → w.redis.otp.ttl w.now (c.key env) ≠ 0)
    (h : c.step env w ok = some (w', c')) : Stage env w' (c.key env) c'.pc := by
  subst up
  generalize at_pc : c.pc = pc at stage
  cases stage with
  | even kept at_ends =>
    rcases at_ends with rfl | answered
    · simp only [VerifyCall.step, at_pc] at h
      split at h <;> cases h
      next f found =>
        obtain ⟨next, ⟨object, -, got⟩ | ⟨object, -, -, stored, -⟩⟩ := VerifyCall.lookup_cases f found
        · obtain ⟨x, there, names, counts, few⟩ := kept.entries _ _ got (by simp)
          refine .found kept object x.id ?_ next few
          rw [Row, ← names, ← counts, ← kept.limits x there]
          exact there
        · rw [kept.memory] at stored
          cases stored
      · exact .even kept (Or.inr rfl)
    · cases pc <;> simp [VerifyPc.answered, VerifyCall.step, at_pc] at answered h
  | @found f kept object id row next few =>
    have named : (w.db.findOtpRequest f.data.requestId c.applicationId).map (·.id) = some id := by
      obtain ⟨r, member, names, of_app, -⟩ := linked.requested f (by rw [at_pc]; rfl)
      obtain ⟨s, found⟩ : ∃ s, w.db.findOtpRequest f.data.requestId c.applicationId = some s := by
        refine Option.isSome_iff_exists.mp (List.find?_isSome.mpr ⟨r, member, ?_⟩)
        rw [names, of_app]
        simp [VerifyCall.key]
      obtain ⟨there, names, -⟩ := Database.findOtpRequest_eq_some found
      have is_row := row.unique ids (List.mem_map_of_mem there) (Or.inr names)
      rw [found]
      exact congrArg (fun x => some x.id) is_row
    simp only [VerifyCall.step, at_pc, named, if_true] at h
    split at h <;> cases h
    · exact .accepting kept f.data.attempts row next
    · have same : c.mutate w f = w := by
        unfold VerifyCall.mutate
        rw [object]
      rw [same]
      exact .counting kept ⟨object, rfl⟩ f.data.attempts row next few
  | @counting f id kept counted before before_row next few =>
    simp only [VerifyCall.step, at_pc, if_true] at h
    cases h
    obtain ⟨charged, row⟩ := kept.charge ids entries before_row (linked.requested f (by rw [at_pc]; rfl))
      (fun r => { r with attempts := f.attempts }) fun r => rfl
    exact .recording charged counted before row (kept.rows _ before_row (by simp)).numbers next few
  | @recording f id kept counted before row numbers next few =>
    simp only [VerifyCall.step, at_pc, if_true] at h
    cases h
    rw [next] at row
    have recorded := kept.record ids row numbers (v := c.verification f id .incorrect) rfl next
      (by
        have bound := incorrects_le w.db id
        rw [numbers, List.length_range'] at bound
        exact (Nat.add_le_add_right bound 1).trans few)
    unfold VerifyCall.goto VerifyCall.afterIncorrect
    dsimp only
    split
    · exact .exceeding recorded (Or.inl ⟨f, id, rfl⟩)
    next below => exact .renewing recorded counted id (next ▸ row) (not_le.mp below) (Or.inl rfl)
  | exceeding kept at_limit =>
    rcases at_limit with ⟨f, id, rfl⟩ | ⟨f, rfl | rfl⟩ <;>
      simp only [VerifyCall.step, at_pc, if_true] at h <;> cases h
    · exact .exceeding (kept.neutral (.setStatus ..)) (Or.inr ⟨f, Or.inl rfl⟩)
    · exact .exceeding (kept.neutral (.of_core (blockPhoneNumber_sameCore ..))) (Or.inr ⟨f, Or.inr rfl⟩)
    · exact .even (kept.deleted fun other same => (Option.some.inj same).symm).1 (Or.inr rfl)
  | @renewing pc f kept counted id row few at_life =>
    rcases at_life with rfl | ⟨seconds, positive, rfl⟩
    · simp only [VerifyCall.step, at_pc, Bool.true_and] at h
      split at h <;> cases h
      next alive => exact .renewing kept counted id row few (Or.inr ⟨_, of_decide_eq_true alive, rfl⟩)
      next late =>
        refine .even (kept.fresh (ExpiringMap.get_eq_none_of_ttl_neg ?_)) (Or.inr rfl)
        simp only [decide_eq_true_eq, not_lt] at late
        exact lt_of_le_of_ne late (countsOn f at_pc)
    · simp only [VerifyCall.step, at_pc, if_true, VerifyCall.storedData, counted.object,
        ExpiringMap.setEx_whole positive] at h
      cases h
      exact .even (kept.renewed rfl id (counted.attempts ▸ row) (counted.attempts ▸ few))
        (Or.inr rfl)
  | @accepting f id kept before row next =>
    simp only [VerifyCall.step, at_pc] at h
    cases h
    obtain ⟨deleted, gone⟩ := kept.deleted (c := c) fun other same => (by cases same)
    exact .verifying deleted gone before row next
  | @verifying f id time kept gone before before_row next =>
    simp only [VerifyCall.step, at_pc, if_true] at h
    cases h
    have in_order := kept.rows _ before_row (by simp)
    obtain ⟨charged, row⟩ := kept.charge ids entries before_row (linked.requested f (by rw [at_pc]; rfl))
      (fun r => { r with status := .verified, attempts := f.attempts, verifiedAt := some time })
      fun r => rfl
    exact .confirming (charged.fresh gone) before row in_order.numbers next in_order.incorrect
  | @confirming f id time kept before row numbers next incorrect =>
    simp only [VerifyCall.step, at_pc, if_true] at h
    cases h
    rw [next] at row
    exact .even (kept.record ids row numbers (v := c.verification f id .correct) rfl next incorrect)
      (Or.inr rfl)

end Stages

/-! ### The invariant -/

section Steps

variable {env : Env} {p q : System}

/-- The books are kept, but for what the one verification that runs has still to do. -/
structure Balanced (env : Env) (p : System) : Prop where
  filed : Filed env p
  alone : total (Thread.busy true) p.threads ≤ 1
  idle : (∀ customer c, Thread.verify customer c ∈ p.threads → c.pc.answered = true) →
    Kept env p.shared none none
  verify : ∀ customer c, Thread.verify customer c ∈ p.threads → c.pc.answered = false →
    Stage env p.shared (c.key env) c.pc
  send : ∀ c, Thread.send c ∈ p.threads → ∀ d ∈ c.pc.entering,
    Row env p.shared d.record d.requestId 0

/-- While another request runs, no verification does. -/
theorem Balanced.answered (balanced : Balanced env p) {i : ℕ} {t : Thread}
    (found : p.threads[i]? = some t) (running : t.unanswered true = true)
    (other : ∀ customer c, t ≠ .verify customer c) :
    ∀ customer c, Thread.verify customer c ∈ p.threads → c.pc.answered = true := by
  intro customer c member
  obtain ⟨j, there⟩ := List.mem_iff_getElem?.mp member
  have apart : j ≠ i := by
    rintro rfl
    exact other customer c (Option.some.inj (found.symm.trans there))
  have counts : 0 < t.busy true := by
    rw [Thread.busy, if_pos running]
    exact Nat.one_pos
  have idle := eq_zero_of_total_le_one found there apart balanced.alone counts
  simpa [Thread.busy, Thread.unanswered] using idle

/-- A step of a thread that is no verification, and starts none but at its look-up. -/
theorem Balanced.set (balanced : Balanced env p) {i : ℕ} {t u : Thread} {w : World}
    (found : p.threads[i]? = some t) (other : ∀ customer c, t ≠ .verify customer c)
    (filed : Filed env ⟨w, p.threads.set i u⟩)
    (alone : total (Thread.busy true) (p.threads.set i u) ≤ 1)
    (kept : Kept env p.shared none none → Kept env w none none)
    (stage : ∀ customer c, Thread.verify customer c ∈ p.threads → c.pc.answered = false →
      Stage env w (c.key env) c.pc)
    (row : ∀ {id requestId attempts}, Row env p.shared id requestId attempts →
      Row env w id requestId attempts)
    (starts : ∀ customer c, u = .verify customer c → c.pc = .lookup ∧ t.unanswered true = true)
    (enters : ∀ c, u = .send c → ∀ d ∈ c.pc.entering, Row env w d.record d.requestId 0) :
    Balanced env ⟨w, p.threads.set i u⟩ := by
  have apart {customer : Customer} {c : VerifyCall} (member : Thread.verify customer c ∈ p.threads) :
      Thread.verify customer c ∈ p.threads.set i u := by
    rcases mem_set_or_eq (u := u) found member with still | same
    · exact still
    · exact absurd same.symm (other customer c)
  refine ⟨filed, alone, fun answered => ?_, fun customer c member running => ?_, fun c member d there => ?_⟩
  · exact kept (balanced.idle fun customer c member => answered customer c (apart member))
  -- a verification that starts finds the books even, since no other one runs
  · rcases mem_set_cases member with same | ⟨j, -, there⟩
    · obtain ⟨pc, unanswered⟩ := starts customer c same.symm
      exact .even (kept (balanced.idle (balanced.answered found unanswered other))) (Or.inl pc)
    · exact stage customer c (List.mem_of_getElem? there) running
  · rcases mem_set_cases member with same | ⟨j, -, old⟩
    · exact enters c same.symm d there
    · exact row (balanced.send c (List.mem_of_getElem? old) d there)

/-- A step that keeps no count. -/
theorem Balanced.neutral (balanced : Balanced env p) {i : ℕ} {t u : Thread} {w : World}
    (found : p.threads[i]? = some t) (other : ∀ customer c, t ≠ .verify customer c)
    (filed : Filed env ⟨w, p.threads.set i u⟩)
    (alone : total (Thread.busy true) (p.threads.set i u) ≤ 1) (neutral : Neutral p.shared w)
    (starts : ∀ customer c, u = .verify customer c → c.pc = .lookup ∧ t.unanswered true = true)
    (enters : ∀ c, u = .send c → ∀ d ∈ c.pc.entering,
      Row env p.shared d.record d.requestId 0) : Balanced env ⟨w, p.threads.set i u⟩ := by
  have row {id : Id} {requestId : String} {attempts : ℕ}
      (row : Row env p.shared id requestId attempts) : Row env w id requestId attempts := by
    rw [Row, neutral.books]
    exact row
  exact balanced.set found other filed alone (fun kept => kept.neutral neutral)
    (fun customer c there running => (balanced.verify customer c there running).neutral neutral) row
    starts fun c same d there => row (enters c same d there)

/-- A new entry for a request without attempts. -/
theorem Kept.stored {w : World} (kept : Kept env w none none) {id : Id} {requestId otpHash : String}
    (row : Row env w id requestId 0) (positive : 0 < env.otpMaxVerifyAttempts) {process : ℕ}
    {key : OtpKey} {ttlSeconds : ℚ} (whole : 0 < ttlSeconds ∧ ttlSeconds.den = 1) :
    Kept env (storeOtp w process key ⟨otpHash, requestId, 0⟩ ttlSeconds true) none none := by
  have set : w.redis.otp.setEx w.now key ⟨otpHash, requestId, 0⟩ ttlSeconds =
      some (w.redis.otp.put key ⟨⟨otpHash, requestId, 0⟩, w.now + 1000 * ttlSeconds.num.toNat⟩) :=
    if_pos whole
  have stale : Kept env w none (some key) :=
    ⟨kept.memory, kept.limits, kept.owned, kept.rows, fun other data got _ =>
      kept.entries other data got (by simp)⟩
  simp only [storeOtp, if_true, set]
  exact stale.renewed rfl id row positive

/-- The row of a new request. -/
theorem Kept.created {w : World} (kept : Kept env w none none) (ids : RowIds w.db.otpRequests w.nextId)
    (row : OtpRequest) (fresh : row.id = w.nextId) (unused : row.attempts = 0)
    (limit : row.maxAttempts = env.otpMaxVerifyAttempts) {w' : World}
    (rows : w'.db.otpRequests = w.db.otpRequests ++ [row])
    (otpVerifications : w'.db.otpVerifications = w.db.otpVerifications) (redis : w'.redis = w.redis)
    (memory : w'.memory = w.memory) (now : w'.now = w.now) : Kept env w' none none := by
  have books : accounts w'.db = accounts w.db ++ [account row] := by
    rw [accounts, rows, List.map_append, List.map_singleton, accounts]
  have old {x : Account} (there : x ∈ accounts w.db) : x ∈ accounts w'.db := by
    rw [books]
    exact List.mem_append_left _ there
  refine ⟨fun process key => ?_, fun x there => ?_, fun v there => ?_, fun x there _ => ?_,
    fun key data got _ => ?_⟩
  · rw [memory]
    exact kept.memory process key
  · rw [books] at there
    rcases List.mem_append.mp there with there | new
    · exact kept.limits x there
    · rw [List.mem_singleton.mp new]
      exact limit
  · rw [otpVerifications] at there
    obtain ⟨x, there, owns⟩ := kept.owned v there
    exact ⟨x, old there, owns⟩
  · rw [books] at there
    refine InOrder.of_verifications ?_ otpVerifications
    rcases List.mem_append.mp there with there | new
    · exact kept.rows x there (by simp)
    · -- no verification has the new id
      have none_yet : w.db.otpVerifications.filter (·.otpRequestId == row.id) = [] := by
        refine List.filter_eq_nil_iff.mpr fun v there => ?_
        obtain ⟨x, there, owns⟩ := kept.owned v there
        obtain ⟨r, member, rfl⟩ := List.mem_map.mp there
        have earlier : r.id < w.nextId := ids.bounded r member
        rw [← owns, fresh, beq_iff_eq]
        exact earlier.ne
      rw [List.mem_singleton.mp new]
      refine ⟨?_, ?_⟩
      · simp [attemptNumbers, account, none_yet, unused]
      · simp [incorrects, account, none_yet]
  · rw [redis, now] at got
    obtain ⟨x, there, rest⟩ := kept.entries key data got (by simp)
    exact ⟨x, old there, rest⟩

theorem entering_step {w w' : World} {c c' : SendCall} {a : Answer} (h : c.step env w a = some (w', c'))
    {d : Dispatch} (there : d ∈ c'.pc.entering) :
    d ∈ c.pc.entering ∨ ∃ otpCode requestId expiresAt, c.pc = .create otpCode requestId expiresAt := by
  have move := (SendCall.step_move h).1
  generalize c.pc = pc at move
  generalize c'.pc = pc' at move there
  cases move with
  | create otpCode requestId expiresAt => exact Or.inr ⟨otpCode, requestId, expiresAt, rfl⟩
  | debit d balance wallet paid => exact Or.inl there
  | early before after => rcases after with rfl | ⟨key, -, rfl⟩ | ⟨-, rfl⟩ <;> cases there
  | check before same after =>
    cases pc' with
    | limit | cooldown => cases there
    | _ => cases after
  | enqueue | markSent | refund =>
    unfold SendCall.finish at there
    split at there <;> cases there
  | deliver d after =>
    subst after
    split at there <;> cases there
  | _ => cases there

theorem Balanced.resume_send (balanced : Balanced env p) (positive : 0 < env.otpMaxVerifyAttempts)
    {i : ℕ} {a : Answer} {c c' : SendCall} {w : World} (found : p.threads[i]? = some (.send c))
    (stepped : c.step env p.shared a = some (w, c')) (up : a.ok = true)
    (taken : (Thread.send c).refused = false)
    (filed : Filed env ⟨w, p.threads.set i (.send c')⟩)
    (alone : total (Thread.busy true) (p.threads.set i (.send c')) ≤ 1) :
    Balanced env ⟨w, p.threads.set i (.send c')⟩ := by
  have member := List.mem_of_getElem? found
  have running : (Thread.send c).unanswered true = true := by
    simp [Thread.unanswered, SendCall.unanswered_of_step stepped]
  have answered := balanced.answered found running fun customer c h => (by cases h)
  have no_stage : ∀ customer d, Thread.verify customer d ∈ p.threads → d.pc.answered = false →
      Stage env w (d.key env) d.pc := fun customer d there running => by
    rw [answered customer d there] at running
    cases running
  cases pc : c.pc with
  -- the row of the request is added, with no attempts and no verifications
  | create otpCode requestId expiresAt =>
    simp only [SendCall.step, pc, up, if_true] at stepped
    split at stepped
    next db created =>
      cases stepped
      unfold Database.createOtpRequest at created
      split at created <;> cases created
      refine balanced.set found (fun customer c h => (by cases h)) filed alone
        (fun kept => kept.created balanced.filed.rows (c.row env p.shared.nextId otpCode requestId
          expiresAt) rfl rfl rfl rfl rfl rfl rfl rfl)
        no_stage (fun row => ?_) (fun customer c h => (by cases h)) fun c' same d there => ?_
      · simp only [Row, accounts, List.map_append]
        exact List.mem_append_left _ row
      · cases same
        cases there
        simp only [Row, accounts, List.map_append]
        exact List.mem_append_right _ (List.mem_singleton.mpr rfl)
    · cases stepped
      exact balanced.neutral found (fun customer c h => (by cases h)) filed alone (.refl _)
        (fun customer c h => (by cases h)) fun c' same d there => (by cases same; cases there)
  -- the entry starts at the count of its row, which is 0
  | store d =>
    have row := balanced.send c member d (by rw [pc]; rfl)
    simp only [Thread.refused, pc, Bool.not_eq_false', Bool.and_eq_true, decide_eq_true_eq, beq_iff_eq]
      at taken
    simp only [SendCall.step, pc, up] at stepped
    cases stepped
    refine balanced.set found (fun customer c h => (by cases h)) filed alone
      (fun kept => kept.stored row positive taken) no_stage (fun row => ?_)
      (fun customer c h => (by cases h)) fun c' same d there => (by cases same; cases there)
    unfold storeOtp
    split <;> exact row
  | _ =>
    have neutral : Neutral p.shared w := SendCall.step_neutral stepped (by simp [pc]) (by simp [pc])
    refine balanced.neutral found (fun customer c h => (by cases h)) filed alone neutral
      (fun customer c h => (by cases h)) fun c' same d there => ?_
    cases same
    rcases entering_step stepped there with before | ⟨otpCode, requestId, expiresAt, creating⟩
    · exact balanced.send c member d before
    · rw [pc] at creating
      cases creating

theorem Balanced.resume_resend (balanced : Balanced env p) (positive : 0 < env.otpMaxVerifyAttempts)
    {i : ℕ} {a : Answer} {c c' : ResendCall} {w : World} (found : p.threads[i]? = some (.resend c))
    (stepped : c.step env p.shared a = some (w, c')) (up : a.ok = true)
    (countsOn : (Thread.resend c).countsOn env p.shared = true)
    (filed : Filed env ⟨w, p.threads.set i (.resend c')⟩)
    (alone : total (Thread.busy true) (p.threads.set i (.resend c')) ≤ 1) :
    Balanced env ⟨w, p.threads.set i (.resend c')⟩ := by
  have member := List.mem_of_getElem? found
  cases pc : c.pc with
  -- the entry starts again at 0, so its row must have no attempts yet
  | store d =>
    have answered := balanced.answered found (by simp [Thread.unanswered, pc, ResendPc.answered])
      fun customer c h => (by cases h)
    obtain ⟨-, r, there, same⟩ := (balanced.filed.threads _ member).1 d.record (by rw [pc]; rfl)
    simp only [Thread.countsOn, pc, List.all_eq_true, Bool.or_eq_true, bne_iff_ne, beq_iff_eq]
      at countsOn
    have unused : r.attempts = 0 := (countsOn r there).resolve_left fun apart => apart same.id
    simp only [ResendCall.step, pc, up] at stepped
    cases stepped
    refine balanced.set found (fun customer c h => (by cases h)) filed alone (fun kept => ?_)
      (fun customer d there running => ?_) (fun row => ?_) (fun customer c h => (by cases h))
      fun c h => (by cases h)
    · have row : Row env p.shared r.id d.record.requestId 0 := by
        have limit : r.maxAttempts = env.otpMaxVerifyAttempts :=
          kept.limits _ (List.mem_map_of_mem there)
        rw [Row, ← same.requestId, ← unused, ← limit]
        exact List.mem_map_of_mem there
      refine kept.stored row positive ⟨?_, Rat.den_natCast ..⟩
      have positive : 0 < d.ttlSeconds := by
        unfold Redispatch.ttlSeconds
        split <;> omega
      exact_mod_cast positive
    · rw [answered customer d there] at running
      cases running
    · unfold storeOtp
      split <;> exact row
  | _ =>
    exact balanced.neutral found (fun customer c h => (by cases h)) filed alone
      (ResendCall.step_neutral stepped (by simp [pc])) (fun customer c h => (by cases h))
      fun c h => (by cases h)

theorem Balanced.resume_verify (balanced : Balanced env p) {i : ℕ} {a : Answer} {customer : Customer}
    {c c' : VerifyCall} {w : World} (found : p.threads[i]? = some (.verify customer c))
    (stepped : c.step env p.shared a.ok = some (w, c')) (up : a.ok = true)
    (countsOn : (Thread.verify customer c).countsOn env p.shared = true)
    (filed : Filed env ⟨w, p.threads.set i (.verify customer c')⟩)
    (alone : total (Thread.busy true) (p.threads.set i (.verify customer c')) ≤ 1) :
    Balanced env ⟨w, p.threads.set i (.verify customer c')⟩ := by
  have member := List.mem_of_getElem? found
  have running := VerifyCall.unanswered_of_step stepped
  have stage := (balanced.verify customer c member running).step balanced.filed.rows
    balanced.filed.entries (balanced.filed.threads _ member) up
    (fun f pc => by simpa [Thread.countsOn, pc] using countsOn) stepped
  have key : c'.key env = c.key env := (VerifyCall.step_move stepped).2.1.key
  -- the other requests have been answered
  have others {j : ℕ} {v : Thread} (apart : j ≠ i) (there : p.threads[j]? = some v) :
      v.unanswered true = false := by
    have counts : 0 < (Thread.verify customer c).busy true := by
      simp [Thread.busy, Thread.unanswered, running]
    simpa [Thread.busy] using eq_zero_of_total_le_one found there apart balanced.alone counts
  refine ⟨filed, alone, fun answered => ?_, fun customer' d there running' => ?_,
    fun d there e is_entering => ?_⟩
  · have inside := (List.getElem?_eq_some_iff.mp found).1
    exact stage.kept_of_answered (answered customer c' (List.mem_set inside _))
  · rcases mem_set_cases there with same | ⟨j, apart, there⟩
    · cases same
      rw [key]
      exact stage
    · have answered := others apart there
      simp only [Thread.unanswered, Bool.true_and, Bool.not_eq_false'] at answered
      rw [answered] at running'
      cases running'
  · rcases mem_set_cases there with same | ⟨j, apart, there⟩
    · cases same
    · have answered := others apart there
      cases pc : d.pc <;> simp [Thread.unanswered, SendPc.answered, SendPc.entering, pc]
        at answered is_entering

theorem Balanced.step (balanced : Balanced env p) (positive : 0 < env.otpMaxVerifyAttempts)
    {l : SystemLabel} (one : OneAtATime true p l) (succeed : CallsSucceed p l)
    (countsOn : CountsOn env p l) (taken : step (systemProgram env) p l = some q) : Balanced env q := by
  have alone := one.step balanced.alone taken
  have filed := balanced.filed.step taken
  cases l with
  | resume i a =>
    obtain ⟨t, w, u, found, resumed, rfl⟩ := step_resume taken
    have keeps := countsOn t found
    cases t with
    | authenticating request c =>
      simp only [systemProgram, Thread.resume] at resumed
      obtain ⟨c', stepped, rfl⟩ := Thread.stepped_eq_some resumed
      refine balanced.neutral found (fun customer c h => (by cases h)) filed alone
        (AuthCall.step_neutral stepped) (fun customer d same => ?_) fun d same => ?_
      -- of the handlers only a verification is one of these, and it starts with its look-up
      · have looking : d.pc = .lookup := by
          split at same
          · unfold Thread.handler at same
            split at same <;> cases same
            rfl
          · cases same
        refine ⟨looking, Thread.unanswered_resume resumed ?_⟩
        rw [same]
        simp [Thread.unanswered, looking, VerifyPc.answered]
      · split at same
        · unfold Thread.handler at same
          split at same <;> cases same
          exact fun e h => (by cases h)
        · cases same
    | send c =>
      obtain ⟨c', stepped, rfl⟩ := Thread.stepped_eq_some resumed
      have running : (Thread.send c).unanswered true = true := by
        simp [Thread.unanswered, SendCall.unanswered_of_step stepped]
      obtain ⟨up, taken⟩ := succeed _ found running
      exact balanced.resume_send positive found stepped up taken filed alone
    | verify customer c =>
      obtain ⟨c', stepped, rfl⟩ := Thread.stepped_eq_some resumed
      have running : (Thread.verify customer c).unanswered true = true := by
        simp [Thread.unanswered, VerifyCall.unanswered_of_step stepped]
      exact balanced.resume_verify found stepped (succeed _ found running).1 keeps filed alone
    | resend c =>
      obtain ⟨c', stepped, rfl⟩ := Thread.stepped_eq_some resumed
      have running : (Thread.resend c).unanswered true = true := by
        simp [Thread.unanswered, ResendCall.unanswered_of_step stepped]
      exact balanced.resume_resend positive found stepped (succeed _ found running).1 keeps filed alone
    | status customer c =>
      obtain ⟨c', stepped, rfl⟩ := Thread.stepped_eq_some resumed
      exact balanced.neutral found (fun _ _ h => (by cases h)) filed alone
        (.of_statuses (StatusCall.step_sameStores stepped) (StatusCall.step_statuses stepped))
        (fun _ _ h => (by cases h)) fun _ h => (by cases h)
    | dashboard c =>
      obtain ⟨c', stepped, rfl⟩ := Thread.stepped_eq_some resumed
      exact balanced.neutral found (fun _ _ h => (by cases h)) filed alone
        (.of_requests (DashboardCall.step_sameRequests stepped)) (fun _ _ h => (by cases h))
        fun _ h => (by cases h)
    | register c =>
      obtain ⟨c', stepped, rfl⟩ := Thread.stepped_eq_some resumed
      exact balanced.neutral found (fun _ _ h => (by cases h)) filed alone
        (.of_requests (RegisterCall.step_sameRequests stepped)) (fun _ _ h => (by cases h))
        fun _ h => (by cases h)
    | sendOtpJob c =>
      obtain ⟨c', stepped, rfl⟩ := Thread.stepped_eq_some resumed
      exact balanced.neutral found (fun _ _ h => (by cases h)) filed alone
        (.of_statuses (JobCall.step_sameStores stepped) (JobCall.step_statuses stepped))
        (fun _ _ h => (by cases h)) fun _ h => (by cases h)
    | webhook c =>
      obtain ⟨c', stepped, rfl⟩ := Thread.stepped_eq_some resumed
      exact balanced.neutral found (fun _ _ h => (by cases h)) filed alone
        (.of_statuses (WebhookCall.step_sameStores stepped) (WebhookCall.step_statuses stepped))
        (fun _ _ h => (by cases h)) fun _ h => (by cases h)
  | external event =>
    obtain ⟨w, born, acted, rfl⟩ := step_external taken
    have same : External env p.shared w born := Thread.external_cases acted
    have neutral : Neutral p.shared w :=
      ⟨same.now, by rw [same.db], by rw [same.db], by rw [same.redis], fun _ => by rw [same.memory]⟩
    have fresh := Thread.born_unstarted acted
    refine ⟨filed, alone, fun answered => ?_, fun customer c there running => ?_, fun c there d entering => ?_⟩
    · exact (balanced.idle fun customer c there =>
        answered customer c (List.mem_append_left _ there)).neutral neutral
    · rcases List.mem_append.mp there with old | new
      · exact (balanced.verify customer c old running).neutral neutral
      · exact absurd rfl ((fresh _ new).2.2.2 customer c)
    · rcases List.mem_append.mp there with old | new
      · rw [Row, neutral.books]
        exact balanced.send c old d entering
      · exact absurd rfl ((fresh _ new).2.2.1 c)

end Steps

/-! ### Runs -/

section Runs

variable {env : Env} {p q : System}

theorem Balanced.of_unused (unused : Unused p) (none_yet : p.shared.db.otpVerifications = []) :
    Balanced env p := by
  have no_accounts : accounts p.shared.db = [] := by rw [accounts, unused.rows, List.map_nil]
  have no_threads {t : Thread} (there : t ∈ p.threads) : False := by
    rw [unused.threads] at there
    cases there
  refine ⟨unused.filed, by simp [unused.threads], fun _ => ⟨unused.memory, fun x there => ?_,
    fun v there => ?_, fun x there => ?_, fun key data got => ?_⟩, fun customer c there => ?_,
    fun c there => ?_⟩
  · rw [no_accounts] at there
    cases there
  · rw [none_yet] at there
    cases there
  · rw [no_accounts] at there
    cases there
  · simp [ExpiringMap.get, unused.redis] at got
  · exact (no_threads there).elim
  · exact (no_threads there).elim

/-- Requests that run one at a time and keep the count are accounted for whenever none runs. -/
theorem accounted_of_countsOn {labels : List SystemLabel} (unused : Unused p)
    (none_yet : p.shared.db.otpVerifications = []) (positive : 0 < env.otpMaxVerifyAttempts)
    (respects : Respects (step (systemProgram env))
      (fun s l => OneAtATime true s l ∧ CallsSucceed s l ∧ CountsOn env s l) p labels)
    (returned : run (step (systemProgram env)) p labels = some q)
    (idle : ∀ t ∈ q.threads, t.unanswered true = false) :
    ∀ r ∈ q.shared.db.otpRequests, Accounted q.shared.db r := by
  have balanced := run_invariant_of_respects (Balanced env)
    (fun s l t balanced allowed taken => balanced.step positive allowed.1 allowed.2.1 allowed.2.2 taken)
    (Balanced.of_unused unused none_yet) respects returned
  have kept := balanced.idle fun customer c there => by
    simpa [Thread.unanswered] using idle _ there
  exact fun r there => (kept.rows _ (List.mem_map_of_mem there) (by simp)).accounted

section Sample

def samplePhone : String := "+4915112345678"

/-- A verification of the request of `sampleCustomSend`. -/
def sampleVerify (i : ℕ) (code : String) (n : ℕ) : List SystemLabel :=
  sampleRequest (.verify samplePhone code) :: resolve i n

end Sample

/-- A wrong code and then the right one. -/
theorem accounted_of_two_codes :
    ∃ q, run (step (systemProgram OtpPool.sampleEnv)) sampleSystem
        (sampleCustomSend ++ sampleVerify 1 "111111" 11 ++ sampleVerify 2 "424242" 10) = some q ∧
      ∀ r ∈ q.shared.db.otpRequests, Accounted q.shared.db r :=
  ⟨_, (Option.some_get (by decide +kernel)).symm,
    accounted_of_countsOn (p := sampleSystem) ⟨rfl, rfl, rfl, fun _ => rfl, fun _ _ => rfl⟩ rfl
      (by decide) (by decide +kernel) (Option.some_get (by decide +kernel)).symm (by decide +kernel)⟩

/-- A wrong code, a resend, and a wrong code again: two verifications with the number 1. -/
theorem attempts_restarted_by_resend :
    ¬∀ (env : Env) (p q : System) (labels : List SystemLabel), Unused p →
      p.shared.db.otpVerifications = [] → 0 < env.otpMaxVerifyAttempts →
      Respects (step (systemProgram env)) (fun s l => OneAtATime true s l ∧ CallsSucceed s l) p labels →
      run (step (systemProgram env)) p labels = some q →
      (∀ t ∈ q.threads, t.unanswered true = false) →
      ∀ r ∈ q.shared.db.otpRequests, Accounted q.shared.db r := by
  intro accounted
  have violated := fun r there => (accounted OtpPool.sampleEnv sampleSystem _
    (sampleCustomSend ++ sampleVerify 1 "111111" 11 ++ .external (.tick 61000) ::
      sampleRequest (.resend (generateRequestId 7)) :: resolve 2 12 ++ sampleVerify 3 "111111" 11)
    ⟨rfl, rfl, rfl, fun _ => rfl, fun _ _ => rfl⟩ rfl (by decide) (by decide +kernel)
    (Option.some_get (by decide +kernel)).symm (by decide +kernel) r there).attempts
  revert violated
  decide +kernel

end Runs

end AttemptAccounting

end SelfOtp
