import SelfOtp.Properties.Dispatches
import SelfOtp.Properties.OtpPool

/-! How many messages a phone number gets in ten minutes. -/
namespace SelfOtp

/-- Past the phone limit and not dispatched yet. -/
def SendPc.pastLimit : SendPc → Bool
  | limit .customer _ | limit .apiKey _ | cooldown => true
  | pc => pc.committed

/-- From the clock reading of the phone limit to the dispatch. -/
def SendPc.metered : SendPc → Bool
  | limit .phone _ => true
  | pc => pc.pastLimit

/-- A send to the phone number between its phone limit and its dispatch. -/
def Thread.metered (phoneNumber : String) : Thread → Bool
  | send c => c.body.phoneNumber == phoneNumber && c.pc.metered
  | authenticating .. | verify .. | resend _ | status .. | dashboard _ | register _ | sendOtpJob _
  | webhook _ => false

namespace PhoneQuota

open Pool Transition

/-- The window of the phone limit: 600 seconds. -/
def window : Millis := 600 * 1000

/-- At most three of the dispatches are in the same window. -/
def Quota (dispatches : List (ℕ × Millis)) : Prop :=
  ∀ start : Millis, (dispatches.countP fun d => start ≤ d.2 ∧ d.2 < start + window) ≤ 3

/-- No resend to the phone number passes its checks, and a send dispatches at the time that its
phone limit has read. -/
def SendsOnTime (env : Env) (phoneNumber : String) (p : System) : SystemLabel → Prop
  | .resume i a => ∀ t ∈ p.threads[i]?,
      t.isResend = true → t.passes env phoneNumber p.shared a = false
  | .external (.tick d) => d = 0 ∨ ∀ t ∈ p.threads, t.metered phoneNumber = false
  | .external _ => True

section Decidable

variable {env : Env} {phoneNumber : String} {p : System}

instance : DecidablePred (SendsOnTime env phoneNumber p)
  | .resume i _ => inferInstanceAs (Decidable (∀ t ∈ p.threads[i]?, _ → _))
  | .external (.tick _) => inferInstanceAs (Decidable (_ ∨ ∀ t ∈ p.threads, _))
  | .external (.api ..) | .external (.dashboard ..) | .external (.register ..)
  | .external (.takeSendOtpJob _) | .external (.processWebhook ..) => isTrue trivial

end Decidable

/-! ### The dispatches of the last window -/

def recent (now : Millis) (seen : List (ℕ × Millis)) : List Millis :=
  (seen.filter fun d => now < d.2 + window).map (·.2)

section Recent

variable {now later t : Millis} {seen : List (ℕ × Millis)} {i : ℕ}

theorem recent_later (le : now ≤ later) : (recent later seen).Sublist (recent now seen) :=
  (List.monotone_filter_right seen fun d young => by
    simp only [decide_eq_true_eq] at young ⊢
    exact le.trans_lt young).map _

theorem recent_append : recent now (seen ++ [(i, now)]) = recent now seen ++ [now] := by
  simp [recent, window]

theorem mem_recent (member : t ∈ recent now seen) :
    now < t + window ∧ ∃ d ∈ seen, d.2 = t := by
  obtain ⟨d, young, rfl⟩ := List.mem_map.mp member
  obtain ⟨there, young⟩ := List.mem_filter.mp young
  exact ⟨of_decide_eq_true young, d, there, rfl⟩

/-- One more dispatch after two recent ones. -/
theorem Quota.append (quota : Quota seen) (few : (recent now seen).length ≤ 2) :
    Quota (seen ++ [(i, now)]) := by
  intro start
  rw [List.countP_append, List.countP_singleton]
  split
  next inside =>
    have inside := of_decide_eq_true inside
    have counted : (seen.countP fun d => start ≤ d.2 ∧ d.2 < start + window) ≤
        seen.countP fun d => now < d.2 + window := by
      refine List.countP_mono_left fun d _ within => ?_
      have within := of_decide_eq_true within
      exact decide_eq_true (inside.2.trans_le (Nat.add_le_add_right within.1 _))
    have length : (seen.countP fun d => now < d.2 + window) = (recent now seen).length := by
      rw [recent, List.length_map, List.countP_eq_length_filter]
    omega
  · exact quota start

end Recent

/-! ### The log of the phone number -/

/-- The scores under a key, also of a set that has expired. -/
def logged (w : World) (key : LimitKey) : List ℚ :=
  match w.redis.limits key with
  | some set => set.scores
  | none => []

/-- The log holds the `times` for a window, and the `pending` ones for now. -/
structure Logs (w : World) (key : LimitKey) (times pending : List Millis) : Prop where
  scores : ((times ++ pending).map seconds).Sublist (logged w key)
  lives : ∀ set ∈ w.redis.limits key, ∀ expiresAt ∈ set.expiresAt,
    (∀ t ∈ times, t + window ≤ expiresAt) ∧ ∀ t ∈ pending, t ≤ expiresAt

/-- A call on the log of a phone number clears what has left its window at most. -/
def Windowed (now : Millis) (call : LimitCall) : Prop :=
  ∀ phoneHash, call.key = .phone phoneHash →
    call.windowSeconds = 600 ∧ call.now ≤ seconds now

section Logs

variable {w w' : World} {key : LimitKey} {times pending : List Millis} {call call' : LimitCall}
  {ok : Bool}

theorem Logs.of_limits (logs : Logs w key times pending)
    (same : w'.redis.limits key = w.redis.limits key) : Logs w' key times pending := by
  refine ⟨?_, by rw [same]; exact logs.lives⟩
  have same_log : logged w' key = logged w key := by rw [logged, same, logged]
  rw [same_log]
  exact logs.scores

theorem Logs.nil (w : World) (key : LimitKey) : Logs w key [] [] :=
  ⟨List.nil_sublist _, fun _ _ _ _ => ⟨fun t h => (by cases h), fun t h => (by cases h)⟩⟩

theorem Logs.mono {fewer : List Millis} (logs : Logs w key times pending)
    (le : fewer.Sublist times) : Logs w key fewer pending :=
  ⟨((le.append_right pending).map seconds).trans logs.scores, fun set stored e ends =>
    ⟨fun t member => (logs.lives set stored e ends).1 t (le.mem member),
      (logs.lives set stored e ends).2⟩⟩

/-- The pending times need not be seen through. -/
theorem Logs.settled (logs : Logs w key times pending) : Logs w key times [] := by
  refine ⟨?_, fun set stored e ends => ⟨(logs.lives set stored e ends).1, fun t h => (by cases h)⟩⟩
  rw [List.append_nil]
  exact ((List.sublist_append_left times pending).map seconds).trans logs.scores

/-- A log with something to hold has not expired. -/
theorem Logs.visible (logs : Logs w key times pending)
    (young : ∀ t ∈ times, w.now < t + window) (now : ∀ t ∈ pending, t = w.now)
    (some_time : times ++ pending ≠ []) :
    ∃ set, w.redis.limits key = some set ∧ w.redis.sortedSet w.now key = some set ∧
      ((times ++ pending).map seconds).Sublist set.scores := by
  have scores := logs.scores
  unfold logged at scores
  cases stored : w.redis.limits key with
  | none =>
    simp only [stored, List.sublist_nil, List.map_eq_nil_iff] at scores
    exact absurd scores some_time
  | some set =>
    simp only [stored] at scores
    refine ⟨set, rfl, ?_, scores⟩
    have live : (set.expiresAt.all fun expiresAt => w.now ≤ expiresAt) = true := by
      cases ends : set.expiresAt with
      | none => rfl
      | some e =>
        obtain ⟨lasting, holding⟩ := logs.lives set stored e ends
        obtain ⟨t, member⟩ := List.exists_mem_of_ne_nil _ some_time
        rw [Option.all_some, decide_eq_true_eq]
        rcases List.mem_append.mp member with time | own
        · exact (young t time).le.trans (lasting t time)
        · exact (now t own).ge.trans (holding t own)
    simp [Redis.sortedSet, stored, live]

theorem step_limits_ne (apart : key ≠ call.key) :
    (call.step w ok).1.redis.limits key = w.redis.limits key := by
  cases command : call.command with
  | zremrangebyscore | zadd =>
    cases ok <;> simp only [LimitCall.step, command, if_true, Bool.false_eq_true, if_false]
    exact Function.update_of_ne apart ..
  | zcard => simp only [LimitCall.step, command]
  | expire count =>
    cases ok <;> cases count <;>
      simp only [LimitCall.step, command, LimitCall.fallback, if_true, Bool.false_eq_true, if_false,
        World.mapMemory_redis] <;>
      exact Function.update_of_ne apart ..

/-- What the log becomes when it is replaced. -/
theorem Logs.of_set {set : Option SortedSet} (stored : w'.redis.limits key = set)
    (scores : ((times ++ pending).map seconds).Sublist ((set.map (·.scores)).getD []))
    (lives : ∀ s ∈ set, ∀ expiresAt ∈ s.expiresAt,
      (∀ t ∈ times, t + window ≤ expiresAt) ∧ ∀ t ∈ pending, t ≤ expiresAt) :
    Logs w' key times pending := by
  refine ⟨?_, by rw [stored]; exact lives⟩
  unfold logged
  rw [stored]
  cases set <;> exact scores

theorem cleared_lt {now t : Millis} (young : now < t + window) : seconds now - 600 < seconds t := by
  have cast : (now : ℚ) < t + 600 * 1000 := by exact_mod_cast young
  unfold seconds
  linarith

/-- No command of a call drops a time of the window. -/
theorem Logs.commands (logs : Logs w call.key times pending)
    (young : ∀ t ∈ times, t ≤ w.now ∧ w.now < t + window) (now : ∀ t ∈ pending, t = w.now)
    (width : call.windowSeconds = 600) (early : call.now ≤ seconds w.now) :
    Logs (call.step w ok).1 call.key times pending := by
  by_cases some_time : times ++ pending = []
  · obtain ⟨rfl, rfl⟩ := List.append_eq_nil_iff.mp some_time
    exact .nil ..
  obtain ⟨set, stored, visible, scores⟩ := logs.visible (fun t h => (young t h).2) now some_time
  have lives := logs.lives set stored
  cases ok with
  | false =>
    refine logs.of_limits ?_
    cases command : call.command <;> simp [LimitCall.step, command, LimitCall.fallback]
  | true =>
    cases command : call.command with
    | zremrangebyscore =>
      have kept : ((times ++ pending).map seconds).Sublist
          (set.scores.filter fun t => !(0 ≤ t && t ≤ call.clearBefore)) := by
        have filtered := scores.filter fun t => !(0 ≤ t && t ≤ call.clearBefore)
        rwa [List.filter_eq_self.mpr] at filtered
        intro score member
        obtain ⟨t, there, rfl⟩ := List.mem_map.mp member
        have young : w.now < t + window := by
          rcases List.mem_append.mp there with time | own
          · exact (young t time).2
          · rw [now t own]
            exact Nat.lt_add_of_pos_right (by decide)
        have later : call.clearBefore < seconds t := by
          have cleared := cleared_lt young
          rw [LimitCall.clearBefore, width]
          push_cast
          linarith
        simp [later]
      simp only [LimitCall.step, command, visible, if_true, Option.bind_some]
      refine .of_set (Function.update_self ..) ?_ ?_
      · split
        next empty => rwa [List.isEmpty_iff.mp empty] at kept
        · exact kept
      · intro s there
        split at there <;> cases there
        exact lives
    | zadd =>
      simp only [LimitCall.step, command, visible, if_true]
      refine .of_set (Function.update_self ..) ?_ ?_
      · exact scores.trans (List.sublist_append_left ..)
      · intro s there
        cases there
        exact lives
    | zcard =>
      simp only [LimitCall.step, command]
      exact logs
    | expire count =>
      have renewed : Logs (w.mapRedis fun r => r.setSortedSet call.key
          (some { set with expiresAt := some (w.now + 1000 * (call.windowSeconds + 5)) }))
          call.key times pending := by
        refine .of_set (Function.update_self ..) scores ?_
        rintro s ⟨⟩ e ⟨⟩
        rw [width]
        refine ⟨fun t there => Nat.add_le_add (young t there).1 (by decide), fun t there => ?_⟩
        rw [now t there]
        exact Nat.le_add_right ..
      simp only [LimitCall.step, command, visible, if_true, Option.map_some]
      cases count with
      | some n => exact renewed
      | none => exact renewed.of_limits rfl

theorem sortedSet_eq_some {set : SortedSet} (visible : w.redis.sortedSet w.now key = some set) :
    w.redis.limits key = some set ∧ ∀ expiresAt ∈ set.expiresAt, w.now ≤ expiresAt := by
  obtain ⟨stored, live⟩ := Option.filter_eq_some_iff.mp visible
  refine ⟨stored, fun expiresAt ends => ?_⟩
  rw [Option.all_eq_true] at live
  exact of_decide_eq_true (live expiresAt ends)

/-- The own entry of a call. -/
theorem Logs.add (logs : Logs w call.key times []) (young : ∀ t ∈ times, w.now < t + window)
    (own : call.now = seconds w.now) (command : call.command = .zadd) :
    Logs (call.step w true).1 call.key times [w.now] := by
  simp only [LimitCall.step, command, if_true]
  refine .of_set (Function.update_self ..) ?_ ?_
  · rw [List.map_append, List.map_singleton, ← own]
    by_cases some_time : times = []
    · subst some_time
      rw [List.map_nil, List.nil_append]
      split
      · exact List.sublist_append_right ..
      · exact List.Sublist.refl _
    · obtain ⟨set, -, visible, scores⟩ := logs.visible young (fun t h => (by cases h))
        (by simpa using some_time)
      rw [List.append_nil] at scores
      simp only [visible]
      exact scores.append_right _
  · rintro s ⟨⟩ e ends
    split at ends
    next set visible =>
      obtain ⟨stored, live⟩ := sortedSet_eq_some visible
      refine ⟨(logs.lives set stored e ends).1, fun t member => ?_⟩
      rw [List.mem_singleton.mp member]
      exact live e ends
    · cases ends

theorem Logs.count (logs : Logs w call.key times [w.now]) (young : ∀ t ∈ times, w.now < t + window)
    (command : call.command = .zcard) : ∃ n, times.length < n ∧
      (call.step w true).2 = .pending { call with command := .expire (some n) } := by
  obtain ⟨set, -, visible, scores⟩ := logs.visible young (fun t h => List.mem_singleton.mp h) (by simp)
  refine ⟨set.scores.length, ?_, by simp only [LimitCall.step, command, visible, if_true]⟩
  have length := scores.length_le
  simp only [List.length_map, List.length_append, List.length_singleton] at length
  exact length

/-- The life of the log is renewed. -/
theorem Logs.renew (logs : Logs w call.key times [w.now])
    (young : ∀ t ∈ times, t ≤ w.now ∧ w.now < t + window) (width : call.windowSeconds = 600) {n : ℕ}
    (command : call.command = .expire (some n)) :
    Logs (call.step w true).1 call.key (times ++ [w.now]) [] := by
  obtain ⟨set, -, visible, scores⟩ := logs.visible (fun t h => (young t h).2)
    (fun t h => List.mem_singleton.mp h) (by simp)
  simp only [LimitCall.step, command, visible, if_true, Option.map_some]
  refine .of_set (Function.update_self ..) (by rwa [List.append_nil]) ?_
  rintro s ⟨⟩ e ⟨⟩
  rw [width]
  refine ⟨fun t there => Nat.add_le_add ?_ (by decide), fun t h => (by cases h)⟩
  rcases List.mem_append.mp there with time | own
  · exact (young t time).1
  · exact (List.mem_singleton.mp own).le

theorem step_pending (pending : (call.step w ok).2 = .pending call') :
    call' = { call with command := call'.command } := by
  cases command : call.command with
  | expire count =>
    cases ok <;> cases count <;> simp [LimitCall.step, command, LimitCall.fallback, LimitCall.outcome]
      at pending
  | zremrangebyscore | zadd | zcard =>
    simp only [LimitCall.step, command] at pending
    cases pending
    rfl

end Logs

/-! ### One send -/

section Sends

variable {env : Env} {phoneNumber : String} {w w' : World} {times : List Millis}

abbrev key (env : Env) (phoneNumber : String) : LimitKey := .phone (hashPhoneNumber env phoneNumber)

/-- The phone limit of a send that has read the clock now. -/
structure OwnCall (env : Env) (phoneNumber : String) (w : World) (call : LimitCall) : Prop where
  key : call.key = PhoneQuota.key env phoneNumber
  maxRequests : call.maxRequests = 3
  windowSeconds : call.windowSeconds = 600
  now : call.now = seconds w.now

/-- What a send to the phone number has done about its limit, after dispatches at `times`. -/
inductive Metered (env : Env) (phoneNumber : String) (w : World) (times : List Millis) : SendPc → Prop
  | idle (pc : SendPc) (unmetered : pc.metered = false) : Metered env phoneNumber w times pc
  | calling (call : LimitCall) (own : OwnCall env phoneNumber w call)
      (early : call.command = .zremrangebyscore ∨ call.command = .zadd) :
      Metered env phoneNumber w times (.limit .phone call)
  | counting (call : LimitCall) (own : OwnCall env phoneNumber w call)
      (command : call.command = .zcard) (logs : Logs w (key env phoneNumber) times [w.now]) :
      Metered env phoneNumber w times (.limit .phone call)
  | counted (call : LimitCall) (own : OwnCall env phoneNumber w call) (n : ℕ)
      (command : call.command = .expire (some n)) (counts : times.length < n)
      (logs : Logs w (key env phoneNumber) times [w.now]) :
      Metered env phoneNumber w times (.limit .phone call)
  | passed (pc : SendPc) (past : pc.pastLimit = true)
      (logs : Logs w (key env phoneNumber) (times ++ [w.now]) []) (few : times.length ≤ 2) :
      Metered env phoneNumber w times pc

theorem Logs.resume {t : Thread} {ok : Bool} {phoneHash : String} {pending : List Millis}
    (logs : Logs w (.phone phoneHash) times pending)
    (young : ∀ t ∈ times, t ≤ w.now ∧ w.now < t + window) (now : ∀ t ∈ pending, t = w.now)
    (guards : GuardsStep env w t ok w')
    (windowed : ∀ call, t.limiting = some call → Windowed w.now call) :
    Logs w' (.phone phoneHash) times pending := by
  rcases guards.limits with same | ⟨call, limiting, changed⟩
  · exact logs.of_limits (by rw [same])
  · by_cases here : call.key = .phone phoneHash
    · obtain ⟨width, early⟩ := windowed call limiting phoneHash here
      rw [← here] at logs ⊢
      exact (logs.commands young now width early).of_limits (by rw [changed])
    · exact logs.of_limits (by rw [changed, step_limits_ne (Ne.symm here)])

theorem young_append (young : ∀ t ∈ times, t ≤ w.now ∧ w.now < t + window) :
    ∀ t ∈ times ++ [w.now], t ≤ w.now ∧ w.now < t + window := by
  intro t member
  rcases List.mem_append.mp member with time | now
  · exact young t time
  · rw [List.mem_singleton.mp now]
    exact ⟨le_refl _, Nat.lt_add_of_pos_right (by decide)⟩

/-- A step that keeps the log leaves a send where it is. -/
theorem Metered.keep {pc : SendPc} (metered : Metered env phoneNumber w times pc)
    (young : ∀ t ∈ times, t ≤ w.now ∧ w.now < t + window) (now : w'.now = w.now)
    (kept : ∀ {times pending : List Millis}, (∀ t ∈ times, t ≤ w.now ∧ w.now < t + window) →
      (∀ t ∈ pending, t = w.now) → Logs w (key env phoneNumber) times pending →
      Logs w' (key env phoneNumber) times pending) : Metered env phoneNumber w' times pc := by
  have own {call : LimitCall} (own : OwnCall env phoneNumber w call) : OwnCall env phoneNumber w' call :=
    ⟨own.key, own.maxRequests, own.windowSeconds, now ▸ own.now⟩
  have pending : ∀ t ∈ [w.now], t = w.now := fun t => List.mem_singleton.mp
  cases metered with
  | idle pc unmetered => exact .idle pc unmetered
  | calling call is_own early => exact .calling call (own is_own) early
  | counting call is_own command logs =>
    exact .counting call (own is_own) command (now ▸ kept young pending logs)
  | counted call is_own n command counts logs =>
    exact .counted call (own is_own) n command counts (now ▸ kept young pending logs)
  | passed pc past logs few =>
    refine .passed pc past ?_ few
    rw [now]
    exact kept (young_append young) (fun t h => (by cases h)) logs

theorem SendCall.finish_unmetered (c : SendCall) (d : Dispatch) : (c.finish env d).metered = false := by
  unfold SendCall.finish
  split <;> rfl

/-- What a limiter call makes of the request. -/
theorem limit_step {c c' : SendCall} {a : Answer} {limit : SendLimit} {call : LimitCall}
    (pc : c.pc = .limit limit call) (h : c.step env w a = some (w', c')) :
    w' = (call.step w a.ok).1 ∧
      match (call.step w a.ok).2 with
      | .pending call' => c'.pc = .limit limit call'
      | .done isLimited _ => c'.pc =
          if isLimited then .rejected (SendCall.limitError limit) else c.nextLimit env w' limit := by
  simp only [SendCall.step, pc] at h
  cases outcome : (call.step w a.ok).2 with
  | pending call' =>
    simp only [outcome] at h
    cases h
    exact ⟨rfl, rfl⟩
  | done isLimited remaining =>
    simp only [outcome] at h
    split at h
    next limited =>
      cases h
      exact ⟨rfl, (if_pos limited).symm⟩
    next free =>
      cases h
      exact ⟨rfl, (if_neg free).symm⟩

/-- The phone limit is entered from the one for the client's address. -/
theorem unmetered_step {c c' : SendCall} {a : Answer} (h : c.step env w a = some (w', c'))
    (unmetered : c.pc.metered = false) :
    c'.pc.metered = false ∨ c'.pc = .limit .phone (c.limitCall env w' .phone) := by
  by_cases at_limit : ∃ limit call, c.pc = .limit limit call
  · obtain ⟨limit, call, pc⟩ := at_limit
    obtain ⟨-, next⟩ := limit_step pc h
    rw [pc] at unmetered
    cases limit with
    | ip =>
      split at next
      · exact Or.inl (next ▸ rfl)
      · split at next
        · exact Or.inl (next ▸ rfl)
        · exact Or.inr next
    | phone | customer | apiKey => cases unmetered
  · have move := (SendCall.step_move h).1
    generalize c.pc = pc at move unmetered at_limit
    generalize c'.pc = pc' at move
    cases move with
    | early before after => rcases after with rfl | ⟨key, -, rfl⟩ | ⟨-, rfl⟩ <;> exact Or.inl rfl
    | check before same after =>
      cases pc with
      | limit limit call => exact absurd ⟨limit, call, rfl⟩ at_limit
      | cooldown => cases unmetered
      | _ => cases before
    | markSent | refund => exact Or.inl (SendCall.finish_unmetered ..)
    | prepare | create | debit | unpaid | store | setCooldown | enqueue | offline | deliver =>
      cases unmetered
    | refuse | hit | miss | known | unknown | markFailed | saveCache | saveRecord | crash =>
      exact Or.inl rfl

theorem pastLimit_step {c c' : SendCall} {a : Answer} (h : c.step env w a = some (w', c'))
    (past : c.pc.pastLimit = true) : c'.pc.pastLimit = true ∨ c'.pc.metered = false := by
  by_cases at_limit : ∃ limit call, c.pc = .limit limit call
  · obtain ⟨limit, call, pc⟩ := at_limit
    obtain ⟨-, next⟩ := limit_step pc h
    rw [pc] at past
    cases limit with
    | ip | phone => cases past
    | customer | apiKey =>
      split at next
      · exact Or.inl (next ▸ rfl)
      · split at next
        · exact Or.inr (next ▸ rfl)
        · exact Or.inl (next ▸ rfl)
  · have move := (SendCall.step_move h).1
    generalize at_pc : c.pc = pc at move past at_limit
    generalize at_pc' : c'.pc = pc' at move
    cases move with
    | check before same after =>
      cases pc with
      | limit limit call => exact absurd ⟨limit, call, rfl⟩ at_limit
      | cooldown =>
        simp only [SendCall.step, at_pc] at h
        split at h <;> cases h <;> cases at_pc' <;> cases after
      | _ => cases before
    | enqueue | markSent | refund => exact Or.inr (SendCall.finish_unmetered ..)
    | deliver d after =>
      rw [after]
      split <;> exact Or.inr rfl
    | prepare | create | debit | store | setCooldown | offline => exact Or.inl rfl
    | refuse | unpaid | crash => exact Or.inr rfl
    | early before =>
      cases pc with
      | customerBlocked | phoneBlocked => cases past
      | _ => cases before
    | hit | miss | known | unknown | markFailed | saveCache | saveRecord => cases past

theorem handing_step {c c' : SendCall} {a : Answer} (h : c.step env w a = some (w', c'))
    (handing : c.pc.handing = true) : c'.pc.handing = true ∨ c'.pc.metered = false := by
  have move := (SendCall.step_move h).1
  generalize c.pc = pc at move handing
  generalize c'.pc = pc' at move
  cases move with
  | enqueue d => exact Or.inr (SendCall.finish_unmetered ..)
  | offline d down => exact Or.inl rfl
  | deliver d after =>
    rw [after]
    split <;> exact Or.inr rfl
  | refuse | crash => exact Or.inr rfl
  | early before =>
    cases pc with
    | customerBlocked | phoneBlocked => cases handing
    | _ => cases before
  | check before =>
    cases pc with
    | limit | cooldown => cases handing
    | _ => cases before
  | _ => cases handing

/-- A limiter call goes on, or starts now. -/
theorem limit_of_step {c c' : SendCall} {a : Answer} {limit : SendLimit} {call' : LimitCall}
    (h : c.step env w a = some (w', c')) (pc' : c'.pc = .limit limit call') :
    (∃ call, c.pc = .limit limit call ∧ (call.step w a.ok).2 = .pending call') ∨
      call' = c.limitCall env w' limit := by
  by_cases at_limit : ∃ before call, c.pc = .limit before call
  · obtain ⟨before, call, pc⟩ := at_limit
    obtain ⟨-, next⟩ := limit_step pc h
    split at next
    next goes_on =>
      rw [pc'] at next
      cases next
      exact Or.inl ⟨call, pc, goes_on⟩
    · rw [pc'] at next
      split at next
      · cases next
      · cases before <;> cases next <;> exact Or.inr rfl
  · have move := (SendCall.step_move h).1
    generalize at_pc : c.pc = pc at move at_limit
    rw [pc'] at move
    generalize after' : SendPc.limit limit call' = target at move
    cases move with
    | early before after =>
      rcases after with rfl | ⟨key, -, rfl⟩ | ⟨-, rfl⟩ <;> cases after'
      exact Or.inr rfl
    | unknown =>
      cases after'
      exact Or.inr rfl
    | check before same after =>
      cases pc with
      | limit limit call => exact absurd ⟨limit, call, rfl⟩ at_limit
      | cooldown =>
        simp only [SendCall.step, at_pc] at h
        split at h <;> cases h <;> cases pc'
      | _ => cases before
    | enqueue | markSent | refund =>
      unfold SendCall.finish at after'
      split at after' <;> cases after'
    | deliver d after =>
      subst after
      split at after' <;> cases after'
    | _ => cases after'

/-- A step of the send itself. -/
theorem Metered.step {c c' : SendCall} {a : Answer} (metered : Metered env phoneNumber w times c.pc)
    (here : c.body.phoneNumber = phoneNumber)
    (young : ∀ t ∈ times, t ≤ w.now ∧ w.now < t + window)
    (windowed : ∀ call, (Thread.send c).limiting = some call → Windowed w.now call)
    (logs : Logs w (key env phoneNumber) times []) (answers : c.pc.awaitsRedis = true → a.ok = true)
    (h : c.step env w a = some (w', c')) : Metered env phoneNumber w' times c'.pc := by
  have guards := SendCall.step_guards h
  have own {call : LimitCall} (own : OwnCall env phoneNumber w call) (command : LimitCommand) :
      OwnCall env phoneNumber w' { call with command := command } :=
    ⟨own.key, own.maxRequests, own.windowSeconds, guards.now ▸ own.now⟩
  generalize at_pc : c.pc = pc at metered answers
  cases metered with
  -- it stays away from the phone limit, or starts its call
  | idle pc unmetered =>
    rcases unmetered_step h (at_pc ▸ unmetered) with still | phone
    · exact .idle _ still
    · rw [phone]
      refine .calling _ ⟨?_, rfl, rfl, rfl⟩ (Or.inl rfl)
      simp only [SendCall.limitCall, LimitCall.start, SendCall.phoneHash, here]
  | calling call is_own early =>
    obtain ⟨world, next⟩ := limit_step at_pc h
    rw [answers rfl] at world next
    rcases early with command | command
    · simp only [LimitCall.step, command] at next
      rw [next]
      exact .calling _ (own is_own .zadd) (Or.inr rfl)
    · rw [← is_own.key] at logs
      have added := logs.add (fun t there => (young t there).2) is_own.now command
      simp only [LimitCall.step, command] at next
      rw [next]
      refine .counting _ (own is_own .zcard) rfl ?_
      rwa [guards.now, world, ← is_own.key]
  -- the count has every timestamp of the last window and its own
  | counting call is_own command added =>
    obtain ⟨world, next⟩ := limit_step at_pc h
    rw [answers rfl] at world next
    rw [← is_own.key] at added
    obtain ⟨n, counts, pending⟩ := added.count (fun t there => (young t there).2) command
    rw [pending] at next
    rw [next]
    refine .counted _ (own is_own _) n rfl counts ?_
    have still : w' = w := by rw [world, LimitCall.step, command]
    rwa [still, ← is_own.key]
  -- the new expiry is later than that of any timestamp in the window
  | counted call is_own n command counts added =>
    obtain ⟨world, next⟩ := limit_step at_pc h
    rw [answers rfl] at world next
    rw [← is_own.key] at added
    have renewed := added.renew young is_own.windowSeconds command
    simp only [LimitCall.step, command, if_true, LimitCall.outcome] at next
    rw [next]
    split
    · exact .idle _ rfl
    next free =>
      refine .passed _ rfl ?_ ?_
      · rwa [guards.now, world, ← is_own.key]
      · rw [is_own.maxRequests, decide_eq_true_eq, not_lt] at free
        exact Nat.le_of_lt_succ (counts.trans_le free)
  -- three in the window with its own, until it dispatches
  | passed pc past added few =>
    rcases pastLimit_step h (at_pc ▸ past) with still | idle
    · refine .passed _ still ?_ few
      rw [guards.now]
      exact added.resume (young_append young) (fun t h => (by cases h)) guards windowed
    · exact .idle _ idle

/-- Calls on the log of a phone number have the window of the phone limit. -/
theorem Windowed.resume {t t' : Thread} {a : Answer}
    (windowed : ∀ call, t.limiting = some call → Windowed w.now call)
    (resumed : t.resume env w a = some (w', t')) :
    ∀ call, t'.limiting = some call → Windowed w'.now call := by
  have now := (Thread.resume_guards resumed).now
  -- a call that goes on is the same but for its command
  have pending {call call' : LimitCall} (limiting : t.limiting = some call)
      (pending : (call.step w a.ok).2 = .pending call') : Windowed w'.now call' := by
    rw [step_pending pending, now]
    exact windowed call limiting
  cases t with
  | authenticating request c =>
    simp only [Thread.resume] at resumed
    obtain ⟨c', stepped, rfl⟩ := Thread.stepped_eq_some resumed
    intro call limiting
    split at limiting
    · unfold Thread.handler at limiting
      split at limiting <;> cases limiting
    · cases pc : c.pc with
      | findKey =>
        simp only [AuthCall.step, pc] at stepped
        split at stepped
        · split at stepped
          · cases stepped
            cases limiting
          · split at stepped <;> cases stepped
            · cases limiting
            · cases limiting
              exact fun phoneHash other => (by cases other)
        · cases stepped
          cases limiting
      | limit session before =>
        simp only [AuthCall.step, pc] at stepped
        split at stepped
        next goes_on =>
          cases stepped
          cases limiting
          exact pending (by simp only [Thread.limiting, pc]) goes_on
        · split at stepped <;> cases stepped <;> cases limiting
      | authenticated | rejected | internalError => simp [AuthCall.step, pc] at stepped
  | send c =>
    obtain ⟨c', stepped, rfl⟩ := Thread.stepped_eq_some resumed
    intro call limiting
    cases pc' : c'.pc with
    | limit limit call' =>
      simp only [Thread.limiting, pc'] at limiting
      cases limiting
      rcases limit_of_step stepped pc' with ⟨before, pc, goes_on⟩ | rfl
      · exact pending (by simp only [Thread.limiting, pc]) goes_on
      · intro phoneHash phone
        cases limit <;> cases phone
        exact ⟨rfl, le_refl _⟩
    | _ => simp [Thread.limiting, pc'] at limiting
  | verify | resend | status | dashboard | register | sendOtpJob | webhook =>
    obtain ⟨c', stepped, rfl⟩ := Thread.stepped_eq_some resumed
    intro call limiting
    cases limiting

end Sends

/-! ### The invariant -/

section Steps

variable {env : Env} {phoneNumber : String} {p q : System} {seen : List (ℕ × Millis)}

/-- The log holds every dispatch of the last window, and only a send that it has counted gets
to its own. -/
structure Counted (env : Env) (phoneNumber : String) (p : System) (seen : List (ℕ × Millis)) :
    Prop where
  quota : Quota seen
  past : ∀ d ∈ seen, d.2 ≤ p.shared.now
  logs : Logs p.shared (key env phoneNumber) (recent p.shared.now seen) []
  alone : total (Thread.busy false) p.threads ≤ 1
  windowed : ∀ t ∈ p.threads, ∀ call, t.limiting = some call → Windowed p.shared.now call
  metered : ∀ c, Thread.send c ∈ p.threads → c.body.phoneNumber = phoneNumber →
    Metered env phoneNumber p.shared (recent p.shared.now seen) c.pc
  resends : ∀ t ∈ p.threads, t.isResend = true → t.committed phoneNumber = false

theorem Counted.young (counted : Counted env phoneNumber p seen) :
    ∀ t ∈ recent p.shared.now seen, t ≤ p.shared.now ∧ p.shared.now < t + window := fun t member => by
  obtain ⟨young, d, there, rfl⟩ := mem_recent member
  exact ⟨counted.past d there, young⟩

/-- The step of a send that dispatches. -/
theorem Counted.dispatch (counted : Counted env phoneNumber p seen) {i : ℕ} {a : Answer}
    {c c' : SendCall} {w : World} (found : p.threads[i]? = some (.send c))
    (stepped : c.step env p.shared a = some (w, c'))
    (windowed : ∀ t ∈ p.threads.set i (.send c'), ∀ call, t.limiting = some call → Windowed w.now call)
    (alone : total (Thread.busy false) (p.threads.set i (.send c')) ≤ 1)
    (resends : ∀ t ∈ p.threads.set i (.send c'), t.isResend = true → t.committed phoneNumber = false)
    (here : c.body.phoneNumber = phoneNumber) (handing : c.pc.handing = true)
    (handed : c'.pc.handing = false) :
    Counted env phoneNumber ⟨w, p.threads.set i (.send c')⟩ (seen ++ [(i, p.shared.now)]) := by
  have guards := SendCall.step_guards stepped
  have member := List.mem_of_getElem? found
  obtain ⟨logs, few⟩ : Logs p.shared (key env phoneNumber)
      (recent p.shared.now seen ++ [p.shared.now]) [] ∧ (recent p.shared.now seen).length ≤ 2 := by
    have metered := counted.metered c member here
    generalize c.pc = pc at metered handing
    cases metered with
    | idle pc unmetered =>
      cases pc with
      | enqueue | fallback => cases unmetered
      | _ => cases handing
    | passed pc past logs few => exact ⟨logs, few⟩
    | _ => cases handing
  have busy : 0 < (Thread.send c).busy false := by
    have unanswered : (Thread.send c).unanswered false = true := by
      revert handing
      cases pc : c.pc <;> simp [Thread.unanswered, SendPc.handing, SendPc.answered, pc]
    rw [Thread.busy, if_pos unanswered]
    exact Nat.one_pos
  refine ⟨counted.quota.append few, fun d there => ?_, ?_, alone, windowed, fun d there _ => ?_, resends⟩
  · rw [guards.now]
    rcases List.mem_append.mp there with old | last
    · exact counted.past d old
    · cases List.mem_singleton.mp last
      exact le_refl _
  · rw [guards.now, recent_append]
    exact logs.resume (young_append counted.young) (fun t h => (by cases h)) guards
      (counted.windowed _ member)
  -- no other send is under way, so none is at the phone limit
  · refine .idle _ ?_
    rcases mem_set_cases there with same | ⟨j, apart, there⟩
    · cases same
      rcases handing_step stepped handing with still | unmetered
      · rw [handed] at still
        cases still
      · exact unmetered
    · have idle := eq_zero_of_total_le_one found there apart counted.alone busy
      simp only [Thread.busy, Thread.unanswered, Bool.not_eq_true', ite_eq_right_iff, one_ne_zero, imp_false,
        Bool.not_eq_false] at idle
      cases pc : d.pc <;> first | rfl | (rw [pc] at idle; cases idle)

section Resume

variable {i : ℕ} {a : Answer} {t u : Thread} {w : World}

/-- The clock of a limiter call that goes on is the one of the call before. -/
theorem Counted.windowed_resume (counted : Counted env phoneNumber p seen)
    (found : p.threads[i]? = some t) (resumed : t.resume env p.shared a = some (w, u)) :
    ∀ v ∈ p.threads.set i u, ∀ call, v.limiting = some call → Windowed w.now call := by
  intro v there
  rcases mem_set_cases there with rfl | ⟨j, -, there⟩
  · exact Windowed.resume (counted.windowed t (List.mem_of_getElem? found)) resumed
  · rw [(Thread.resume_guards resumed).now]
    exact counted.windowed v (List.mem_of_getElem? there)

/-- A resend whose checks do not pass does not come on its way. -/
theorem Counted.resends_resume (counted : Counted env phoneNumber p seen)
    (found : p.threads[i]? = some t) (resumed : t.resume env p.shared a = some (w, u))
    (refused : t.isResend = true → t.passes env phoneNumber p.shared a = false) :
    ∀ v ∈ p.threads.set i u, v.isResend = true → v.committed phoneNumber = false := by
  intro v there is_resend
  rcases mem_set_cases there with rfl | ⟨j, -, there⟩
  · by_contra committed
    have origin := Thread.committed_step resumed (by simpa using committed)
    cases t with
    | resend c =>
      rcases origin with still | ⟨passes, -⟩
      · rw [counted.resends _ (List.mem_of_getElem? found) rfl] at still
        cases still
      · rw [refused rfl] at passes
        cases passes
    | authenticating =>
      rcases origin with still | ⟨passes, -⟩
      · cases still
      · cases passes
    | send | verify | status | dashboard | register | sendOtpJob | webhook =>
      obtain ⟨c', -, rfl⟩ := Thread.stepped_eq_some resumed
      cases is_resend
  · exact counted.resends v (List.mem_of_getElem? there) is_resend

/-- Only a send dispatches, and its phone limit has counted it. -/
theorem Counted.resume_dispatching (counted : Counted env phoneNumber p seen)
    (found : p.threads[i]? = some t) (resumed : t.resume env p.shared a = some (w, u))
    (refused : t.isResend = true → t.passes env phoneNumber p.shared a = false)
    (alone : total (Thread.busy false) (p.threads.set i u) ≤ 1)
    (dispatches : t.dispatches env phoneNumber p.shared a = true) :
    Counted env phoneNumber ⟨w, p.threads.set i u⟩ (seen ++ [(i, p.shared.now)]) := by
  have windowed := counted.windowed_resume found resumed
  have resends := counted.resends_resume found resumed refused
  obtain ⟨handing, handed⟩ := Thread.dispatches_handing resumed dispatches
  have committed := Thread.committed_of_handing handing
  cases t with
  | send c =>
    obtain ⟨c', stepped, rfl⟩ := Thread.stepped_eq_some resumed
    have body : c'.body = c.body := by
      rw [(SendCall.step_move stepped).2]
      rfl
    simp only [Thread.handing, Thread.committed, body, Bool.and_eq_true, beq_iff_eq] at handing handed
    obtain ⟨⟨here, -⟩, handing⟩ := handing
    have not_handing : c'.pc.handing = false := by
      revert handed
      cases c'.pc <;> simp [here, SendPc.committed, SendPc.handing]
    exact counted.dispatch found stepped windowed alone resends here handing not_handing
  | resend c =>
    rw [counted.resends _ (List.mem_of_getElem? found) rfl] at committed
    cases committed
  | authenticating | verify | status | dashboard | register | sendOtpJob | webhook => cases committed

/-- Without a dispatch, each send goes on to where its phone limit stands. -/
theorem Counted.resume_quiet (counted : Counted env phoneNumber p seen)
    (found : p.threads[i]? = some t) (resumed : t.resume env p.shared a = some (w, u))
    (answers : t.awaitsRedis = true → a.ok = true)
    (refused : t.isResend = true → t.passes env phoneNumber p.shared a = false)
    (alone : total (Thread.busy false) (p.threads.set i u) ≤ 1) :
    Counted env phoneNumber ⟨w, p.threads.set i u⟩ seen := by
  have guards := Thread.resume_guards resumed
  have member := List.mem_of_getElem? found
  refine ⟨counted.quota, fun d there => guards.now.symm ▸ counted.past d there, ?_, alone,
    counted.windowed_resume found resumed, fun d there here => ?_,
    counted.resends_resume found resumed refused⟩
  · rw [guards.now]
    exact counted.logs.resume counted.young (fun t h => (by cases h)) guards (counted.windowed t member)
  · rw [guards.now]
    rcases mem_set_cases there with same | ⟨j, -, there⟩
    · cases t with
      | send c =>
        obtain ⟨c', stepped, rfl⟩ := Thread.stepped_eq_some resumed
        cases same
        have body : d.body = c.body := by
          rw [(SendCall.step_move stepped).2]
          rfl
        rw [body] at here
        exact (counted.metered c member here).step here counted.young (counted.windowed _ member)
          counted.logs answers stepped
      | authenticating request c =>
        simp only [Thread.resume] at resumed
        obtain ⟨c', -, rfl⟩ := Thread.stepped_eq_some resumed
        split at same
        · unfold Thread.handler at same
          split at same <;> cases same
          exact .idle _ rfl
        · cases same
      | verify | resend | status | dashboard | register | sendOtpJob | webhook =>
        obtain ⟨c', -, rfl⟩ := Thread.stepped_eq_some resumed
        cases same
    · exact (counted.metered d (List.mem_of_getElem? there) here).keep counted.young guards.now
        fun young now logs => logs.resume young now guards (counted.windowed t member)

theorem Counted.resume (counted : Counted env phoneNumber p seen) (found : p.threads[i]? = some t)
    (resumed : t.resume env p.shared a = some (w, u)) (answers : t.awaitsRedis = true → a.ok = true)
    (refused : t.isResend = true → t.passes env phoneNumber p.shared a = false)
    (alone : total (Thread.busy false) (p.threads.set i u) ≤ 1) :
    Counted env phoneNumber ⟨w, p.threads.set i u⟩
      (seen ++ if t.dispatches env phoneNumber p.shared a then [(i, p.shared.now)] else []) := by
  split
  next dispatches => exact counted.resume_dispatching found resumed refused alone dispatches
  next quiet =>
    rw [List.append_nil]
    exact counted.resume_quiet found resumed answers refused alone

end Resume

theorem Counted.external (counted : Counted env phoneNumber p seen) {event : SystemEvent} {w : World}
    {born : List Thread} (onTime : SendsOnTime env phoneNumber p (.external event))
    (alone : total (Thread.busy false) (p.threads ++ born) ≤ 1)
    (acted : Thread.external p.shared event = some (w, born)) :
    Counted env phoneNumber ⟨w, p.threads ++ born⟩ seen := by
  obtain ⟨redis, clock⟩ := Thread.external_clock acted
  have later : p.shared.now ≤ w.now := by
    rcases clock with same | ⟨d, -, same⟩
    · exact same.ge
    · exact (Nat.le_add_right _ d).trans same.ge
  have fresh := Thread.born_unstarted acted
  have same {times pending : List Millis} (logs : Logs p.shared (key env phoneNumber) times pending) :
      Logs w (key env phoneNumber) times pending := logs.of_limits (by rw [redis])
  refine ⟨counted.quota, fun d there => (counted.past d there).trans later, ?_, alone,
    fun t there call limiting => ?_, fun c there here => ?_, fun t there is_resend => ?_⟩
  · exact (same counted.logs).mono (recent_later later)
  · rcases List.mem_append.mp there with old | new
    · intro phoneHash phone
      obtain ⟨width, early⟩ := counted.windowed t old call limiting phoneHash phone
      exact ⟨width, early.trans (seconds_mono later)⟩
    · rw [(fresh t new).1] at limiting
      cases limiting
  · rcases List.mem_append.mp there with old | new
    -- the condition on a tick: no send is between its timestamp and its dispatch
    · have metered := counted.metered c old here
      rcases clock with unmoved | ⟨d, rfl, moved⟩
      · rw [unmoved]
        exact metered.keep counted.young unmoved fun _ _ => same
      · rcases onTime with rfl | unmetered
        · have unmoved : w.now = p.shared.now := moved
          rw [unmoved]
          exact metered.keep counted.young unmoved fun _ _ => same
        · have idle := unmetered _ old
          simp only [Thread.metered, here, beq_self_eq_true, Bool.true_and] at idle
          exact .idle _ idle
    · exact absurd rfl ((fresh _ new).2.2.1 c)
  · rcases List.mem_append.mp there with old | new
    · exact counted.resends t old is_resend
    · rw [(fresh t new).2.1] at is_resend
      cases is_resend

theorem Counted.step (counted : Counted env phoneNumber p seen) {l : SystemLabel}
    (answers : RedisAnswers p l) (one : OneAtATime false p l)
    (onTime : SendsOnTime env phoneNumber p l) (taken : step (systemProgram env) p l = some q) :
    Counted env phoneNumber q (seen ++ dispatched env phoneNumber p l) := by
  have alone := one.step counted.alone taken
  cases l with
  | resume i a =>
    obtain ⟨t, w, u, found, resumed, rfl⟩ := step_resume taken
    simp only [dispatched, found]
    exact counted.resume found resumed (answers t found) (onTime t found) alone
  | external event =>
    obtain ⟨w, born, acted, rfl⟩ := step_external taken
    simp only [dispatched, List.append_nil]
    exact counted.external onTime alone acted

end Steps

/-! ### Runs -/

section Runs

variable {env : Env} {phoneNumber : String} {p q : System}

/-- Sends that are counted when they dispatch, one at a time and no resends, keep the quota. -/
theorem quota_of_sendsOnTime {labels : List SystemLabel} (idle : p.threads = [])
    (respects : Respects (step (systemProgram env))
      (fun s l => RedisAnswers s l ∧ OneAtATime false s l ∧ SendsOnTime env phoneNumber s l)
      p labels)
    (returned : run (step (systemProgram env)) p labels = some q) :
    Quota (observed (step (systemProgram env)) (dispatched env phoneNumber) p labels) := by
  have start : Counted env phoneNumber p [] := by
    refine ⟨fun _ => by simp, fun d h => (by cases h), .nil .., by simp [idle], fun t there => ?_,
      fun c there => ?_, fun t there => ?_⟩ <;>
    · rw [idle] at there
      cases there
  exact (run_observed_of_respects (Counted env phoneNumber)
    (fun s seen l t counted allowed taken => counted.step allowed.1 allowed.2.1 allowed.2.2 taken)
    start respects returned).quota

section Sample

def samplePhone : String := "+4915112345678"

def sampleSend (bytes : ℕ) : SystemLabel :=
  .external (.api (some "wotp_live_00")
    ⟨.send ⟨samplePhone, none, 3600, "otp_auth_v1", "en_US"⟩ none, "198.51.100.7", none, 0, bytes, 0⟩)

/-- The request of `sampleSend 7` again, 61 seconds later. -/
def sampleResend (i : ℕ) : List SystemLabel :=
  .external (.tick 61000) :: sampleRequest (.resend (generateRequestId 7)) :: resolve i 12

end Sample

/-- Four sends a minute after each other. -/
theorem quota_of_four_sends :
    ∃ q, run (step (systemProgram OtpPool.sampleEnv)) sampleSystem
        (sampleSend 7 :: resolve 0 29 ++ .external (.tick 61000) :: sampleSend 8 :: resolve 1 29 ++
          .external (.tick 61000) :: sampleSend 9 :: resolve 2 29 ++
          .external (.tick 61000) :: sampleSend 10 :: resolve 3 15) = some q ∧
      Quota (observed (step (systemProgram OtpPool.sampleEnv))
        (dispatched OtpPool.sampleEnv samplePhone) sampleSystem
        (sampleSend 7 :: resolve 0 29 ++ .external (.tick 61000) :: sampleSend 8 :: resolve 1 29 ++
          .external (.tick 61000) :: sampleSend 9 :: resolve 2 29 ++
          .external (.tick 61000) :: sampleSend 10 :: resolve 3 15)) := by
  obtain ⟨q, returned, respects⟩ :
      ∃ q ∈ run (step (systemProgram OtpPool.sampleEnv)) sampleSystem
        (sampleSend 7 :: resolve 0 29 ++ .external (.tick 61000) :: sampleSend 8 :: resolve 1 29 ++
          .external (.tick 61000) :: sampleSend 9 :: resolve 2 29 ++
          .external (.tick 61000) :: sampleSend 10 :: resolve 3 15),
        Respects (step (systemProgram OtpPool.sampleEnv))
          (fun s l => RedisAnswers s l ∧ OneAtATime false s l ∧
            SendsOnTime OtpPool.sampleEnv samplePhone s l) sampleSystem
          (sampleSend 7 :: resolve 0 29 ++ .external (.tick 61000) :: sampleSend 8 :: resolve 1 29 ++
            .external (.tick 61000) :: sampleSend 9 :: resolve 2 29 ++
            .external (.tick 61000) :: sampleSend 10 :: resolve 3 15) := by
    decide +kernel
  exact ⟨q, returned, quota_of_sendsOnTime rfl respects returned⟩

/-- A send and three resends within four minutes. -/
theorem three_resends_over_quota :
    ¬∀ (env : Env) (phoneNumber : String) (p q : System) (labels : List SystemLabel), p.threads = [] →
      Respects (step (systemProgram env))
        (fun s l => RedisAnswers s l ∧ OneAtATime false s l) p labels →
      run (step (systemProgram env)) p labels = some q →
      Quota (observed (step (systemProgram env)) (dispatched env phoneNumber) p labels) := by
  intro quota
  obtain ⟨q, returned, respects, exceeded⟩ :
      ∃ q ∈ run (step (systemProgram OtpPool.sampleEnv)) sampleSystem
        (sampleSend 7 :: resolve 0 29 ++ sampleResend 1 ++ sampleResend 2 ++ sampleResend 3),
        Respects (step (systemProgram OtpPool.sampleEnv))
          (fun s l => RedisAnswers s l ∧ OneAtATime false s l) sampleSystem
          (sampleSend 7 :: resolve 0 29 ++ sampleResend 1 ++ sampleResend 2 ++ sampleResend 3) ∧
        ¬((observed (step (systemProgram OtpPool.sampleEnv)) (dispatched OtpPool.sampleEnv samplePhone)
          sampleSystem (sampleSend 7 :: resolve 0 29 ++ sampleResend 1 ++ sampleResend 2 ++
            sampleResend 3)).countP fun d => sampleSystem.shared.now ≤ d.2 ∧
              d.2 < sampleSystem.shared.now + window) ≤ 3 := by
    decide +kernel
  exact exceeded (quota OtpPool.sampleEnv samplePhone sampleSystem q _ rfl respects returned
    sampleSystem.shared.now)

end Runs

end PhoneQuota

end SelfOtp
