import SelfOtp.Lib.Machine
import SelfOtp.Lib.SlidingWindow
import SelfOtp.Properties.LimiterRace

/-! `isRateLimited` calls one after the other, while Redis either always answers or never. -/
namespace SelfOtp

open Transition Machine SlidingWindow

abbrev LimitDecision := Decision LimitKey ℚ

namespace LimitCall

/-- The next command of the pipeline: all of them succeed, or none. -/
def advance (redis : Bool) : World × LimitOutcome → Option (World × LimitOutcome)
  | (w, .pending c) => some (c.step w redis)
  | (_, .done _ _) => none

/-- `isRateLimited`, from its call to its end. -/
def run (redis : Bool) (w : World) (c : LimitCall) : World × LimitOutcome :=
  follow (advance redis) 4 (w, .pending c)

/-- What the call returns. -/
def decisions (c : LimitCall) : LimitOutcome → List LimitDecision
  | .pending _ => []
  | .done isLimited remaining => [⟨c.key, c.maxRequests, c.now, isLimited, remaining⟩]

end LimitCall

inductive LimiterOperation where
  | tick (d : Millis)
  | isRateLimited (key : LimitKey) (maxRequests : ℕ)

/-- The operation, made in the process; `windowSeconds` is fixed for each key. -/
def LimiterOperation.perform (windowSeconds : LimitKey → ℕ) (redis : Bool) (process : ℕ) (w : World) :
    LimiterOperation → World × List LimitDecision
  | tick d => (w.tick d, [])
  | isRateLimited key maxRequests =>
    let c := LimitCall.start w process key maxRequests (windowSeconds key)
    ((c.run redis w).1, c.decisions (c.run redis w).2)

/-- The sliding window log: all requests that were made. -/
structure LimitLog where
  now : Millis
  log : List LimitDecision

namespace LimitLog

def span (windowSeconds : LimitKey → ℕ) (key : LimitKey) : ℚ := windowSeconds key

def perform (windowSeconds : LimitKey → ℕ) (s : LimitLog) : LimiterOperation → LimitLog × List LimitDecision
  | .tick d => ({ s with now := s.now + d }, [])
  | .isRateLimited key maxRequests =>
    let d := ask (span windowSeconds) s.log key maxRequests (seconds s.now)
    ({ s with log := s.log ++ [d] }, [d])

/-- The times of the requests for a key. -/
def times (s : LimitLog) (key : LimitKey) : List ℚ := (s.log.filter (·.key = key)).map (·.time)

/-- The times of the requests in the current window. -/
def recent (windowSeconds : LimitKey → ℕ) (s : LimitLog) (key : LimitKey) : List ℚ :=
  (s.times key).filter (seconds s.now - windowSeconds key < ·)

/-- A reachable log. -/
structure Valid (windowSeconds : LimitKey → ℕ) (s : LimitLog) : Prop where
  decided : Decided (span windowSeconds) s.log
  past : ∀ d ∈ s.log, d.time ≤ seconds s.now

end LimitLog

/-- The timestamps that are kept have all those of the current windows. -/
def KeepsRecent (windowSeconds : LimitKey → ℕ) (s : LimitLog) (kept : LimitKey → List ℚ) : Prop :=
  ∀ key, (kept key).filter (seconds s.now - windowSeconds key < ·) = s.recent windowSeconds key

section Log

variable {windowSeconds : LimitKey → ℕ} {s : LimitLog} {kept : LimitKey → List ℚ}

theorem LimitLog.Valid.perform (valid : s.Valid windowSeconds) (op : LimiterOperation) :
    (s.perform windowSeconds op).1.Valid windowSeconds := by
  cases op with
  | tick d =>
    exact ⟨valid.decided, fun e there => (valid.past e there).trans (seconds_mono (Nat.le_add_right ..))⟩
  | isRateLimited key maxRequests =>
    refine ⟨valid.decided.ask valid.past key maxRequests, fun e there => ?_⟩
    rcases List.mem_append.mp there with old | new
    · exact valid.past e old
    · rw [List.mem_singleton.mp new]
      exact le_refl _

theorem LimitLog.Valid.start (now : Millis) : LimitLog.Valid windowSeconds ⟨now, []⟩ :=
  ⟨.nil, fun d there => by cases there⟩

/-- The log is what has been answered. -/
theorem LimitLog.log_eq (now : Millis) (ops : List LimiterOperation) :
    (serve (fun s op => LimitLog.perform windowSeconds s op) ⟨now, []⟩ ops).1.log =
      (serve (fun s op => LimitLog.perform windowSeconds s op) ⟨now, []⟩ ops).2 := by
  refine (serve_log LimitLog.log (fun s op => ?_) _ ops).trans (List.nil_append _)
  cases op with
  | tick d => exact (List.append_nil _).symm
  | isRateLimited key maxRequests => rfl

theorem LimitLog.Valid.requests_eq (valid : s.Valid windowSeconds) (key : LimitKey) :
    requests (span windowSeconds) s.log key (seconds s.now) = (s.recent windowSeconds key).length := by
  unfold requests LimitLog.recent LimitLog.times
  rw [List.filter_map, List.length_map, List.filter_filter, ← List.countP_eq_length_filter]
  refine List.countP_congr fun d there => ?_
  simp [LimitLog.span, valid.past d there, and_comm]

theorem KeepsRecent.tick (keeps : KeepsRecent windowSeconds s kept) (d : Millis) :
    KeepsRecent windowSeconds ⟨s.now + d, s.log⟩ kept := by
  intro key
  have later : seconds s.now - windowSeconds key ≤ seconds (s.now + d) - windowSeconds key :=
    sub_le_sub_right (seconds_mono (Nat.le_add_right ..)) _
  have same := keeps key
  unfold LimitLog.recent at same ⊢
  rw [← filter_later later, same, filter_later later]
  rfl

theorem LimitLog.times_request (s : LimitLog) (key other : LimitKey) (maxRequests : ℕ) :
    (s.perform windowSeconds (.isRateLimited key maxRequests)).1.times other =
      s.times other ++ if key = other then [seconds s.now] else [] := by
  simp only [LimitLog.times, LimitLog.perform, List.filter_append, List.map_append, List.filter_singleton]
  by_cases same : key = other <;> simp [same, ask]

/-- A call leaves the timestamps of its window, with its own. -/
theorem KeepsRecent.request (keeps : KeepsRecent windowSeconds s kept) {next : LimitKey → List ℚ}
    (key : LimitKey) (maxRequests : ℕ) (here : next key = s.recent windowSeconds key ++ [seconds s.now])
    (elsewhere : ∀ other, other ≠ key → next other = kept other) :
    KeepsRecent windowSeconds (s.perform windowSeconds (.isRateLimited key maxRequests)).1 next := by
  intro other
  rw [LimitLog.recent, LimitLog.times_request, List.filter_append]
  by_cases same : key = other
  · subst same
    rw [here, if_pos rfl, List.filter_append, LimitLog.recent]
    exact congrArg (· ++ _) (filter_later (le_refl _) (s.times key))
  -- a request counts under its own key only
  · rw [elsewhere other (Ne.symm same), if_neg same, List.filter_nil, List.append_nil]
    exact keeps other

end Log

/-! ### In the process memory -/

section Memory

variable {windowSeconds : LimitKey → ℕ} {process : ℕ} {w : World} {s : LimitLog}

/-- The process has logged the requests. -/
structure LogInMemory (windowSeconds : LimitKey → ℕ) (process : ℕ) (w : World) (s : LimitLog) : Prop where
  now : w.now = s.now
  keeps : KeepsRecent windowSeconds s (w.memory process).rateLimits

theorem LogInMemory.start (empty : ∀ key, (w.memory process).rateLimits key = []) :
    LogInMemory windowSeconds process w ⟨w.now, []⟩ := by
  refine ⟨rfl, fun key => ?_⟩
  rw [empty]
  rfl

theorem LimitCall.run_fallback (c : LimitCall) (starts : c.command = .zremrangebyscore) :
    c.run false w = c.fallback w := by
  have passes : Passes (advance false) 4 (w, .pending c) (c.fallback w) := by
    refine .step (t := (w, .pending { c with command := .zadd })) ?_ (.step rfl (.step rfl (.step rfl .here)))
    simp only [advance, step, starts]
    rfl
  exact passes.stopped rfl

/-- The answer of a call, from the number of requests in its window. -/
theorem LimitCall.decisions_outcome (valid : s.Valid windowSeconds) (now : w.now = s.now) (key : LimitKey)
    (maxRequests : ℕ) {count : ℕ} (counted : count = (s.recent windowSeconds key).length + 1) :
    let c := LimitCall.start w process key maxRequests (windowSeconds key)
    c.decisions (c.outcome count) = (s.perform windowSeconds (.isRateLimited key maxRequests)).2 := by
  simp only [LimitLog.perform, ask, valid.requests_eq key, LimitCall.start, LimitCall.outcome,
    LimitCall.decisions, counted, now, Nat.lt_succ_iff]

theorem LogInMemory.perform (valid : s.Valid windowSeconds) (same : LogInMemory windowSeconds process w s)
    (op : LimiterOperation) :
    LogInMemory windowSeconds process (op.perform windowSeconds false process w).1
        (s.perform windowSeconds op).1 ∧
      (op.perform windowSeconds false process w).2 = (s.perform windowSeconds op).2 := by
  cases op with
  | tick d => exact ⟨⟨congrArg (· + d) same.now, same.keeps.tick d⟩, rfl⟩
  | isRateLimited key maxRequests =>
    simp only [LimiterOperation.perform]
    rw [LimitCall.run_fallback _ rfl]
    have logged : ((w.memory process).rateLimits key).filter
        (fun t => decide (seconds w.now - windowSeconds key < t)) ++ [seconds w.now] =
          s.recent windowSeconds key ++ [seconds s.now] := by
      rw [same.now]
      exact congrArg (· ++ [seconds s.now]) (same.keeps key)
    refine ⟨⟨same.now, ?_⟩, LimitCall.decisions_outcome valid same.now key maxRequests ?_⟩
    · refine same.keeps.request key maxRequests ?_ fun other apart => ?_
      · simp only [LimitCall.fallback, LimitCall.start, World.mapMemory_memory, if_true, Function.update_self]
        exact logged
      · simp only [LimitCall.fallback, LimitCall.start, World.mapMemory_memory, if_true]
        exact Function.update_of_ne apart ..
    · exact (congrArg List.length logged).trans (List.length_append ..)

end Memory

/-! ### In Redis -/

section Redis

variable {windowSeconds : LimitKey → ℕ} {process : ℕ} {w next : World} {s : LimitLog} {c : LimitCall}
  {key other : LimitKey}

/-- The sorted sets have the requests of the current windows, and they expire after these. -/
structure LogInRedis (windowSeconds : LimitKey → ℕ) (w : World) (s : LimitLog) : Prop where
  now : w.now = s.now
  keeps : KeepsRecent windowSeconds s w.timestamps
  past : ∀ key, ∀ t ∈ w.timestamps key, 0 ≤ t ∧ t ≤ seconds w.now
  lives : ∀ key, ∀ t ∈ w.timestamps key, ∀ expiresAt ∈ w.deadline key, t + windowSeconds key < seconds expiresAt

theorem LogInRedis.start (empty : ∀ key, w.redis.limits key = none) :
    LogInRedis windowSeconds w ⟨w.now, []⟩ := by
  have none_stored (key : LimitKey) : w.timestamps key = [] := by
    simp only [World.timestamps, Redis.sortedSet, empty]
    rfl
  refine ⟨rfl, fun key => ?_, fun key t there => ?_, fun key t there => ?_⟩
  · rw [none_stored]
    rfl
  · rw [none_stored] at there
    cases there
  · rw [none_stored] at there
    cases there

theorem setSortedSet_other (w : World) (set : Option SortedSet) (apart : other ≠ key) :
    (w.mapRedis fun r => r.setSortedSet key set).timestamps other = w.timestamps other ∧
      (w.mapRedis fun r => r.setSortedSet key set).deadline other = w.deadline other := by
  have same : (w.mapRedis fun r => r.setSortedSet key set).redis.sortedSet w.now other =
      w.redis.sortedSet w.now other := by
    simp [Redis.sortedSet, Redis.setSortedSet, apart]
  unfold World.timestamps World.deadline
  rw [World.mapRedis_now, same]
  exact ⟨rfl, rfl⟩

/-- A command leaves the set of any other key. -/
theorem LimitCall.step_other {outcome : LimitOutcome} (counted : c.command ≠ .expire none)
    (stepped : c.step w true = (next, outcome)) (apart : other ≠ c.key) :
    next.timestamps other = w.timestamps other ∧ next.deadline other = w.deadline other := by
  have here : (c.step w true).1 = next := congrArg Prod.fst stepped
  rw [← here]
  cases command : c.command with
  | zremrangebyscore | zadd =>
    simp only [step, command, if_true]
    exact setSortedSet_other w _ apart
  | zcard => simp [step, command]
  | expire count =>
    cases count with
    | none => exact absurd command counted
    | some count =>
      simp only [step, command, if_true]
      exact setSortedSet_other w _ apart

theorem LimitCall.step_pending {c' : LimitCall} (counted : c.command ≠ .expire none)
    (stepped : c.step w true = (next, .pending c')) : next.now = w.now ∧ LimitPool.Move w next c (.running c') :=
  LimitPool.resume_move counted (by simp only [LimitTask.resume, stepped])

theorem LimitCall.step_done {isLimited : Bool} {remaining : ℕ} (counted : c.command ≠ .expire none)
    (stepped : c.step w true = (next, .done isLimited remaining)) :
    next.now = w.now ∧ LimitPool.Move w next c (.answered c isLimited) :=
  LimitPool.resume_move counted (by simp only [LimitTask.resume, stepped])

/-- The whole pipeline. -/
theorem LimitCall.run_redis (starts : c.command = .zremrangebyscore) :
    let kept := (w.timestamps c.key).filter fun t => !(0 ≤ t && t ≤ c.clearBefore)
    ∃ next, c.run true w = (next, c.outcome (kept.length + 1)) ∧ next.now = w.now ∧
      next.timestamps c.key = kept ++ [c.now] ∧
      (∀ expiresAt ∈ next.deadline c.key, expiresAt = w.now + 1000 * (c.windowSeconds + 5)) ∧
      ∀ other, other ≠ c.key → next.timestamps other = w.timestamps other ∧
        next.deadline other = w.deadline other := by
  intro kept
  have counted : c.command ≠ .expire none := by simp [starts]
  -- the four commands of the pipeline
  obtain ⟨w₁, step₁⟩ : ∃ w₁, c.step w true = (w₁, .pending { c with command := .zadd }) :=
    ⟨(c.step w true).1, by simp only [step, starts]⟩
  obtain ⟨w₂, step₂⟩ : ∃ w₂, LimitCall.step w₁ { c with command := .zadd } true =
    (w₂, .pending { c with command := .zcard }) := ⟨_, rfl⟩
  obtain ⟨count, step₃⟩ : ∃ count, LimitCall.step w₂ { c with command := .zcard } true =
    (w₂, .pending { c with command := .expire (some count) }) := ⟨_, rfl⟩
  obtain ⟨w₄, step₄⟩ : ∃ w₄, LimitCall.step w₂ { c with command := .expire (some count) } true =
    (w₄, c.outcome count) := ⟨_, rfl⟩
  have passes : Passes (advance true) 4 (w, .pending c) (w₄, c.outcome count) :=
    .step (congrArg some step₁) (.step (congrArg some step₂) (.step (congrArg some step₃)
      (.step (congrArg some step₄) .here)))
  obtain ⟨now₁, move₁⟩ := step_pending counted step₁
  obtain ⟨now₂, move₂⟩ := step_pending (by simp) step₂
  obtain ⟨-, move₃⟩ := step_pending (by simp) step₃
  obtain ⟨now₄, move₄⟩ := step_done (by simp) step₄
  -- what each of them does with the set of the key
  have cleared : w₁.timestamps c.key = kept := by
    cases move₁ with
    | clear _ timestamps _ => exact timestamps
  have added : w₂.timestamps c.key = kept ++ [c.now] := by
    cases move₂ with
    | add _ timestamps _ => rw [timestamps, cleared]
  have length : count = kept.length + 1 := by
    cases move₃ with
    | count => rw [added, List.length_append, List.length_singleton]
  have lives : w₄.timestamps c.key = w₂.timestamps c.key ∧
      ∀ expiresAt ∈ w₄.deadline c.key, expiresAt = w₂.now + 1000 * (c.windowSeconds + 5) := by
    generalize decide (c.maxRequests < count) = isLimited at move₄
    cases move₄ with
    | expire _ _ timestamps deadline => exact ⟨timestamps, deadline⟩
  rw [length] at passes
  refine ⟨w₄, passes.stopped rfl, now₄.trans (now₂.trans now₁), lives.1.trans added, ?_, fun other apart => ?_⟩
  · rw [← now₁, ← now₂]
    exact lives.2
  · obtain ⟨timestamps₁, deadline₁⟩ := step_other counted step₁ apart
    obtain ⟨timestamps₂, deadline₂⟩ := step_other (by simp) step₂ apart
    obtain ⟨timestamps₄, deadline₄⟩ := step_other (by simp) step₄ apart
    exact ⟨timestamps₄.trans (timestamps₂.trans timestamps₁), deadline₄.trans (deadline₂.trans deadline₁)⟩

theorem LogInRedis.tick (same : LogInRedis windowSeconds w s) (d : Millis) :
    LogInRedis windowSeconds (w.tick d) ⟨s.now + d, s.log⟩ := by
  have later : seconds w.now ≤ seconds (w.tick d).now := seconds_mono (Nat.le_add_right ..)
  have now : (w.tick d).now = s.now + d := congrArg (· + d) same.now
  refine ⟨now, fun key => ?_, fun key t there => ?_, fun key t there e ends => ?_⟩
  · rcases LimitPool.tick_cases w key d with ⟨timestamps, -⟩ | ⟨none_left, -, expiresAt, ends, passed⟩
    · rw [timestamps]
      exact same.keeps.tick d key
    -- the set has expired, and none of its timestamps is in the window
    · rw [none_left, ← same.keeps.tick d key]
      refine (List.filter_eq_nil_iff.mpr fun t there => ?_).symm
      have expired : seconds expiresAt ≤ seconds (s.now + d) := by
        rw [← same.now]
        exact seconds_mono passed.le
      have outside := same.lives key t there expiresAt ends
      rw [decide_eq_true_eq]
      dsimp only
      linarith
  · rcases LimitPool.tick_cases w key d with ⟨timestamps, -⟩ | ⟨none_left, -⟩
    · rw [timestamps] at there
      exact ⟨(same.past key t there).1, (same.past key t there).2.trans later⟩
    · rw [none_left] at there
      cases there
  · rcases LimitPool.tick_cases w key d with ⟨timestamps, deadline⟩ | ⟨none_left, -⟩
    · rw [timestamps] at there
      rw [deadline] at ends
      exact same.lives key t there e ends
    · rw [none_left] at there
      cases there

theorem LogInRedis.perform (valid : s.Valid windowSeconds) (same : LogInRedis windowSeconds w s)
    (op : LimiterOperation) :
    LogInRedis windowSeconds (op.perform windowSeconds true process w).1 (s.perform windowSeconds op).1 ∧
      (op.perform windowSeconds true process w).2 = (s.perform windowSeconds op).2 := by
  cases op with
  | tick d => exact ⟨same.tick d, rfl⟩
  | isRateLimited key maxRequests =>
    obtain ⟨next, ended, now, timestamps, deadline, elsewhere⟩ := LimitCall.run_redis (w := w)
      (c := .start w process key maxRequests (windowSeconds key)) rfl
    -- the range of the clean-up starts at 0, and all timestamps are later
    have kept : ((w.timestamps key).filter fun t =>
        !(0 ≤ t && t ≤ LimitCall.clearBefore (.start w process key maxRequests (windowSeconds key)))) =
        s.recent windowSeconds key := by
      rw [← same.keeps key, ← same.now]
      refine List.filter_congr fun t there => ?_
      have nonneg : 0 ≤ t := (same.past key t there).1
      change (!(decide (0 ≤ t) && decide (t ≤ seconds w.now - windowSeconds key))) = _
      simp only [nonneg, decide_true, Bool.true_and, ← decide_not, not_le]
    have logged : next.timestamps key = s.recent windowSeconds key ++ [seconds s.now] := by
      rw [← kept, ← same.now]
      exact timestamps
    have count := congrArg (fun times => List.length times + 1) kept
    have kept_past : ∀ t ∈ next.timestamps key, 0 ≤ t ∧ t ≤ seconds next.now := by
      intro t there
      rw [now]
      rcases List.mem_append.mp (timestamps ▸ there) with old | new
      · exact same.past key t (List.mem_of_mem_filter old)
      · rw [List.mem_singleton.mp new]
        exact ⟨seconds_nonneg _, le_refl _⟩
    simp only [LimiterOperation.perform]
    rw [ended]
    refine ⟨⟨now.trans same.now, ?_, fun other t there => ?_, fun other t there e ends => ?_⟩,
      LimitCall.decisions_outcome valid same.now key maxRequests count⟩
    · exact same.keeps.request key maxRequests logged fun other apart => (elsewhere other apart).1
    · by_cases here : other = key
      · subst here
        exact kept_past t there
      · rw [(elsewhere other here).1] at there
        rw [now]
        exact same.past other t there
    -- `EXPIRE` gives the set five seconds more than the window
    · by_cases here : other = key
      · subst here
        have early := (kept_past t there).2
        rw [now] at early
        have expires : seconds e = seconds w.now + (windowSeconds other + 5 : ℕ) := by
          rw [deadline e ends, seconds_add]
          rfl
        rw [expires]
        push_cast
        linarith
      · rw [(elsewhere other here).1] at there
        rw [(elsewhere other here).2] at ends
        exact same.lives other t there e ends

end Redis

/-! ### Sequences of calls -/

/-- Both backends are the sliding window log: each call is limited exactly when the calls before it, admitted
or not, have used up the limit of its window. No window has more admitted calls than the limit, and Redis has
all timestamps of the current window, whatever `EXPIRE` has dropped. -/
theorem limiter_log (windowSeconds : LimitKey → ℕ) (process : ℕ) (w : World)
    (fresh : ∀ key, w.redis.limits key = none ∧ (w.memory process).rateLimits key = [])
    (ops : List LimiterOperation) :
    let inRedis := serve (fun w op => LimiterOperation.perform windowSeconds true process w op) w ops
    let inMemory := serve (fun w op => LimiterOperation.perform windowSeconds false process w op) w ops
    let expected := serve (fun s op => LimitLog.perform windowSeconds s op) ⟨w.now, []⟩ ops
    inRedis.2 = expected.2 ∧ inMemory.2 = expected.2 ∧ Decided (LimitLog.span windowSeconds) expected.2 ∧
      (∀ key, (inRedis.1.timestamps key).filter (seconds inRedis.1.now - windowSeconds key < ·) =
        ((inRedis.2.filter (·.key = key)).map (·.time)).filter
          (seconds inRedis.1.now - windowSeconds key < ·)) ∧
      ∀ key m t, admitted (LimitLog.span windowSeconds) inRedis.2 key m t ≤ m := by
  intro inRedis inMemory expected
  obtain ⟨⟨valid, last⟩, answers⟩ := serve_refines
    (fun w s op (same : s.Valid windowSeconds ∧ LogInRedis windowSeconds w s) =>
      have next : LogInRedis windowSeconds (op.perform windowSeconds true process w).1
          (s.perform windowSeconds op).1 ∧ _ := same.2.perform same.1 op
      ⟨⟨same.1.perform op, next.1⟩, next.2⟩)
    ⟨LimitLog.Valid.start w.now, LogInRedis.start fun key => (fresh key).1⟩ ops
  obtain ⟨-, answers_memory⟩ := serve_refines
    (fun w s op (same : s.Valid windowSeconds ∧ LogInMemory windowSeconds process w s) =>
      have next := same.2.perform same.1 op
      ⟨⟨same.1.perform op, next.1⟩, next.2⟩)
    ⟨LimitLog.Valid.start w.now, LogInMemory.start fun key => (fresh key).2⟩ ops
  have log : expected.1.log = expected.2 := LimitLog.log_eq w.now ops
  have decided : Decided (LimitLog.span windowSeconds) expected.2 := log ▸ valid.decided
  have answers_redis : inRedis.2 = expected.2 := answers
  refine ⟨answers, answers_memory, decided, fun key => ?_, fun key m t => ?_⟩
  · rw [answers_redis, ← log]
    have recent := last.keeps key
    rw [LimitLog.recent, ← last.now] at recent
    exact recent
  · rw [answers_redis]
    exact decided.admitted_le key m t

/-- Two requests in a minute: the third is limited, and one that comes later is not. -/
theorem limiter_log_of_requests :
    let request : LimiterOperation := .isRateLimited (.ip "203.0.113.7") 2
    let d (time : ℚ) (limited : Bool) (remaining : ℕ) : LimitDecision :=
      ⟨.ip "203.0.113.7", 2, time, limited, remaining⟩
    (serve (fun w op => LimiterOperation.perform (fun _ => 60) true 0 w op) (.empty 0)
        [request, .tick 30000, request, .tick 29999, request, .tick 30001, request]).2 =
      [d 0 false 1, d 30 false 0, d 59.999 true 0, d 90 false 0] :=
  (limiter_log (fun _ => 60) 0 (.empty 0) (fun _ => ⟨rfl, rfl⟩) _).1.trans (by decide +kernel)

end SelfOtp
