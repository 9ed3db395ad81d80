import SelfOtp.Model.LimiterPool

/-! How many concurrent calls the limiter admits in a window. -/
namespace SelfOtp

open Pool Transition

namespace LimitTask

/-- The call has been admitted, and its timestamp is in the window that ends at `t`. -/
def admitted (t : ℚ) : LimitTask → ℕ
  | answered c false => if t - c.windowSeconds < c.now ∧ c.now ≤ t then 1 else 0
  | answered _ true | running _ => 0

/-- The same, from the moment on that the count has been read. -/
def passed (t : ℚ) : LimitTask → ℕ
  | running c =>
    match c.command with
    | .expire (some count) =>
      if count ≤ c.maxRequests ∧ t - c.windowSeconds < c.now ∧ c.now ≤ t then 1 else 0
    | .zremrangebyscore | .zadd | .zcard | .expire none => 0
  | answered c isLimited => (answered c isLimited).admitted t

/-- The timestamp has been added, and it is later than `t`. -/
def added (t : ℚ) : LimitTask → ℕ
  | running c =>
    match c.command with
    | .zremrangebyscore | .zadd => 0
    | .zcard | .expire _ => if t < c.now then 1 else 0
  | answered c _ => if t < c.now then 1 else 0

/-- The call has not read its count yet. -/
def uncounted : LimitTask → Bool
  | running c =>
    match c.command with
    | .zremrangebyscore | .zadd | .zcard => true
    | .expire _ => false
  | answered _ _ => false

def isRunning : LimitTask → Bool
  | running _ => true
  | answered _ _ => false

/-- The call removes old timestamps next. -/
def clearing : LimitTask → Bool
  | running c => c.command == .zremrangebyscore
  | answered _ _ => false

end LimitTask

/-- The timestamps under a key that has not expired. -/
def World.timestamps (w : World) (key : LimitKey) : List ℚ :=
  ((w.redis.sortedSet w.now key).map (·.scores)).getD []

/-- When a key expires that has not expired yet. -/
def World.deadline (w : World) (key : LimitKey) : Option Millis :=
  (w.redis.sortedSet w.now key).bind (·.expiresAt)

namespace LimitPool

/-- No timestamp is lost that a call has in its window: neither to the clean-up of a call with a later
window, nor with the key. -/
def KeepsWindows (key : LimitKey) (p : LimitPool) : LimitLabel → Prop
  | .resume i () => ∀ c ∈ p.threads[i]?, c.clearing = true → ∀ u ∈ p.threads, u.uncounted = true →
      ∀ s ∈ p.shared.timestamps key, s ≤ c.call.clearBefore → s ≤ u.call.clearBefore
  | .external (.tick d) => ∀ expiresAt ∈ p.shared.deadline key, expiresAt < p.shared.now + d →
      ∀ u ∈ p.threads, u.isRunning = true → ∀ s ∈ p.shared.timestamps key, s ≤ u.call.clearBefore
  | .external (.isRateLimited _) => True

instance (key : LimitKey) : DecidableRel (KeepsWindows key)
  | p, .resume i () => inferInstanceAs (Decidable (∀ c ∈ p.threads[i]?, c.clearing = true →
      ∀ u ∈ p.threads, u.uncounted = true → ∀ s ∈ p.shared.timestamps key, s ≤ c.call.clearBefore →
        s ≤ u.call.clearBefore))
  | p, .external (.tick d) => inferInstanceAs (Decidable (∀ expiresAt ∈ p.shared.deadline key,
      expiresAt < p.shared.now + d → ∀ u ∈ p.threads, u.isRunning = true →
        ∀ s ∈ p.shared.timestamps key, s ≤ u.call.clearBefore))
  | _, .external (.isRateLimited _) => isTrue trivial

/-- A window that starts at `t` is still counted, or will be by a call to come. -/
def Needed (w : ℕ) (p : LimitPool) (t : ℚ) : Prop :=
  (∃ u ∈ p.threads, u.uncounted = true ∧ u.call.clearBefore = t) ∨ seconds p.shared.now - w ≤ t

/-- What the calls have in common, and what is still there of their windows. -/
structure Windows (key : LimitKey) (m w : ℕ) (p : LimitPool) : Prop where
  calls : ∀ t ∈ p.threads, t.call.key = key ∧ t.call.maxRequests = m ∧ t.call.windowSeconds = w ∧
    t.call.now ≤ seconds p.shared.now
  counted : ∀ c, .running c ∈ p.threads → c.command ≠ .expire none
  past : ∀ s ∈ p.shared.timestamps key, s ≤ seconds p.shared.now
  lives : ∀ s ∈ p.shared.timestamps key, (∃ t ∈ p.threads, t.isRunning = true ∧ t.call.now = s) ∨
    ∀ expiresAt ∈ p.shared.deadline key, s + w < seconds expiresAt
  kept : ∀ t, Needed w p t →
    total (LimitTask.added t) p.threads ≤ (p.shared.timestamps key).countP (t < ·)
  bounded : ∀ t, total (LimitTask.passed t) p.threads ≤ m

/-- What the next command of a call does. -/
inductive Move (w w' : World) (c : LimitCall) : LimitTask → Prop
  | clear (command : c.command = .zremrangebyscore)
      (timestamps : w'.timestamps c.key =
        (w.timestamps c.key).filter fun t => !(0 ≤ t && t ≤ c.clearBefore))
      (deadline : ∀ expiresAt ∈ w'.deadline c.key, expiresAt ∈ w.deadline c.key) :
      Move w w' c (.running { c with command := .zadd })
  | add (command : c.command = .zadd) (timestamps : w'.timestamps c.key = w.timestamps c.key ++ [c.now])
      (deadline : w'.deadline c.key = w.deadline c.key) : Move w w' c (.running { c with command := .zcard })
  | count (command : c.command = .zcard) (same : w' = w) :
      Move w w' c (.running { c with command := .expire (some (w.timestamps c.key).length) })
  | expire (count : ℕ) (command : c.command = .expire (some count))
      (timestamps : w'.timestamps c.key = w.timestamps c.key)
      (deadline : ∀ expiresAt ∈ w'.deadline c.key, expiresAt = w.now + 1000 * (c.windowSeconds + 5)) :
      Move w w' c (.answered c (c.maxRequests < count))

section Steps

variable {key : LimitKey} {m w : ℕ} {p q : LimitPool} {c : LimitCall} {world next : World} {t : LimitTask}

/-! ### The commands -/

theorem live_of_sortedSet {r : Redis} {now : Millis} {set : SortedSet}
    (found : r.sortedSet now key = some set) : ∀ expiresAt ∈ set.expiresAt, now ≤ expiresAt := by
  have live := (Option.filter_eq_some_iff.mp found).2
  simpa [Option.all_eq_true] using live

/-- A set that is stored under the key and does not expire yet. -/
theorem sortedSet_mapRedis {set : Option SortedSet}
    (live : ∀ s ∈ set, ∀ expiresAt ∈ s.expiresAt, world.now ≤ expiresAt) :
    (world.mapRedis fun r => r.setSortedSet key set).redis.sortedSet world.now key = set := by
  have here : (world.mapRedis fun r => r.setSortedSet key set).redis.limits key = set := by
    simp [Redis.setSortedSet]
  rw [Redis.sortedSet, here]
  cases set with
  | none => rfl
  | some s =>
    have all_live : (s.expiresAt.all fun expiresAt => world.now ≤ expiresAt) = true := by
      simpa [Option.all_eq_true] using live s rfl
    simp [Option.filter, all_live]

theorem stored_mapRedis (world : World) (key : LimitKey) (set : Option SortedSet)
    (live : ∀ s ∈ set, ∀ expiresAt ∈ s.expiresAt, world.now ≤ expiresAt) :
    (world.mapRedis fun r => r.setSortedSet key set).timestamps key = (set.map (·.scores)).getD [] ∧
      (world.mapRedis fun r => r.setSortedSet key set).deadline key = set.bind (·.expiresAt) := by
  unfold World.timestamps World.deadline
  rw [World.mapRedis_now, sortedSet_mapRedis live]
  exact ⟨rfl, rfl⟩

theorem resume_move (counted : c.command ≠ .expire none)
    (resumed : (LimitTask.running c).resume world () = some (next, t)) :
    next.now = world.now ∧ Move world next c t := by
  have live : ∀ s ∈ world.redis.sortedSet world.now c.key, ∀ expiresAt ∈ s.expiresAt,
    world.now ≤ expiresAt := fun s found => live_of_sortedSet found
  have timestamps : world.timestamps c.key =
    ((world.redis.sortedSet world.now c.key).map (·.scores)).getD [] := rfl
  have deadline : world.deadline c.key = (world.redis.sortedSet world.now c.key).bind (·.expiresAt) := rfl
  simp only [LimitTask.resume, LimitCall.step] at resumed
  generalize world.redis.sortedSet world.now c.key = set at live timestamps deadline resumed
  cases command : c.command with
  | zremrangebyscore =>
    simp only [command, if_true] at resumed
    cases resumed
    refine ⟨rfl, ?_⟩
    cases set with
    | none =>
      have stored := stored_mapRedis world c.key none live
      exact .clear command (by rw [timestamps]; exact stored.1) (by rw [deadline]; simp [stored.2])
    | some s =>
      simp only [Option.bind_some]
      split
      -- a set that has lost all its elements is deleted
      next empty =>
        have stored := stored_mapRedis world c.key none (by simp)
        refine .clear command ?_ (by simp [stored.2])
        rw [stored.1, timestamps]
        exact (List.isEmpty_iff.mp empty).symm
      next some_left =>
        have stored := stored_mapRedis world c.key
          (some { s with scores := s.scores.filter fun t => !(0 ≤ t && t ≤ c.clearBefore) })
          (fun r same => by cases same; exact live s rfl)
        exact .clear command (by rw [timestamps]; exact stored.1) (by rw [deadline, stored.2]; simp)
  | zadd =>
    simp only [command, if_true] at resumed
    cases resumed
    refine ⟨rfl, ?_⟩
    cases set with
    | none =>
      have stored := stored_mapRedis world c.key (some ⟨[c.now], none⟩) (by simp)
      exact .add command (by rw [timestamps]; exact stored.1) (by rw [deadline]; exact stored.2)
    | some s =>
      have stored := stored_mapRedis world c.key (some { s with scores := s.scores ++ [c.now] })
        (fun r same => by cases same; exact live s rfl)
      exact .add command (by rw [timestamps]; exact stored.1) (by rw [deadline]; exact stored.2)
  | zcard =>
    simp only [command, if_true] at resumed
    cases resumed
    refine ⟨rfl, ?_⟩
    have counting : Move world world c _ := .count command rfl
    rw [timestamps] at counting
    cases set <;> exact counting
  | expire count =>
    cases count with
    | none => exact absurd command counted
    | some count =>
      simp only [command, if_true, LimitCall.outcome] at resumed
      cases resumed
      refine ⟨rfl, ?_⟩
      cases set with
      | none =>
        have stored := stored_mapRedis world c.key none live
        exact .expire count command (by rw [timestamps]; exact stored.1) (by simp [stored.2])
      | some s =>
        have stored := stored_mapRedis world c.key
          (some { s with expiresAt := some (world.now + 1000 * (c.windowSeconds + 5)) })
          (fun r same => by cases same; simp)
        exact .expire count command (by rw [timestamps]; exact stored.1) (by simp [stored.2, eq_comm])

/-! ### What a command keeps -/

/-- A call that is admitted in a window counts for every call that is. -/
theorem passed_le_added {u : LimitTask} {s t : ℚ} (earlier : s ≤ t - u.call.windowSeconds) :
    u.passed t ≤ u.added s := by
  have later {now : ℚ} (inside : t - u.call.windowSeconds < now) : s < now := earlier.trans_lt inside
  cases u with
  | running c =>
    cases command : c.command with
    | zremrangebyscore | zadd | zcard => simp [LimitTask.passed, command]
    | expire count =>
      cases count with
      | none => simp [LimitTask.passed, command]
      | some count =>
        simp only [LimitTask.passed, LimitTask.added, command]
        split
        next admits => rw [if_pos (later admits.2.1)]
        · exact Nat.zero_le _
  | answered c isLimited =>
    cases isLimited with
    | true => exact Nat.zero_le _
    | false =>
      simp only [LimitTask.passed, LimitTask.admitted, LimitTask.added]
      split
      next admits => rw [if_pos (later admits.1)]
      · exact Nat.zero_le _

theorem Windows.counted_set {i : ℕ} (windows : Windows key m w p)
    (counts : ∀ c', t = .running c' → c'.command ≠ .expire none) :
    ∀ c', .running c' ∈ p.threads.set i t → c'.command ≠ .expire none := by
  intro c' there
  rcases List.mem_or_eq_of_mem_set there with old | same
  · exact windows.counted c' old
  · exact counts c' same.symm

section Commands

variable {i : ℕ} (windows : Windows key m w p) (found : p.threads[i]? = some (.running c))
include windows found

/-- The calls after a step of one of them that leaves its timestamp as it is. -/
theorem Windows.calls_set (now : next.now = p.shared.now) (key_same : t.call.key = c.key)
    (max_same : t.call.maxRequests = c.maxRequests) (window_same : t.call.windowSeconds = c.windowSeconds)
    (time_same : t.call.now = c.now) :
    ∀ u ∈ p.threads.set i t, u.call.key = key ∧ u.call.maxRequests = m ∧ u.call.windowSeconds = w ∧
      u.call.now ≤ seconds next.now := by
  intro u there
  rw [now]
  rcases List.mem_or_eq_of_mem_set there with old | rfl
  · exact windows.calls u old
  · rw [key_same, max_same, window_same, time_same]
    exact windows.calls _ (List.mem_of_getElem? found)

omit windows in
/-- What a window is needed for was there before the step. -/
theorem Needed.of_set {s : ℚ} (needed : Needed w ⟨next, p.threads.set i t⟩ s) (now : next.now = p.shared.now)
    (same : t.uncounted = true →
      (LimitTask.running c).uncounted = true ∧ t.call.clearBefore = c.clearBefore) : Needed w p s := by
  rw [Needed, ← now]
  refine needed.imp_left ?_
  rintro ⟨u, there, uncounted, starts⟩
  rcases List.mem_or_eq_of_mem_set there with old | rfl
  · exact ⟨u, old, uncounted, starts⟩
  · obtain ⟨before, still⟩ := same uncounted
    exact ⟨_, List.mem_of_getElem? found, before, still.symm.trans starts⟩

/-- A timestamp that lives on with its call, or longer than its window. -/
theorem Windows.lives_set {s : ℚ} (old : s ∈ p.shared.timestamps key) (running : t.isRunning = true)
    (time_same : t.call.now = c.now) (deadline : ∀ e ∈ next.deadline key, e ∈ p.shared.deadline key) :
    (∃ u ∈ p.threads.set i t, u.isRunning = true ∧ u.call.now = s) ∨
      ∀ expiresAt ∈ next.deadline key, s + w < seconds expiresAt := by
  rcases windows.lives s old with ⟨u, there, up, same⟩ | later
  · left
    rcases mem_set_or_eq found there with still | rfl
    · exact ⟨u, still, up, same⟩
    · exact ⟨t, List.mem_set (List.getElem?_eq_some_iff.mp found).1 t, running, time_same.trans same⟩
  · exact Or.inr fun e ends => later e (deadline e ends)

/-- The clean-up of one call removes nothing that is in the window of another. -/
theorem Windows.clear (keeps : KeepsWindows key p (.resume i ())) (now : next.now = p.shared.now)
    (command : c.command = .zremrangebyscore)
    (timestamps : next.timestamps key =
      (p.shared.timestamps key).filter fun t => !(0 ≤ t && t ≤ c.clearBefore))
    (deadline : ∀ expiresAt ∈ next.deadline key, expiresAt ∈ p.shared.deadline key) :
    Windows key m w ⟨next, p.threads.set i (.running { c with command := .zadd })⟩ := by
  obtain ⟨-, -, width, early⟩ := windows.calls _ (List.mem_of_getElem? found)
  have fewer : ∀ s ∈ next.timestamps key, s ∈ p.shared.timestamps key := by
    rw [timestamps]
    exact fun s there => List.mem_of_mem_filter there
  refine ⟨windows.calls_set found now rfl rfl rfl rfl, windows.counted_set (fun c' same => by cases same; simp),
    fun s there => now ▸ windows.past s (fewer s there),
    fun s there => windows.lives_set found (fewer s there) rfl rfl deadline, fun t needed => ?_, fun t => ?_⟩
  · have none_added : (LimitTask.running c).added t = 0 := by simp only [LimitTask.added, command]
    have still : ∀ s ∈ p.shared.timestamps key, t < s → ¬s ≤ c.clearBefore := by
      intro s there later cleared
      rcases needed with ⟨u, member, uncounted, rfl⟩ | recent
      · rcases List.mem_or_eq_of_mem_set member with old | rfl
        · have kept := keeps (.running c) (by rw [found]; rfl) (by simp [LimitTask.clearing, command]) u old
            uncounted s there cleared
          exact absurd later (not_lt.mpr kept)
        · exact absurd later (not_lt.mpr cleared)
      · simp only [LimitTask.call] at width early
        rw [now] at recent
        have bound : c.clearBefore ≤ t := by
          rw [LimitCall.clearBefore, width]
          linarith
        exact absurd later (not_lt.mpr (cleared.trans bound))
    have kept := windows.kept t (needed.of_set found now fun _ =>
      ⟨by simp only [LimitTask.uncounted, command], rfl⟩)
    have same_count : (next.timestamps key).countP (t < ·) = (p.shared.timestamps key).countP (t < ·) := by
      rw [timestamps, List.countP_filter]
      refine List.countP_congr fun s there => ?_
      simp only [Bool.and_eq_true, decide_eq_true_eq, Bool.not_eq_true', Bool.and_eq_false_iff,
        decide_eq_false_iff_not]
      exact ⟨fun both => both.1, fun later => ⟨later, Or.inr (still s there later)⟩⟩
    dsimp only
    rw [same_count, total_set_eq found none_added.symm]
    exact kept
  · exact (total_set_le found (Nat.zero_le _)).trans (windows.bounded t)

theorem Windows.add (now : next.now = p.shared.now) (command : c.command = .zadd)
    (timestamps : next.timestamps key = p.shared.timestamps key ++ [c.now])
    (deadline : next.deadline key = p.shared.deadline key) :
    Windows key m w ⟨next, p.threads.set i (.running { c with command := .zcard })⟩ := by
  have member := List.mem_of_getElem? found
  obtain ⟨-, -, width, early⟩ := windows.calls _ member
  refine ⟨windows.calls_set found now rfl rfl rfl rfl, windows.counted_set (fun c' same => by cases same; simp),
    fun s there => ?_, fun s there => ?_, fun t needed => ?_, fun t => ?_⟩
  · rw [timestamps] at there
    rw [now]
    rcases List.mem_append.mp there with old | new
    · exact windows.past s old
    · rw [List.mem_singleton.mp new]
      exact early
  · rw [timestamps] at there
    rcases List.mem_append.mp there with old | new
    · exact windows.lives_set found old rfl rfl fun e ends => deadline ▸ ends
    · rw [List.mem_singleton.mp new]
      exact Or.inl ⟨_, List.mem_set (List.getElem?_eq_some_iff.mp found).1 _, rfl, rfl⟩
  · have counts := total_set (m := LimitTask.added t) found (.running { c with command := .zcard })
    have before : (LimitTask.running c).added t = 0 := by simp only [LimitTask.added, command]
    have after : (LimitTask.running { c with command := .zcard }).added t = if t < c.now then 1 else 0 := rfl
    have kept := windows.kept t (needed.of_set found now fun _ =>
      ⟨by simp only [LimitTask.uncounted, command], rfl⟩)
    have one_more : (next.timestamps key).countP (t < ·) =
        (p.shared.timestamps key).countP (t < ·) + if t < c.now then 1 else 0 := by
      rw [timestamps, List.countP_append, List.countP_singleton]
      simp only [decide_eq_true_eq]
    dsimp only
    omega
  · exact (total_set_le found (Nat.zero_le _)).trans (windows.bounded t)

/-- The call counts all those that have been admitted in a window with it. -/
theorem Windows.count {n : ℕ} (command : c.command = .zcard) (length : n = (p.shared.timestamps key).length) :
    Windows key m w ⟨p.shared, p.threads.set i (.running { c with command := .expire (some n) })⟩ := by
  have member := List.mem_of_getElem? found
  obtain ⟨-, most, width, -⟩ := windows.calls _ member
  have calls : ∀ u ∈ p.threads.set i (.running { c with command := .expire (some n) }), u.call.key = key ∧
      u.call.maxRequests = m ∧ u.call.windowSeconds = w ∧ u.call.now ≤ seconds p.shared.now :=
    windows.calls_set found rfl rfl rfl rfl rfl
  have still_added (t : ℚ) : total (LimitTask.added t)
      (p.threads.set i (.running { c with command := .expire (some n) })) =
        total (LimitTask.added t) p.threads :=
    total_set_eq found (by simp only [LimitTask.added, command])
  refine ⟨calls, windows.counted_set (fun c' same => by cases same; simp), windows.past,
    fun s there => windows.lives_set found there rfl rfl fun e ends => ends, fun t needed => ?_, fun t => ?_⟩
  · rw [still_added]
    exact windows.kept t (needed.of_set found rfl fun uncounted => (by cases uncounted))
  · have after : (LimitTask.running { c with command := .expire (some n) }).passed t =
      if n ≤ c.maxRequests ∧ t - c.windowSeconds < c.now ∧ c.now ≤ t then 1 else 0 := rfl
    split at after
    next admits =>
      -- what has passed in a window with this call is in the set that it has counted
      have uncounted : Needed w p c.clearBefore :=
        Or.inl ⟨_, member, by simp only [LimitTask.uncounted, command], rfl⟩
      have covers : ∀ u ∈ p.threads.set i (.running { c with command := .expire (some n) }),
          u.passed t ≤ u.added c.clearBefore := by
        intro u there
        apply passed_le_added
        rw [LimitCall.clearBefore, (calls u there).2.2.1, ← width]
        exact sub_le_sub_right admits.2.2 _
      calc total (LimitTask.passed t) (p.threads.set i (.running { c with command := .expire (some n) }))
        _ ≤ total (LimitTask.added c.clearBefore)
            (p.threads.set i (.running { c with command := .expire (some n) })) := total_le_total covers
        _ = total (LimitTask.added c.clearBefore) p.threads := still_added _
        _ ≤ (p.shared.timestamps key).countP (c.clearBefore < ·) := windows.kept _ uncounted
        _ ≤ n := length ▸ List.countP_le_length
        _ ≤ m := most ▸ admits.1
    · exact (total_set_le found (after.le.trans (Nat.zero_le _))).trans (windows.bounded t)

theorem Windows.expire {count : ℕ} (now : next.now = p.shared.now) (command : c.command = .expire (some count))
    (timestamps : next.timestamps key = p.shared.timestamps key)
    (deadline : ∀ expiresAt ∈ next.deadline key, expiresAt = p.shared.now + 1000 * (c.windowSeconds + 5)) :
    Windows key m w ⟨next, p.threads.set i (.answered c (c.maxRequests < count))⟩ := by
  have member := List.mem_of_getElem? found
  obtain ⟨-, -, width, early⟩ := windows.calls _ member
  refine ⟨windows.calls_set found now rfl rfl rfl rfl, windows.counted_set (fun c' same => by cases same),
    by rw [now, timestamps]; exact windows.past, fun s there => Or.inr fun e ends => ?_, fun t needed => ?_,
    fun t => ?_⟩
  · rw [timestamps] at there
    have past := windows.past s there
    simp only [LimitTask.call] at width
    rw [deadline e ends, width]
    unfold seconds at past ⊢
    push_cast
    linarith
  · have same : (LimitTask.answered c (c.maxRequests < count)).added t = (LimitTask.running c).added t := by
      simp only [LimitTask.added, command]
    dsimp only
    rw [timestamps, total_set_eq found same]
    exact windows.kept t (needed.of_set found now fun uncounted => (by cases uncounted))
  · have same : (LimitTask.answered c (c.maxRequests < count)).passed t = (LimitTask.running c).passed t := by
      simp only [LimitTask.passed, command]
      by_cases limited : c.maxRequests < count
      · simp [LimitTask.admitted, limited]
      · simp [LimitTask.admitted, limited, not_lt.mp limited]
    exact (total_set_le found same.le).trans (windows.bounded t)

end Commands

theorem Windows.resume {i : ℕ} {u : LimitTask} (windows : Windows key m w p) (found : p.threads[i]? = some u)
    (resumed : u.resume p.shared () = some (next, t)) (keeps : KeepsWindows key p (.resume i ())) :
    Windows key m w ⟨next, p.threads.set i t⟩ := by
  have member := List.mem_of_getElem? found
  cases u with
  | answered c isLimited => cases resumed
  | running c =>
    obtain ⟨now, move⟩ := resume_move (windows.counted c member) resumed
    obtain rfl : c.key = key := (windows.calls _ member).1
    cases move with
    | clear command timestamps deadline => exact windows.clear found keeps now command timestamps deadline
    | add command timestamps deadline => exact windows.add found now command timestamps deadline
    | count command same =>
      subst same
      exact windows.count found command rfl
    | expire count command timestamps deadline => exact windows.expire found now command timestamps deadline

/-! ### What the time and a new call keep -/

/-- A key stays as it is, or expires. -/
theorem tick_cases (world : World) (key : LimitKey) (d : Millis) :
    (world.tick d).timestamps key = world.timestamps key ∧ (world.tick d).deadline key = world.deadline key ∨
      (world.tick d).timestamps key = [] ∧ (world.tick d).deadline key = none ∧
        ∃ expiresAt ∈ world.deadline key, expiresAt < world.now + d := by
  unfold World.timestamps World.deadline Redis.sortedSet World.tick
  cases stored : world.redis.limits key with
  | none => exact Or.inl ⟨rfl, rfl⟩
  | some set =>
    cases ends : set.expiresAt with
    | none => simp [Option.filter, ends]
    | some expiresAt =>
      -- the key outlives the tick, expires within it, or had expired before
      by_cases later : world.now + d ≤ expiresAt
      · have before : world.now ≤ expiresAt := (Nat.le_add_right ..).trans later
        simp [Option.filter, ends, later, before]
      · by_cases before : world.now ≤ expiresAt
        · simp [Option.filter, ends, later, before, not_le.mp later]
        · simp [Option.filter, ends, later, before]

theorem Windows.tick {d : Millis} (windows : Windows key m w p)
    (keeps : KeepsWindows key p (.external (.tick d))) : Windows key m w ⟨p.shared.tick d, p.threads⟩ := by
  have later : seconds p.shared.now ≤ seconds (p.shared.tick d).now := seconds_mono (Nat.le_add_right ..)
  have calls : ∀ t ∈ p.threads, t.call.key = key ∧ t.call.maxRequests = m ∧ t.call.windowSeconds = w ∧
      t.call.now ≤ seconds (p.shared.tick d).now := fun t there =>
    have call := windows.calls t there
    ⟨call.1, call.2.1, call.2.2.1, call.2.2.2.trans later⟩
  rcases tick_cases p.shared key d with
    ⟨timestamps, deadline⟩ | ⟨none_left, no_deadline, expiresAt, ends, passed⟩
  · refine ⟨calls, windows.counted, fun s there => ?_, fun s there => ?_, fun t needed => ?_, windows.bounded⟩
    · exact (windows.past s (timestamps ▸ there)).trans later
    · rw [deadline]
      exact windows.lives s (timestamps ▸ there)
    · rw [timestamps]
      exact windows.kept t (needed.imp_right (le_trans (sub_le_sub_right later _)))
  -- with the key all its timestamps are lost, but none that a window still needs
  · refine ⟨calls, windows.counted, fun s there => ?_, fun s there => ?_, fun t needed => ?_, windows.bounded⟩
    · rw [none_left] at there
      cases there
    · rw [none_left] at there
      cases there
    · have old : ∀ s ∈ p.shared.timestamps key, ¬t < s := by
        intro s there
        rcases needed with ⟨u, member, uncounted, rfl⟩ | recent
        · have running : u.isRunning = true := by
            cases u with
            | running c => rfl
            | answered c isLimited => cases uncounted
          exact not_lt.mpr (keeps expiresAt ends passed u member running s there)
        · rcases Nat.eq_zero_or_pos w with rfl | positive
          · have past := (windows.past s there).trans later
            simp only [Nat.cast_zero, sub_zero] at recent
            exact not_lt.mpr (past.trans recent)
          rcases windows.lives s there with ⟨u, member, running, same⟩ | lasts
          · have lost := keeps expiresAt ends passed u member running s there
            rw [LimitCall.clearBefore, (windows.calls u member).2.2.1, same] at lost
            have width : (0 : ℚ) < w := Nat.cast_pos.mpr positive
            linarith
          · have after := lasts expiresAt ends
            have passed : seconds expiresAt ≤ seconds (p.shared.tick d).now := seconds_mono passed.le
            dsimp only at recent
            linarith
      have none_needed : (p.shared.timestamps key).countP (t < ·) = 0 :=
        List.countP_eq_zero.mpr fun s there => by simpa using not_lt.mp (old s there)
      have kept := windows.kept t (needed.imp_right (le_trans (sub_le_sub_right later _)))
      dsimp only
      omega

theorem Windows.start {process : ℕ} (windows : Windows key m w p) :
    Windows key m w ⟨p.shared, p.threads ++ [.running (.start p.shared process key m w)]⟩ := by
  have nothing_added (t : ℚ) : (LimitTask.running (.start p.shared process key m w)).added t = 0 := rfl
  have nothing_passed (t : ℚ) : (LimitTask.running (.start p.shared process key m w)).passed t = 0 := rfl
  refine ⟨fun t there => ?_, fun c there => ?_, windows.past, fun s there => ?_, fun t needed => ?_, fun t => ?_⟩
  · rcases List.mem_append.mp there with old | new
    · exact windows.calls t old
    · rw [List.mem_singleton.mp new]
      exact ⟨rfl, rfl, rfl, le_refl _⟩
  · rcases List.mem_append.mp there with old | new
    · exact windows.counted c old
    · cases List.mem_singleton.mp new
      simp [LimitCall.start]
  · rcases windows.lives s there with ⟨u, member, running, same⟩ | lasts
    · exact Or.inl ⟨u, List.mem_append_left _ member, running, same⟩
    · exact Or.inr lasts
  · rw [total_append, total_cons, total_nil, nothing_added]
    apply windows.kept t
    rcases needed with ⟨u, member, uncounted, starts⟩ | recent
    · rcases List.mem_append.mp member with old | new
      · exact Or.inl ⟨u, old, uncounted, starts⟩
      -- the window of the new call reaches back from now
      · rw [List.mem_singleton.mp new] at starts
        exact Or.inr starts.le
    · exact Or.inr recent
  · rw [total_append, total_cons, total_nil, nothing_passed]
    exact windows.bounded t

theorem Windows.step {l : LimitLabel} (windows : Windows key m w p)
    (keeps : KeepsWindows key p l) (taken : Pool.step (limitProgram key m w) p l = some q) :
    Windows key m w q := by
  cases l with
  | resume i a =>
    obtain ⟨u, next, t, found, resumed, rfl⟩ := step_resume taken
    exact windows.resume found resumed keeps
  | external event =>
    obtain ⟨next, born, acted, rfl⟩ := step_external taken
    cases event with
    | tick d =>
      cases acted
      rw [List.append_nil]
      exact windows.tick keeps
    | isRateLimited process =>
      cases acted
      exact windows.start

/-- At most `m` calls are admitted in a window, as long as no timestamp is lost that a call still has
in its window. -/
theorem admitted_le_max {labels : List LimitLabel} (fresh : p.Fresh key)
    (keeps : Respects (Pool.step (limitProgram key m w)) (KeepsWindows key) p labels)
    (returned : run (Pool.step (limitProgram key m w)) p labels = some q) (t : ℚ) :
    total (LimitTask.admitted t) q.threads ≤ m := by
  have initial : Windows key m w p := by
    have no_threads := fresh.1
    have nothing : p.shared.timestamps key = [] := by simp [World.timestamps, Redis.sortedSet, fresh.2]
    refine ⟨?_, ?_, ?_, ?_, fun t _ => ?_, fun t => ?_⟩ <;> simp [no_threads, nothing]
  have windows := run_invariant_of_respects (Windows key m w)
    (fun _ _ _ windows keeps taken => windows.step keeps taken) initial keeps returned
  have passed : ∀ u ∈ q.threads, u.admitted t ≤ u.passed t := fun u _ => by
    cases u with
    | running c => exact Nat.zero_le _
    | answered c isLimited => exact le_refl _
  exact (total_le_total passed).trans (windows.bounded t)

/-- The limiter of a phone number, one request a minute. -/
def sampleKey : LimitKey := .phone "4915112345678"

/-- `n` commands of the call `i`. -/
def commands (i n : ℕ) : List LimitLabel := List.replicate n (.resume i ())

/-- Two calls whose commands alternate; the first one is admitted. -/
theorem admitted_of_two_calls :
    ∃ q, run (Pool.step (limitProgram sampleKey 1 60)) ⟨.empty 1001000, []⟩
        ([.external (.isRateLimited 0), .external (.isRateLimited 1)] ++ commands 0 2 ++ commands 1 1 ++
          commands 0 1 ++ commands 1 2 ++ commands 0 1 ++ commands 1 1) = some q ∧
      total (LimitTask.admitted 1001) q.threads ≤ 1 := by
  have fresh : LimitPool.Fresh sampleKey ⟨.empty 1001000, []⟩ := ⟨rfl, rfl⟩
  exact ⟨_, (Option.some_get (by decide +kernel)).symm,
    admitted_le_max fresh (by decide +kernel) (Option.some_get (by decide +kernel)).symm _⟩

/-- A second call is admitted after 59.9 seconds: a third one has started in the meantime, and has
removed the timestamp of the first. -/
theorem admitted_after_cleanup :
    ¬∀ (key : LimitKey) (m w : ℕ) (p q : LimitPool) (labels : List LimitLabel) (t : ℚ), p.Fresh key →
      run (Pool.step (limitProgram key m w)) p labels = some q →
      total (LimitTask.admitted t) q.threads ≤ m := by
  intro bounded
  have violated := bounded sampleKey 1 60 ⟨.empty 1001000, []⟩ _
    (.external (.isRateLimited 0) :: commands 0 4 ++ [.external (.tick 59900), .external (.isRateLimited 1),
      .external (.tick 300), .external (.isRateLimited 2), .resume 2 ()] ++ commands 1 4)
    (1060900 / 1000) ⟨rfl, rfl⟩ (Option.some_get (by decide +kernel)).symm
  revert violated
  decide +kernel

end Steps

end LimitPool

end SelfOtp
