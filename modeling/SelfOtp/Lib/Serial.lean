import Mathlib.Data.List.Nodup
import SelfOtp.Lib.RowLocks

/-! Transactions under one exclusive lock: their results are those of a serial execution in the
order in which they acquired the lock. -/
namespace SelfOtp.Serial

open Pool Transition

variable {γ κ ρ σ τ α δ : Type}

/-- The calls one after another: their results, and the state that they leave. -/
def replay (exec : γ → κ → ρ × γ) (g : γ) : List κ → List ρ × γ
  | [] => ([], g)
  | k :: ks =>
    let (r, g') := exec g k
    let (rs, final) := replay exec g' ks
    (r :: rs, final)

theorem replay_append (exec : γ → κ → ρ × γ) (g : γ) (ks : List κ) (k : κ) :
    replay exec g (ks ++ [k]) =
      ((replay exec g ks).1 ++ [(exec (replay exec g ks).2 k).1],
        (exec (replay exec g ks).2 k).2) := by
  induction ks generalizing g with
  | nil => rfl
  | cons first ks ih => simp only [List.cons_append, replay, ih]

/-- The invariant rule for a serial execution. -/
theorem replay_invariant {exec : γ → κ → ρ × γ} (inv : γ → Prop) {ks : List κ}
    (preserved : ∀ g, ∀ k ∈ ks, inv g → inv (exec g k).2) {g : γ} (initial : inv g) :
    inv (replay exec g ks).2 := by
  induction ks generalizing g with
  | nil => exact initial
  | cons k ks ih =>
    exact ih (fun g k later => preserved g k (by simp [later])) (preserved g k (by simp) initial)

/-- How a program of transactions is read: what is committed, whether the lock is taken, which
thread holds it, which thread has had it, and what a committed thread was called with and returned. -/
structure Reading (γ κ ρ σ τ : Type) where
  committed : σ → γ
  locked : σ → Bool
  holds : τ → Bool
  entered : τ → Bool
  finished : τ → Option (κ × ρ)

variable (R : Reading γ κ ρ σ τ) (exec : γ → κ → ρ × γ)

/-- The moves of a transaction. -/
inductive Reading.Move (s : σ) (t : τ) (s' : σ) (u : τ) : Prop
  | stay (committed : R.committed s' = R.committed s) (locked : R.locked s' = R.locked s)
      (holds : R.holds u = R.holds t) (entered : R.entered t = true → R.entered u = true)
      (unfinished : R.finished t = none) (still : R.finished u = none)
  | acquire (committed : R.committed s' = R.committed s) (free : R.locked s = false)
      (locked : R.locked s' = true) (holds : R.holds t = false ∧ R.holds u = true)
      (entered : R.entered t = false ∧ R.entered u = true)
      (unfinished : R.finished t = none) (still : R.finished u = none)
  | abort (committed : R.committed s' = R.committed s) (locked : R.locked s' = false)
      (holds : R.holds t = true ∧ R.holds u = false)
      (entered : R.entered t = true → R.entered u = true)
      (unfinished : R.finished t = none) (still : R.finished u = none)
  | finish (k : κ) (locked : R.locked s' = false) (holds : R.holds t = true ∧ R.holds u = false)
      (entered : R.entered t = true → R.entered u = true) (unfinished : R.finished t = none)
      (finished : R.finished u = some (k, (exec (R.committed s) k).1))
      (committed : R.committed s' = (exec (R.committed s) k).2)

/-- The thread that a label gives the lock to. -/
def Reading.acquires (P : Program σ τ α δ) (p : Pool σ τ) : Label α δ → List ℕ
  | .resume i a =>
    match p.threads[i]? with
    | some t =>
      match P.resume p.shared t a with
      | some (_, u) => if R.holds t = false ∧ R.holds u = true then [i] else []
      | none => []
    | none => []
  | .external _ => []

/-- The threads of a run in the order in which they acquired the lock. -/
def Reading.lockOrder (P : Program σ τ α δ) : Pool σ τ → List (Label α δ) → List ℕ :=
  observed (step P) (R.acquires P)

def Reading.finishedAt (p : Pool σ τ) (i : ℕ) : Option (κ × ρ) := (p.threads[i]?).bind R.finished

/-- The committed transactions of a run, with their calls and results, in lock order. -/
def Reading.history (P : Program σ τ α δ) (p q : Pool σ τ) (schedule : List (Label α δ)) :
    List (κ × ρ) :=
  (R.lockOrder P p schedule).filterMap (R.finishedAt q)

/-- What holds of a state and of the threads that have acquired the lock so far. -/
structure Reading.Invariant (sound : γ → τ → Prop) (g : γ) (p : Pool σ τ) (order : List ℕ) :
    Prop where
  serial : replay exec g ((order.filterMap (R.finishedAt p)).map (·.1)) =
    ((order.filterMap (R.finishedAt p)).map (·.2), R.committed p.shared)
  distinct : order.Nodup
  entered : ∀ i ∈ order, ∃ t, p.threads[i]? = some t ∧ R.entered t = true
  last : ∀ i t, p.threads[i]? = some t → R.holds t = true → ∃ earlier, order = earlier ++ [i]
  complete : ∀ i, (R.finishedAt p i).isSome → i ∈ order
  locks : RowLocks.Exclusive (fun _ : Unit => R.locked p.shared) (fun t _ => R.holds t) p.threads
  sound : ∀ t ∈ p.threads, sound (R.committed p.shared) t

namespace Reading

variable {R exec} {P : Program σ τ α δ} {sound : γ → τ → Prop} {g : γ} {p q : Pool σ τ}
  {order : List ℕ} {i : ℕ} {s' : σ} {t u : τ}

theorem finishedAt_set (found : p.threads[i]? = some t) (j : ℕ) :
    R.finishedAt ⟨s', p.threads.set i u⟩ j = if j = i then R.finished u else R.finishedAt p j := by
  have inside : i < p.threads.length := (List.getElem?_eq_some_iff.mp found).1
  unfold finishedAt
  by_cases same : j = i
  · subst same
    simp [List.getElem?_set_self inside]
  · simp [same, List.getElem?_set_ne (Ne.symm same)]

/-- A transaction that neither was committed nor is now leaves the others as they were. -/
theorem finishedAt_unfinished (s' : σ) (found : p.threads[i]? = some t) (unfinished : R.finished t = none)
    (still : R.finished u = none) : R.finishedAt ⟨s', p.threads.set i u⟩ = R.finishedAt p := by
  funext j
  rw [finishedAt_set found]
  split
  next same =>
    subst same
    rw [still, finishedAt, found, Option.bind_some, unfinished]
  · rfl

theorem entered_set (found : p.threads[i]? = some t)
    (entered : ∀ j ∈ order, ∃ t, p.threads[j]? = some t ∧ R.entered t = true)
    (keeps : R.entered t = true → R.entered u = true) :
    ∀ j ∈ order, ∃ t, (p.threads.set i u)[j]? = some t ∧ R.entered t = true := by
  intro j member
  obtain ⟨v, at_j, past⟩ := entered j member
  by_cases same : j = i
  · subst same
    have inside : j < p.threads.length := (List.getElem?_eq_some_iff.mp found).1
    rw [found] at at_j
    obtain rfl := Option.some.inj at_j
    exact ⟨u, List.getElem?_set_self inside, keeps past⟩
  · exact ⟨v, by rw [List.getElem?_set_ne (Ne.symm same), at_j], past⟩

/-- The others rely on the committed state only while they hold the lock. -/
theorem Invariant.others (inv : R.Invariant exec sound g p order)
    (idle : ∀ g t, R.holds t = false → sound g t) (found : p.threads[i]? = some t)
    (ready : sound (R.committed s') u)
    (kept : R.committed s' = R.committed p.shared ∨ R.holds t = true) :
    ∀ v ∈ p.threads.set i u, sound (R.committed s') v := by
  intro v member
  rcases mem_set_cases member with rfl | ⟨j, apart, at_j⟩
  · exact ready
  · rcases kept with same | held
    · rw [same]
      exact inv.sound v (List.mem_of_getElem? at_j)
    · exact idle _ v (inv.locks.alone (k := ()) found at_j apart held)

/-- The lock is given back. -/
theorem Invariant.released (inv : R.Invariant exec sound g p order)
    (found : p.threads[i]? = some t) (holds : R.holds t = true ∧ R.holds u = false)
    (locked : R.locked s' = false) :
    RowLocks.Exclusive (fun _ : Unit => R.locked s') (fun t _ => R.holds t) (p.threads.set i u) := by
  have taken := inv.locks.isLocked (k := ()) (List.mem_of_getElem? found) holds.1
  apply inv.locks.set found
  intro k
  simp [holds, locked, taken]

theorem Invariant.resume (inv : R.Invariant exec sound g p order)
    (idle : ∀ g t, R.holds t = false → sound g t) (found : p.threads[i]? = some t)
    (move : R.Move exec p.shared t s' u) (ready : sound (R.committed s') u) :
    R.Invariant exec sound g ⟨s', p.threads.set i u⟩
      (order ++ if R.holds t = false ∧ R.holds u = true then [i] else []) := by
  cases move with
  | stay committed locked holds entered unfinished still =>
    have quiet : ¬(R.holds t = false ∧ R.holds u = true) := by simp [holds]
    rw [if_neg quiet, List.append_nil]
    have same := finishedAt_unfinished s' found unfinished still
    refine ⟨?_, inv.distinct, entered_set found inv.entered entered, ?_, ?_, ?_,
      inv.others idle found ready (Or.inl committed)⟩
    · rw [same, committed]
      exact inv.serial
    · intro j v at_j held
      rcases getElem?_set_cases at_j with ⟨rfl, rfl⟩ | ⟨-, old⟩
      · exact inv.last j t found (holds ▸ held)
      · exact inv.last j v old held
    · rw [same]
      exact inv.complete
    · apply inv.locks.set found
      intro k
      rw [holds, locked]
  | acquire committed free locked holds entered unfinished still =>
    rw [if_pos holds]
    have same := finishedAt_unfinished s' found unfinished still
    -- a transaction that is in the order has entered already
    have new : i ∉ order := by
      intro member
      obtain ⟨v, at_i, past⟩ := inv.entered i member
      rw [found] at at_i
      obtain rfl := Option.some.inj at_i
      rw [entered.1] at past
      cases past
    have pending : R.finishedAt p i = none := by rw [finishedAt, found, Option.bind_some, unfinished]
    refine ⟨?_, ?_, ?_, ?_, ?_, ?_, inv.others idle found ready (Or.inl committed)⟩
    · have none_new : [i].filterMap (R.finishedAt p) = [] := by simp [pending]
      rw [same, committed, List.filterMap_append, none_new, List.append_nil]
      exact inv.serial
    · refine List.nodup_append.mpr ⟨inv.distinct, List.nodup_singleton i, ?_⟩
      rintro j member k last rfl
      exact new (List.mem_singleton.mp last ▸ member)
    · intro j member
      rcases List.mem_append.mp member with old | last
      · exact entered_set found inv.entered (fun _ => entered.2) j old
      · obtain rfl := List.mem_singleton.mp last
        have inside : j < p.threads.length := (List.getElem?_eq_some_iff.mp found).1
        exact ⟨u, List.getElem?_set_self inside, entered.2⟩
    · intro j v at_j held
      rcases getElem?_set_cases at_j with ⟨rfl, -⟩ | ⟨-, old⟩
      · exact ⟨order, rfl⟩
      · have taken := inv.locks.isLocked (k := ()) (List.mem_of_getElem? old) held
        rw [free] at taken
        cases taken
    · rw [same]
      exact fun j done => List.mem_append_left _ (inv.complete j done)
    · apply inv.locks.set found
      intro k
      simp [holds, free, locked]
  | abort committed locked holds entered unfinished still =>
    have quiet : ¬(R.holds t = false ∧ R.holds u = true) := by simp [holds]
    rw [if_neg quiet, List.append_nil]
    have same := finishedAt_unfinished s' found unfinished still
    refine ⟨?_, inv.distinct, entered_set found inv.entered entered, ?_, ?_, ?_,
      inv.others idle found ready (Or.inl committed)⟩
    · rw [same, committed]
      exact inv.serial
    · intro j v at_j held
      rcases getElem?_set_cases at_j with ⟨-, rfl⟩ | ⟨-, old⟩
      · rw [holds.2] at held
        cases held
      · exact inv.last j v old held
    · rw [same]
      exact inv.complete
    · exact inv.released found holds locked
  | finish k locked holds entered unfinished finished committed =>
    have quiet : ¬(R.holds t = false ∧ R.holds u = true) := by simp [holds]
    rw [if_neg quiet, List.append_nil]
    obtain ⟨earlier, rfl⟩ := inv.last i t found holds.1
    -- the one that holds the lock is the last of the order
    have apart : ∀ j ∈ earlier, j ≠ i := by
      intro j member same
      exact List.disjoint_of_nodup_append inv.distinct member (by simp [same])
    -- it comes after every transaction that was committed before
    have before : (earlier ++ [i]).filterMap (R.finishedAt p) = earlier.filterMap (R.finishedAt p) := by
      have pending : R.finishedAt p i = none := by
        rw [finishedAt, found, Option.bind_some, unfinished]
      have none_last : [i].filterMap (R.finishedAt p) = [] := by simp [pending]
      rw [List.filterMap_append, none_last, List.append_nil]
    have after : (earlier ++ [i]).filterMap (R.finishedAt ⟨s', p.threads.set i u⟩) =
        earlier.filterMap (R.finishedAt p) ++ [(k, (exec (R.committed p.shared) k).1)] := by
      rw [List.filterMap_append]
      congr 1
      · apply List.filterMap_congr
        intro j member
        rw [finishedAt_set found, if_neg (apart j member)]
      · simp [finishedAt_set found, finished]
    have serial := inv.serial
    rw [before] at serial
    refine ⟨?_, inv.distinct, entered_set found inv.entered entered, ?_, ?_,
      inv.released found holds locked, inv.others idle found ready (Or.inr holds.1)⟩
    · rw [after, List.map_append, List.map_append, List.map_singleton, List.map_singleton,
        replay_append, serial, committed]
    · intro j v at_j held
      rcases getElem?_set_cases at_j with ⟨-, rfl⟩ | ⟨-, old⟩
      · rw [holds.2] at held
        cases held
      · exact inv.last j v old held
    · intro j done
      rw [finishedAt_set found] at done
      split at done
      next same => simp [same]
      · exact inv.complete j done

/-- Threads that start, and whatever else happens outside the transactions. -/
theorem Invariant.external (inv : R.Invariant exec sound g p order)
    (idle : ∀ g t, R.holds t = false → sound g t) {born : List τ}
    (committed : R.committed s' = R.committed p.shared) (locked : R.locked s' = R.locked p.shared)
    (fresh : ∀ t ∈ born, R.holds t = false ∧ R.finished t = none) :
    R.Invariant exec sound g ⟨s', p.threads ++ born⟩ order := by
  have old {j : ℕ} {v : τ} (at_j : (p.threads ++ born)[j]? = some v) :
      p.threads[j]? = some v ∨ v ∈ born := by
    rw [List.getElem?_append] at at_j
    split at at_j
    · exact Or.inl at_j
    · exact Or.inr (List.mem_of_getElem? at_j)
  -- those that start have not finished
  have same : R.finishedAt ⟨s', p.threads ++ born⟩ = R.finishedAt p := by
    funext j
    unfold finishedAt
    dsimp only
    rw [List.getElem?_append]
    split
    · rfl
    next beyond =>
      rw [List.getElem?_eq_none (Nat.not_lt.mp beyond), Option.bind_none]
      cases new : born[j - p.threads.length]? with
      | none => rfl
      | some v => exact (fresh v (List.mem_of_getElem? new)).2
  refine ⟨?_, inv.distinct, ?_, ?_, ?_, ?_, ?_⟩
  · rw [same, committed]
    exact inv.serial
  · intro j member
    obtain ⟨v, at_j, past⟩ := inv.entered j member
    have inside : j < p.threads.length := (List.getElem?_eq_some_iff.mp at_j).1
    exact ⟨v, by rw [List.getElem?_append_left inside, at_j], past⟩
  · intro j v at_j held
    rcases old at_j with found | new
    · exact inv.last j v found held
    · rw [(fresh v new).1] at held
      cases held
  · rw [same]
    exact inv.complete
  · rw [locked]
    exact inv.locks.append fun t new k => (fresh t new).1
  · intro v member
    rw [committed]
    rcases List.mem_append.mp member with before | new
    · exact inv.sound v before
    · exact idle _ v (fresh v new).1

/-- Whatever the interleaving, the committed transactions have the results, and leave the state,
of their execution one after another in lock order, each of them once. -/
theorem serializable (idle : ∀ g t, R.holds t = false → sound g t)
    (resumes : ∀ s t a s' u, sound (R.committed s) t → P.resume s t a = some (s', u) →
      R.Move exec s t s' u ∧ sound (R.committed s') u)
    (acts : ∀ s d s' born, P.external s d = some (s', born) →
      R.committed s' = R.committed s ∧ R.locked s' = R.locked s ∧
        ∀ t ∈ born, R.holds t = false ∧ R.finished t = none)
    {schedule : List (Label α δ)} (free : R.locked p.shared = false) (none_running : p.threads = [])
    (returned : run (step P) p schedule = some q) :
    replay exec (R.committed p.shared) ((R.history P p q schedule).map (·.1)) =
        ((R.history P p q schedule).map (·.2), R.committed q.shared) ∧
      (R.lockOrder P p schedule).Nodup ∧
      ∀ i, (R.finishedAt q i).isSome → i ∈ R.lockOrder P p schedule := by
  have initial : R.Invariant exec sound (R.committed p.shared) p [] := by
    refine ⟨rfl, List.nodup_nil, by simp, ?_, ?_, ?_, ?_⟩
    · simp [none_running]
    · simp [finishedAt, none_running]
    · rw [free, none_running]
      exact RowLocks.exclusive_nil
    · simp [none_running]
  have preserved : ∀ s seen l t, R.Invariant exec sound (R.committed p.shared) s seen →
      step P s l = some t →
      R.Invariant exec sound (R.committed p.shared) t (seen ++ R.acquires P s l) := by
    intro s seen l next inv taken
    cases l with
    | resume i a =>
      obtain ⟨t, s', u, found, resumed, rfl⟩ := step_resume taken
      obtain ⟨move, ready⟩ := resumes _ _ _ _ _ (inv.sound t (List.mem_of_getElem? found)) resumed
      simp only [acquires, found, resumed]
      exact inv.resume idle found move ready
    | external d =>
      obtain ⟨s', born, acted, rfl⟩ := step_external taken
      obtain ⟨committed, locked, fresh⟩ := acts _ _ _ _ acted
      simpa only [acquires, List.append_nil] using inv.external idle committed locked fresh
  have inv := run_observed (R.Invariant exec sound (R.committed p.shared)) preserved initial returned
  rw [List.nil_append] at inv
  exact ⟨inv.serial, inv.distinct, inv.complete⟩

end Reading

end SelfOtp.Serial
