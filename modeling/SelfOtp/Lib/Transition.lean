import Mathlib.Data.Nat.Notation
import Mathlib.Data.Option.Basic

/-! Executable transition systems: schedules, runs and the invariant rules. -/
namespace SelfOtp.Transition

variable {σ ε : Type}

/-- Execute a schedule label by label; `none` as soon as a label is not enabled. -/
def run (step : σ → ε → Option σ) (s : σ) : List ε → Option σ
  | [] => some s
  | e :: es => (step s e).bind fun t => run step t es

/-- Every label of the schedule meets the condition in the state it is taken from. -/
def Respects (step : σ → ε → Option σ) (allowed : σ → ε → Prop) (s : σ) : List ε → Prop
  | [] => True
  | e :: es => allowed s e ∧
    match step s e with
    | some t => Respects step allowed t es
    | none => True

instance decidableRespects (step : σ → ε → Option σ) (allowed : σ → ε → Prop)
    [∀ s e, Decidable (allowed s e)] : ∀ s es, Decidable (Respects step allowed s es)
  | _, [] => isTrue trivial
  | s, e :: es =>
    have : Decidable (match step s e with
        | some t => Respects step allowed t es
        | none => True) :=
      match step s e with
      | some t => decidableRespects step allowed t es
      | none => isTrue trivial
    inferInstanceAs (Decidable (_ ∧ _))

section Runs

variable {step : σ → ε → Option σ}

theorem run_cons {s u : σ} {e : ε} {es : List ε} (h : run step s (e :: es) = some u) :
    ∃ t, step s e = some t ∧ run step t es = some u := by
  simpa only [run, Option.bind_eq_some_iff] using h

/-- The invariant rule for runs whose steps all meet a condition. -/
theorem run_invariant_of_respects {allowed : σ → ε → Prop} (inv : σ → Prop)
    (preserved : ∀ s e t, inv s → allowed s e → step s e = some t → inv t)
    {s u : σ} {es : List ε} (initial : inv s) (respects : Respects step allowed s es)
    (returned : run step s es = some u) : inv u := by
  induction es generalizing s with
  | nil =>
    cases returned
    exact initial
  | cons e es ih =>
    obtain ⟨t, taken, rest⟩ := run_cons returned
    have later : Respects step allowed t es := by simpa only [taken] using respects.2
    exact ih (preserved s e t initial respects.1 taken) later rest

/-- What an invariant of the run yields for each of its steps. -/
theorem Respects.of_invariant {allowed shown : σ → ε → Prop} (inv : σ → Prop)
    (preserved : ∀ s e t, inv s → allowed s e → step s e = some t → inv t)
    (yields : ∀ s e, inv s → allowed s e → shown s e)
    {s : σ} {es : List ε} (initial : inv s) (respects : Respects step allowed s es) :
    Respects step shown s es := by
  induction es generalizing s with
  | nil => trivial
  | cons e es ih =>
    refine ⟨yields s e initial respects.1, ?_⟩
    cases taken : step s e with
    | none => trivial
    | some t =>
      have later : Respects step allowed t es := by simpa only [taken] using respects.2
      exact ih (preserved s e t initial respects.1 taken) later

/-- The rule for a mark that cannot be undone: either every label of the schedule meets a
condition and the invariant holds in the end, or the last state is marked. -/
theorem respects_or_marked {allowed good : σ → ε → Prop} (inv marked : σ → Prop)
    (advances : ∀ s e t, inv s → allowed s e → step s e = some t → good s e ∧ inv t ∨ marked t)
    (remains : ∀ s e t, marked s → allowed s e → step s e = some t → marked t)
    {s u : σ} {es : List ε} (initial : inv s) (respects : Respects step allowed s es)
    (returned : run step s es = some u) : Respects step good s es ∧ inv u ∨ marked u := by
  induction es generalizing s with
  | nil =>
    cases returned
    exact Or.inl ⟨trivial, initial⟩
  | cons e es ih =>
    obtain ⟨t, taken, rest⟩ := run_cons returned
    have later : Respects step allowed t es := by simpa only [taken] using respects.2
    rcases advances s e t initial respects.1 taken with ⟨met, kept⟩ | now_marked
    · refine (ih kept later rest).imp_left fun ⟨still, holds⟩ => ⟨⟨met, ?_⟩, holds⟩
      simpa only [taken] using still
    · exact Or.inr (run_invariant_of_respects marked remains now_marked later rest)

/-- A schedule that meets a condition meets it in each of its two parts. -/
theorem Respects.append {allowed : σ → ε → Prop} {s t : σ} {es fs : List ε}
    (respects : Respects step allowed s (es ++ fs)) (reached : run step s es = some t) :
    Respects step allowed s es ∧ Respects step allowed t fs := by
  induction es generalizing s with
  | nil =>
    cases reached
    exact ⟨trivial, respects⟩
  | cons e es ih =>
    obtain ⟨u, taken, rest⟩ := run_cons reached
    rw [List.cons_append] at respects
    have later : Respects step allowed u (es ++ fs) := by simpa only [taken] using respects.2
    obtain ⟨first, second⟩ := ih later rest
    exact ⟨⟨respects.1, by simpa only [taken] using first⟩, second⟩

/-- A schedule that meets two conditions meets both together. -/
theorem Respects.and {first second : σ → ε → Prop} {s : σ} {es : List ε}
    (one : Respects step first s es) (two : Respects step second s es) :
    Respects step (fun s e => first s e ∧ second s e) s es := by
  induction es generalizing s with
  | nil => trivial
  | cons e es ih =>
    refine ⟨⟨one.1, two.1⟩, ?_⟩
    cases taken : step s e with
    | none => trivial
    | some t =>
      have one := one.2
      have two := two.2
      simp only [taken] at one two
      exact ih one two

/-- A condition that every label of the schedule meets in every state. -/
theorem respects_of_forall {allowed : σ → ε → Prop} {es : List ε}
    (always : ∀ e ∈ es, ∀ s, allowed s e) (s : σ) : Respects step allowed s es := by
  induction es generalizing s with
  | nil => trivial
  | cons e es ih =>
    refine ⟨always e (by simp) s, ?_⟩
    split
    · exact ih (fun f member => always f (by simp [member])) _
    · trivial

/-- The invariant rule for arbitrary runs. -/
theorem run_invariant (inv : σ → Prop)
    (preserved : ∀ s e t, inv s → step s e = some t → inv t)
    {s u : σ} {es : List ε} (initial : inv s) (returned : run step s es = some u) : inv u :=
  run_invariant_of_respects inv (fun s e t hs _ taken => preserved s e t hs taken) initial
    (respects_of_forall (fun _ _ _ => trivial) s : Respects step (fun _ _ => True) s es) returned

/-- How many labels of the schedule are counted in the state they are taken from. -/
def tally (step : σ → ε → Option σ) (counted : σ → ε → Prop) [∀ s e, Decidable (counted s e)]
    (s : σ) : List ε → ℕ
  | [] => 0
  | e :: es => (if counted s e then 1 else 0) +
    match step s e with
    | some t => tally step counted t es
    | none => 0

section Tally

variable {counted : σ → ε → Prop} [∀ s e, Decidable (counted s e)]

theorem tally_eq_zero {s : σ} {es : List ε} :
    tally step counted s es = 0 ↔ Respects step (fun s e => ¬counted s e) s es := by
  induction es generalizing s with
  | nil => simp only [tally, Respects]
  | cons e es ih =>
    simp only [tally, Respects, Nat.add_eq_zero_iff, ite_eq_right_iff, Nat.one_ne_zero, imp_false]
    cases step s e with
    | none => simp
    | some t => simp only [ih]

/-- The invariant rule for a property that keeps count. -/
theorem run_tally {allowed : σ → ε → Prop} (inv : σ → ℕ → Prop)
    (preserved : ∀ s n e t, inv s n → allowed s e → step s e = some t →
      inv t (n + if counted s e then 1 else 0))
    {s u : σ} {n : ℕ} {es : List ε} (initial : inv s n) (respects : Respects step allowed s es)
    (returned : run step s es = some u) : inv u (n + tally step counted s es) := by
  induction es generalizing s n with
  | nil =>
    cases returned
    exact initial
  | cons e es ih =>
    obtain ⟨t, taken, rest⟩ := run_cons returned
    have later : Respects step allowed t es := by simpa only [taken] using respects.2
    have next := ih (preserved s n e t initial respects.1 taken) later rest
    simpa only [tally, taken, Nat.add_assoc] using next

end Tally

/-- What the labels of a schedule show in the states that they are taken from. -/
def observed {ω : Type} (step : σ → ε → Option σ) (shows : σ → ε → List ω) (s : σ) :
    List ε → List ω
  | [] => []
  | e :: es => shows s e ++
    match step s e with
    | some t => observed step shows t es
    | none => []

/-- The invariant rule for a property of the state and of what has been observed, in runs whose
steps all meet a condition. -/
theorem run_observed_of_respects {ω : Type} {shows : σ → ε → List ω} {allowed : σ → ε → Prop}
    (inv : σ → List ω → Prop)
    (preserved : ∀ s seen e t, inv s seen → allowed s e → step s e = some t →
      inv t (seen ++ shows s e))
    {s u : σ} {seen : List ω} {es : List ε} (initial : inv s seen)
    (respects : Respects step allowed s es) (returned : run step s es = some u) :
    inv u (seen ++ observed step shows s es) := by
  induction es generalizing s seen with
  | nil =>
    cases returned
    simpa only [observed, List.append_nil] using initial
  | cons e es ih =>
    obtain ⟨t, taken, rest⟩ := run_cons returned
    have later : Respects step allowed t es := by simpa only [taken] using respects.2
    have next := ih (preserved s seen e t initial respects.1 taken) later rest
    simpa only [observed, taken, List.append_assoc] using next

/-- The invariant rule for a property of the state and of what has been observed. -/
theorem run_observed {ω : Type} {shows : σ → ε → List ω} (inv : σ → List ω → Prop)
    (preserved : ∀ s seen e t, inv s seen → step s e = some t → inv t (seen ++ shows s e))
    {s u : σ} {seen : List ω} {es : List ε} (initial : inv s seen)
    (returned : run step s es = some u) : inv u (seen ++ observed step shows s es) :=
  run_observed_of_respects inv (fun s seen e t hs _ taken => preserved s seen e t hs taken) initial
    (respects_of_forall (fun _ _ _ => trivial) s : Respects step (fun _ _ => True) s es) returned

/-- The invariant rule for a property of the state, of what has been observed and of a count. -/
theorem run_observed_tally {ω : Type} {shows : σ → ε → List ω} {allowed counted : σ → ε → Prop}
    [∀ s e, Decidable (counted s e)] (inv : σ → List ω → ℕ → Prop)
    (preserved : ∀ s seen n e t, inv s seen n → allowed s e → step s e = some t →
      inv t (seen ++ shows s e) (n + if counted s e then 1 else 0))
    {s u : σ} {seen : List ω} {n : ℕ} {es : List ε} (initial : inv s seen n)
    (respects : Respects step allowed s es) (returned : run step s es = some u) :
    inv u (seen ++ observed step shows s es) (n + tally step counted s es) := by
  induction es generalizing s seen n with
  | nil =>
    cases returned
    simpa only [observed, tally, List.append_nil, Nat.add_zero] using initial
  | cons e es ih =>
    obtain ⟨t, taken, rest⟩ := run_cons returned
    have later : Respects step allowed t es := by simpa only [taken] using respects.2
    have next := ih (preserved s seen n e t initial respects.1 taken) later rest
    simpa only [observed, tally, taken, List.append_assoc, Nat.add_assoc] using next

end Runs

/-! ### Runs with a record -/

/-- The system beside a record that its steps are noted in. -/
def recording {η : Type} (step : σ → ε → Option σ) (note : σ → η → ε → η) (s : σ × η) (e : ε) :
    Option (σ × η) :=
  (step s.1 e).map fun t => (t, note s.1 s.2 e)

theorem recording_eq_some {η : Type} {step : σ → ε → Option σ} {note : σ → η → ε → η} {s t : σ × η}
    {e : ε} (taken : recording step note s e = some t) :
    step s.1 e = some t.1 ∧ t.2 = note s.1 s.2 e := by
  obtain ⟨u, advanced, rfl⟩ := Option.map_eq_some_iff.mp taken
  exact ⟨advanced, rfl⟩

/-! ### Programs without a choice -/

/-- Up to `n` steps of a deterministic program, which stays where it has no next state. -/
def follow (next : σ → Option σ) : ℕ → σ → σ
  | 0, s => s
  | n + 1, s =>
    match next s with
    | some t => follow next n t
    | none => s

section Follow

variable {next : σ → Option σ} {s t u : σ}

theorem follow_stopped (stopped : next s = none) (n : ℕ) : follow next n s = s := by
  cases n with
  | zero => rfl
  | succ n => simp only [follow, stopped]

theorem follow_add (m n : ℕ) : follow next (m + n) s = follow next n (follow next m s) := by
  induction m generalizing s with
  | zero => rw [Nat.zero_add, follow]
  | succ m ih =>
    rw [Nat.succ_add]
    cases h : next s with
    | none => rw [follow_stopped h, follow_stopped h, follow_stopped h]
    | some t => simp only [follow, h, ih]

/-- The state is passed within the bound. -/
def Passes (next : σ → Option σ) (bound : ℕ) (s t : σ) : Prop := ∃ n ≤ bound, follow next n s = t

theorem Passes.here : Passes next 0 s s := ⟨0, Nat.le_refl 0, rfl⟩

theorem Passes.step {n : ℕ} (taken : next s = some t) (later : Passes next n t u) :
    Passes next (n + 1) s u := by
  obtain ⟨m, le, rfl⟩ := later
  exact ⟨m + 1, Nat.succ_le_succ le, by simp only [follow, taken]⟩

theorem Passes.trans {m n : ℕ} (first : Passes next m s t) (second : Passes next n t u) :
    Passes next (m + n) s u := by
  obtain ⟨k, le, rfl⟩ := first
  obtain ⟨l, le', rfl⟩ := second
  exact ⟨k + l, Nat.add_le_add le le', follow_add k l⟩

theorem Passes.mono {m n : ℕ} (passes : Passes next m s t) (le : m ≤ n) : Passes next n s t := by
  obtain ⟨k, within, at_t⟩ := passes
  exact ⟨k, Nat.le_trans within le, at_t⟩

/-- A program that has stopped within the bound is found there at the bound. -/
theorem Passes.stopped {n : ℕ} (passes : Passes next n s t) (stopped : next t = none) :
    follow next n s = t := by
  obtain ⟨m, le, rfl⟩ := passes
  obtain ⟨k, rfl⟩ := Nat.exists_eq_add_of_le le
  rw [follow_add, follow_stopped stopped]

end Follow

end SelfOtp.Transition
