import SelfOtp.Lib.Pool

/-! Pools whose threads all come to an end: a rank that every step lowers, and that no thread can keep. -/
namespace SelfOtp.Pool

variable {σ τ α δ : Type}

def Label.isResume : Label α δ → Bool
  | resume .. => true
  | external _ => false

/-- What the environment may start along a schedule. -/
def allowance (bound : δ → ℕ) (es : List (Label α δ)) : ℕ :=
  (es.map fun
    | .resume .. => 0
    | .external d => bound d).sum

/-- While the shared state is as `inv` has it, each step of a thread lowers its rank, a thread whose rank
is not yet 0 can take a step whatever it is answered, and what each act of the environment starts is
bounded. -/
structure Ranked (P : Program σ τ α δ) (inv : σ → Prop) (rank : τ → ℕ) (bound : δ → ℕ) : Prop where
  resumed : ∀ {s t a s' t'}, inv s → P.resume s t a = some (s', t') → inv s'
  started : ∀ {s d s' born}, inv s → P.external s d = some (s', born) →
    inv s' ∧ total rank born ≤ bound d
  lowers : ∀ {s t a s' t'}, P.resume s t a = some (s', t') → rank t' < rank t
  enabled : ∀ s t a, rank t ≠ 0 → (P.resume s t a).isSome

namespace Ranked

variable {P : Program σ τ α δ} {inv : σ → Prop} {rank : τ → ℕ} {bound : δ → ℕ} {p q : Pool σ τ}

theorem step (ranked : Ranked P inv rank bound) (holds : inv p.shared) {l : Label α δ}
    (taken : Pool.step P p l = some q) :
    inv q.shared ∧ (if l.isResume then 1 else 0) + total rank q.threads ≤
      total rank p.threads + allowance bound [l] := by
  cases l with
  | resume i a =>
    obtain ⟨t, s', t', found, resumed, rfl⟩ := step_resume taken
    have lower := ranked.lowers resumed
    have moved := total_set (m := rank) found t'
    refine ⟨ranked.resumed holds resumed, ?_⟩
    simp only [Label.isResume, if_true, allowance, List.map_singleton, List.sum_singleton]
    omega
  | external d =>
    obtain ⟨s', born, acted, rfl⟩ := step_external taken
    obtain ⟨kept, bounded⟩ := ranked.started holds acted
    refine ⟨kept, ?_⟩
    simp only [Label.isResume, Bool.false_eq_true, if_false, total_append, allowance, List.map_singleton,
      List.sum_singleton]
    omega

/-- What the threads may still do is what the environment has started less what they have done. -/
theorem run (ranked : Ranked P inv rank bound) {es : List (Label α δ)} (holds : inv p.shared)
    (ran : Transition.run (Pool.step P) p es = some q) :
    inv q.shared ∧ es.countP Label.isResume + total rank q.threads ≤
      total rank p.threads + allowance bound es := by
  induction es generalizing p with
  | nil =>
    cases ran
    refine ⟨holds, ?_⟩
    simp
  | cons l es ih =>
    obtain ⟨t, taken, rest⟩ := Transition.run_cons ran
    obtain ⟨kept, first⟩ := ranked.step holds taken
    obtain ⟨last, others⟩ := ih kept rest
    refine ⟨last, ?_⟩
    have split : allowance bound (l :: es) = allowance bound [l] + allowance bound es := by
      simp [allowance]
    rw [List.countP_cons, split]
    omega

/-- Whatever the threads are answered, some order of their steps brings all of them to an end. -/
theorem finish (ranked : Ranked P inv rank bound) (a : α) (p : Pool σ τ) :
    ∃ es q, (∀ l ∈ es, ∃ i, l = Label.resume i a) ∧ Transition.run (Pool.step P) p es = some q ∧
      ∀ t ∈ q.threads, rank t = 0 := by
  generalize left : total rank p.threads = n
  induction n using Nat.strong_induction_on generalizing p with
  | _ n ih =>
    by_cases done : total rank p.threads = 0
    · exact ⟨[], p, fun l member => (by cases member), rfl, total_eq_zero.mp done⟩
    · obtain ⟨t, member, running⟩ : ∃ t ∈ p.threads, rank t ≠ 0 := by
        by_contra none_running
        push Not at none_running
        exact done (total_eq_zero.mpr none_running)
      obtain ⟨i, found⟩ := List.mem_iff_getElem?.mp member
      obtain ⟨⟨s', t'⟩, resumed⟩ := Option.isSome_iff_exists.mp (ranked.enabled p.shared t a running)
      have taken : Pool.step P p (.resume i a) = some ⟨s', p.threads.set i t'⟩ := by
        simp only [Pool.step, found, resumed]
      have lower := ranked.lowers resumed
      have moved := total_set (m := rank) found t'
      obtain ⟨es, q, resumes, ran, ended⟩ := ih (total rank (p.threads.set i t')) (by omega)
        ⟨s', p.threads.set i t'⟩ rfl
      refine ⟨.resume i a :: es, q, ?_, ?_, ended⟩
      · rw [List.forall_mem_cons]
        exact ⟨⟨i, rfl⟩, resumes⟩
      · simp only [Transition.run, taken, Option.bind_some, ran]

/-- In a pool that starts without threads, the steps taken are bounded by what has arrived, a thread
whose rank is not 0 can go on, and all threads can be brought to an end. -/
theorem concludes (ranked : Ranked P inv rank bound) (holds : inv p.shared) (idle : p.threads = [])
    {es : List (Label α δ)} (ran : Transition.run (Pool.step P) p es = some q) (a : α) :
    es.countP Label.isResume ≤ allowance bound es ∧
    (∀ (i : ℕ) t, q.threads[i]? = some t → rank t ≠ 0 → (Pool.step P q (.resume i a)).isSome) ∧
    ∃ fs r, (∀ l ∈ fs, ∃ i, l = Label.resume i a) ∧ Transition.run (Pool.step P) q fs = some r ∧
      ∀ t ∈ r.threads, rank t = 0 := by
  have bounded := (ranked.run holds ran).2
  rw [idle, total_nil, Nat.zero_add] at bounded
  refine ⟨(Nat.le_add_right _ _).trans bounded, fun i t found running => ?_, ranked.finish a q⟩
  obtain ⟨⟨s', t'⟩, resumed⟩ := Option.isSome_iff_exists.mp (ranked.enabled q.shared t a running)
  simp only [Pool.step, found, resumed, Option.isSome_some]

end Ranked

end SelfOtp.Pool
