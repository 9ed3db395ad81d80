import Mathlib.Algebra.Order.BigOperators.Group.List
import Mathlib.Algebra.Order.Ring.Nat
import SelfOtp.Lib.Transition

/-! Interleaved threads over a shared state: one label lets one thread take one
atomic step, or lets the environment act and start new threads. -/
namespace SelfOtp.Pool

variable {σ τ α δ : Type}

/-- Sum of a measure over the threads. -/
def total (m : τ → ℕ) (threads : List τ) : ℕ := (threads.map m).sum

section Total

variable {m : τ → ℕ} {threads : List τ} {i : ℕ} {t : τ}

@[simp] theorem total_nil : total m ([] : List τ) = 0 := rfl

@[simp] theorem total_cons : total m (t :: threads) = m t + total m threads := rfl

@[simp] theorem total_append (born : List τ) :
    total m (threads ++ born) = total m threads + total m born := by
  simp [total]

theorem total_set (h : threads[i]? = some t) (u : τ) :
    total m (threads.set i u) + m t = total m threads + m u := by
  induction threads generalizing i with
  | nil => simp at h
  | cons x xs ih =>
    cases i with
    | zero =>
      obtain rfl : x = t := by simpa using h
      simp only [List.set_cons_zero, total_cons]
      omega
    | succ i =>
      have rest := ih (i := i) (by simpa using h)
      simp only [List.set_cons_succ, total_cons]
      omega

theorem total_set_eq {u : τ} (h : threads[i]? = some t) (same : m u = m t) :
    total m (threads.set i u) = total m threads := by
  have moved := total_set (m := m) h u
  omega

theorem total_set_le {u : τ} (h : threads[i]? = some t) (le : m u ≤ m t) :
    total m (threads.set i u) ≤ total m threads := by
  have moved := total_set (m := m) h u
  omega

theorem total_eq_zero : total m threads = 0 ↔ ∀ t ∈ threads, m t = 0 := by
  simp [total, List.sum_eq_zero_iff]

theorem le_total (h : t ∈ threads) : m t ≤ total m threads :=
  List.le_sum_of_mem (List.mem_map_of_mem h)

theorem total_le_total {n : τ → ℕ} (h : ∀ t ∈ threads, m t ≤ n t) :
    total m threads ≤ total n threads :=
  List.sum_le_sum h

theorem total_lt_total {n : τ → ℕ} (h : ∀ t ∈ threads, m t ≤ n t)
    (strict : ∃ t ∈ threads, m t < n t) : total m threads < total n threads :=
  List.sum_lt_sum m n h strict

theorem add_le_total {j : ℕ} {u : τ} (h : threads[i]? = some t) (other : threads[j]? = some u)
    (ne : j ≠ i) : m t + m u ≤ total m threads := by
  induction threads generalizing i j with
  | nil => simp at h
  | cons x xs ih =>
    rw [total_cons]
    cases i with
    | zero =>
      cases j with
      | zero => exact absurd rfl ne
      | succ j =>
        obtain rfl : x = t := by simpa using h
        have rest := le_total (m := m) (List.mem_of_getElem? (l := xs) (i := j) (by simpa using other))
        omega
    | succ i =>
      cases j with
      | zero =>
        obtain rfl : x = u := by simpa using other
        have rest := le_total (m := m) (List.mem_of_getElem? (l := xs) (i := i) (by simpa using h))
        omega
      | succ j =>
        have rest := ih (i := i) (j := j) (by simpa using h) (by simpa using other) (by omega)
        omega

/-- Beside a thread that counts there is no other. -/
theorem eq_zero_of_total_le_one {j : ℕ} {u : τ} (h : threads[i]? = some t)
    (other : threads[j]? = some u) (ne : j ≠ i) (alone : total m threads ≤ 1) (counts : 0 < m t) :
    m u = 0 := by
  have both := add_le_total (m := m) h other ne
  omega

theorem getElem?_set_cases {u v : τ} {j : ℕ} (found : (threads.set i u)[j]? = some v) :
    j = i ∧ v = u ∨ j ≠ i ∧ threads[j]? = some v := by
  by_cases same : j = i
  · subst same
    left
    have inside : j < (threads.set j u).length := (List.getElem?_eq_some_iff.mp found).1
    rw [List.length_set] at inside
    rw [List.getElem?_set_self inside] at found
    exact ⟨rfl, (Option.some.inj found).symm⟩
  · rw [List.getElem?_set_ne (Ne.symm same)] at found
    exact Or.inr ⟨same, found⟩

theorem mem_set_cases {u v : τ} (member : v ∈ threads.set i u) :
    v = u ∨ ∃ j, j ≠ i ∧ threads[j]? = some v := by
  obtain ⟨j, found⟩ := List.mem_iff_getElem?.mp member
  rcases getElem?_set_cases found with ⟨-, same⟩ | ⟨apart, old⟩
  · exact Or.inl same
  · exact Or.inr ⟨j, apart, old⟩

theorem mem_set_or_eq {u v : τ} (h : threads[i]? = some t) (member : v ∈ threads) :
    v ∈ threads.set i u ∨ v = t := by
  obtain ⟨j, found⟩ := List.mem_iff_getElem?.mp member
  by_cases same : j = i
  · subst same
    rw [h] at found
    exact Or.inr (Option.some.inj found).symm
  · left
    rw [← List.getElem?_set_ne (Ne.symm same)] at found
    exact List.mem_of_getElem? found

/-- One thread has changed what it holds. -/
theorem filterMap_set_perm {β : Type} {f : τ → Option β} (found : threads[i]? = some t) (u : τ) :
    ((threads.set i u).filterMap f ++ (f t).toList).Perm (threads.filterMap f ++ (f u).toList) := by
  have first (x : τ) (xs : List τ) : (x :: xs).filterMap f = (f x).toList ++ xs.filterMap f := by
    cases held : f x <;> simp [held]
  induction threads generalizing i with
  | nil => simp at found
  | cons x xs ih =>
    cases i with
    | zero =>
      obtain rfl : x = t := by simpa using found
      rw [List.set_cons_zero, first, first, List.append_assoc, List.append_assoc]
      have swapped : ((xs.filterMap f ++ (f x).toList) ++ (f u).toList).Perm
        (((f x).toList ++ xs.filterMap f) ++ (f u).toList) := List.perm_append_comm.append_right _
      rw [List.append_assoc (f x).toList] at swapped
      exact List.perm_append_comm.trans swapped
    | succ i =>
      rw [List.set_cons_succ, first, first, List.append_assoc, List.append_assoc]
      exact (ih (by simpa using found)).append_left _

end Total

end SelfOtp.Pool

namespace SelfOtp

structure Pool (σ τ : Type) where
  shared : σ
  threads : List τ

namespace Pool

variable {σ τ α δ : Type}

/-- `resume i a`: the operation thread `i` awaits completes with answer `a`.
`external d`: the environment acts. -/
inductive Label (α δ : Type) where
  | resume (i : ℕ) (a : α)
  | external (d : δ)

structure Program (σ τ α δ : Type) where
  resume : σ → τ → α → Option (σ × τ)
  external : σ → δ → Option (σ × List τ)

def step (P : Program σ τ α δ) (p : Pool σ τ) : Label α δ → Option (Pool σ τ)
  | .resume i a =>
    match p.threads[i]? with
    | none => none
    | some t =>
      match P.resume p.shared t a with
      | none => none
      | some (s, u) => some ⟨s, p.threads.set i u⟩
  | .external d =>
    match P.external p.shared d with
    | none => none
    | some (s, born) => some ⟨s, p.threads ++ born⟩

section Steps

variable {P : Program σ τ α δ} {p q : Pool σ τ}

theorem step_resume {i : ℕ} {a : α} (h : step P p (.resume i a) = some q) :
    ∃ t s u, p.threads[i]? = some t ∧ P.resume p.shared t a = some (s, u) ∧
      q = ⟨s, p.threads.set i u⟩ := by
  simp only [step] at h
  split at h
  · cases h
  next t found =>
    split at h
    · cases h
    next s u resumed =>
      cases h
      exact ⟨t, s, u, found, resumed, rfl⟩

theorem step_external {d : δ} (h : step P p (.external d) = some q) :
    ∃ s born, P.external p.shared d = some (s, born) ∧ q = ⟨s, p.threads ++ born⟩ := by
  simp only [step] at h
  split at h
  · cases h
  next s born acted =>
    cases h
    exact ⟨s, born, acted, rfl⟩

end Steps

end Pool

end SelfOtp
