import SelfOtp.Lib.Pool

/-! Row locks: what running transactions hold, and that no two of them hold the same row. -/
namespace SelfOtp.RowLocks

open Pool

variable {κ τ : Type}

/-- Every locked row is held by exactly one thread, and every other row by none. -/
def Exclusive (locked : κ → Bool) (holds : τ → κ → Bool) (threads : List τ) : Prop :=
  ∀ k, total (fun t => (holds t k).toNat) threads = (locked k).toNat

section Exclusive

variable {locked locked' : κ → Bool} {holds : τ → κ → Bool} {threads : List τ} {i : ℕ} {t u : τ}
  {k : κ}

theorem exclusive_nil : Exclusive (fun _ : κ => false) holds [] := by
  intro k
  rfl

/-- A held row is locked. -/
theorem Exclusive.isLocked (exclusive : Exclusive locked holds threads) (member : t ∈ threads)
    (held : holds t k = true) : locked k = true := by
  have sum := exclusive k
  have part := le_total (m := fun t => (holds t k).toNat) member
  simp only [held, Bool.toNat_true] at part
  cases free : locked k with
  | true => rfl
  | false =>
    rw [free, Bool.toNat_false] at sum
    omega

/-- Two threads do not hold one row. -/
theorem Exclusive.alone (exclusive : Exclusive locked holds threads) {j : ℕ}
    (found : threads[i]? = some t) (other : threads[j]? = some u) (apart : j ≠ i)
    (held : holds t k = true) : holds u k = false := by
  have sum := exclusive k
  have parts := add_le_total (m := fun t => (holds t k).toNat) found other apart
  have bound := (locked k).toNat_le
  simp only [held, Bool.toNat_true] at parts
  cases both : holds u k with
  | false => rfl
  | true =>
    rw [both, Bool.toNat_true] at parts
    omega

theorem Exclusive.set (exclusive : Exclusive locked holds threads) (found : threads[i]? = some t)
    (balanced : ∀ k, (holds u k).toNat + (locked k).toNat = (holds t k).toNat + (locked' k).toNat) :
    Exclusive locked' holds (threads.set i u) := by
  intro k
  have sum := exclusive k
  have moved := total_set (m := fun t => (holds t k).toNat) found u
  have balance := balanced k
  omega

/-- A step that neither takes nor releases a row. -/
theorem Exclusive.same (exclusive : Exclusive locked holds threads) (found : threads[i]? = some t)
    (same : ∀ k, holds u k = holds t k) : Exclusive locked holds (threads.set i u) := by
  apply exclusive.set found
  intro k
  rw [same k]

theorem Exclusive.acquire [DecidableEq κ] (exclusive : Exclusive locked holds threads)
    (found : threads[i]? = some t) (row : κ) (free : locked row = false)
    (gains : ∀ k, holds u k = (holds t k || decide (k = row))) :
    Exclusive (Function.update locked row true) holds (threads.set i u) := by
  have unheld : holds t row = false := by
    by_contra held
    have taken := exclusive.isLocked (List.mem_of_getElem? found) (Bool.eq_true_of_not_eq_false held)
    rw [free] at taken
    cases taken
  apply exclusive.set found
  intro k
  rw [gains k, Function.update_apply]
  by_cases same : k = row
  · subst same
    simp [unheld, free]
  · simp [same]

/-- A thread releases all it holds, at a commit or an abort. -/
theorem Exclusive.release (exclusive : Exclusive locked holds threads)
    (found : threads[i]? = some t) (drops : ∀ k, holds u k = false) :
    Exclusive (fun k => locked k && !holds t k) holds (threads.set i u) := by
  apply exclusive.set found
  intro k
  rw [drops k]
  cases held : holds t k with
  | false => simp
  | true =>
    have taken := exclusive.isLocked (List.mem_of_getElem? found) held
    simp [taken]

/-- Threads that start hold nothing. -/
theorem Exclusive.append (exclusive : Exclusive locked holds threads) {born : List τ}
    (idle : ∀ t ∈ born, ∀ k, holds t k = false) : Exclusive locked holds (threads ++ born) := by
  intro k
  have none_held : total (fun t => (holds t k).toNat) born = 0 := by
    apply total_eq_zero.mpr
    intro t member
    rw [idle t member k, Bool.toNat_false]
  rw [total_append, none_held, exclusive k, Nat.add_zero]

end Exclusive

end SelfOtp.RowLocks
