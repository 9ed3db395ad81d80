import Mathlib.Data.Rat.Floor
import Mathlib.Logic.Function.Basic

/-! Key spaces whose entries expire, with the `GET`, `SET EX`, `DEL` and `TTL`
commands of a Redis server. Instants are milliseconds. -/
namespace SelfOtp

structure Cell (α : Type) where
  value : α
  expiresAt : ℕ

abbrev ExpiringMap (κ α : Type) := κ → Option (Cell α)

namespace ExpiringMap

variable {κ α : Type}

def empty : ExpiringMap κ α := fun _ => none

/-- A key lives up to and including its expiry instant. -/
def get (m : ExpiringMap κ α) (now : ℕ) (k : κ) : Option α :=
  match m k with
  | some c => if now ≤ c.expiresAt then some c.value else none
  | none => none

/-- The answer of `TTL`: the remaining life rounded to the nearest second, `-2` without key. -/
def ttl (m : ExpiringMap κ α) (now : ℕ) (k : κ) : ℤ :=
  match m k with
  | some c => if now ≤ c.expiresAt then ((c.expiresAt - now + 500) / 1000 : ℕ) else -2
  | none => -2

variable [DecidableEq κ]

def put (m : ExpiringMap κ α) (k : κ) (c : Cell α) : ExpiringMap κ α :=
  Function.update m k (some c)

/-- `SET key value EX seconds`; the server rejects an expiry that is not a positive integer. -/
def setEx (m : ExpiringMap κ α) (now : ℕ) (k : κ) (v : α) (seconds : ℚ) :
    Option (ExpiringMap κ α) :=
  if 0 < seconds ∧ seconds.den = 1 then
    some (m.put k ⟨v, now + 1000 * seconds.num.toNat⟩)
  else none

def del (m : ExpiringMap κ α) (k : κ) : ExpiringMap κ α := Function.update m k none

section Lemmas

variable {m : ExpiringMap κ α} {now later : ℕ} {k j : κ} {v : α}

omit [DecidableEq κ] in
theorem get_eq_some : m.get now k = some v ↔ ∃ c, m k = some c ∧ now ≤ c.expiresAt ∧ c.value = v := by
  unfold get
  cases m k with
  | none => simp
  | some c => by_cases h : now ≤ c.expiresAt <;> simp [h]

omit [DecidableEq κ] in
theorem get_eq_none_of_ttl_neg (h : m.ttl now k < 0) : m.get now k = none := by
  unfold ttl at h
  unfold get
  split at h
  next c stored =>
    split at h
    · exact absurd h (not_lt.mpr (Int.natCast_nonneg _))
    next late => rw [if_neg late]
  next missing => rfl

omit [DecidableEq κ] in
theorem get_later (h : m.get later k = some v) (le : now ≤ later) : m.get now k = some v := by
  obtain ⟨c, stored, live, value⟩ := get_eq_some.mp h
  exact get_eq_some.mpr ⟨c, stored, le.trans live, value⟩

@[simp] theorem get_del_self : (m.del k).get now k = none := by simp [get, del]

@[simp] theorem get_del_ne (h : j ≠ k) : (m.del k).get now j = m.get now j := by
  simp [get, del, h]

theorem get_put_self (c : Cell α) :
    (m.put k c).get now k = if now ≤ c.expiresAt then some c.value else none := by
  simp [get, put]

@[simp] theorem get_put_ne (h : j ≠ k) (c : Cell α) : (m.put k c).get now j = m.get now j := by
  simp [get, put, h]

/-- What is there after a deletion was there before. -/
theorem get_of_get_del (h : (m.del k).get now j = some v) : m.get now j = some v := by
  by_cases same : j = k
  · subst same
    rw [get_del_self] at h
    cases h
  · rwa [get_del_ne same] at h

/-- What is there after a `put` is the new value or was there before. -/
theorem get_put_cases {c : Cell α} (h : (m.put k c).get now j = some v) :
    (j = k ∧ c.value = v) ∨ m.get now j = some v := by
  by_cases same : j = k
  · subst same
    rw [get_put_self] at h
    split at h
    · exact Or.inl ⟨rfl, Option.some.inj h⟩
    · cases h
  · rw [get_put_ne same] at h
    exact Or.inr h

theorem setEx_eq_some {n : ExpiringMap κ α} {seconds : ℚ} (h : m.setEx now k v seconds = some n) :
    0 < seconds ∧ seconds.den = 1 ∧ n = m.put k ⟨v, now + 1000 * seconds.num.toNat⟩ := by
  unfold setEx at h
  split at h
  next ok => exact ⟨ok.1, ok.2, (Option.some.inj h).symm⟩
  · cases h

theorem toNat_num {seconds : ℚ} (positive : 0 < seconds) (whole : seconds.den = 1) :
    (seconds.num.toNat : ℚ) = seconds := by
  have nonneg : 0 ≤ seconds.num := (Rat.num_pos.mpr positive).le
  calc (seconds.num.toNat : ℚ) = ((seconds.num.toNat : ℤ) : ℚ) := (Int.cast_natCast _).symm
    _ = (seconds.num : ℚ) := by rw [Int.toNat_of_nonneg nonneg]
    _ = seconds := (Rat.den_eq_one_iff _).mp whole

/-- The server takes a whole number of seconds. -/
theorem setEx_whole {n : ℤ} (positive : 0 < n) :
    m.setEx now k v n = some (m.put k ⟨v, now + 1000 * n.toNat⟩) := by
  have accepted : 0 < (n : ℚ) ∧ (n : ℚ).den = 1 := ⟨by exact_mod_cast positive, Rat.den_intCast ..⟩
  rw [setEx, if_pos accepted, Rat.num_intCast]

/-- A command that is sent only while the server answers. -/
theorem sent_setEx_eq_some {n : ExpiringMap κ α} {seconds : ℚ} {up : Bool}
    (h : (if up then m.setEx now k v seconds else none) = some n) :
    up = true ∧ n = m.put k ⟨v, now + 1000 * seconds.num.toNat⟩ := by
  cases up with
  | false => cases h
  | true => exact ⟨rfl, (setEx_eq_some h).2.2⟩

end Lemmas

end ExpiringMap

end SelfOtp
