import Mathlib.Algebra.Order.Group.Defs
import Mathlib.Data.List.Induction

/-! Limits on the requests of any window, decided from a log of all requests. -/
namespace SelfOtp.SlidingWindow

variable {κ τ : Type}

/-- A request that has been decided; refused ones are in the log too. -/
structure Decision (κ τ : Type) where
  key : κ
  limit : ℕ
  time : τ
  limited : Bool
  remaining : ℕ
  deriving DecidableEq

/-- What is after a time, of what is after an earlier one. -/
theorem filter_later [Preorder τ] [DecidableLT τ] {a b : τ} (le : a ≤ b) (times : List τ) :
    (times.filter (a < ·)).filter (b < ·) = times.filter (b < ·) := by
  rw [List.filter_filter]
  refine List.filter_congr fun t _ => ?_
  have before (after : b < t) : a < t := lt_of_le_of_lt le after
  simpa using before

section Windows

variable [DecidableEq κ] [AddCommGroup τ] [LinearOrder τ] {window : κ → τ} {log ds : List (Decision κ τ)}
  {key : κ} {limit : ℕ} {t : τ}

/-- The requests for a key in the window that ends at `t`. -/
def requests (window : κ → τ) (log : List (Decision κ τ)) (key : κ) (t : τ) : ℕ :=
  log.countP fun d => d.key = key ∧ t - window key < d.time ∧ d.time ≤ t

/-- The next decision after the log. -/
def ask (window : κ → τ) (log : List (Decision κ τ)) (key : κ) (limit : ℕ) (t : τ) : Decision κ τ :=
  ⟨key, limit, t, limit ≤ requests window log key t, limit - (requests window log key t + 1)⟩

/-- The decisions are in the order of their times, and each of them follows from those before. -/
structure Decided (window : κ → τ) (log : List (Decision κ τ)) : Prop where
  ordered : log.Pairwise fun d e => d.time ≤ e.time
  asked : ∀ before d after, log = before ++ d :: after → d = ask window before d.key d.limit d.time

/-- The requests of a window that a limit of at most `m` admitted. -/
def admitted (window : κ → τ) (log : List (Decision κ τ)) (key : κ) (m : ℕ) (t : τ) : ℕ :=
  log.countP fun d => d.key = key ∧ t - window key < d.time ∧ d.time ≤ t ∧ d.limited = false ∧ d.limit ≤ m

theorem Decided.nil : Decided window [] :=
  ⟨List.Pairwise.nil, fun before d after same => absurd same (by simp)⟩

theorem Decided.ask (decided : Decided window log) (past : ∀ d ∈ log, d.time ≤ t) (key : κ) (limit : ℕ) :
    Decided window (log ++ [SlidingWindow.ask window log key limit t]) := by
  refine ⟨List.pairwise_append.mpr ⟨decided.ordered, List.pairwise_singleton .., ?_⟩, ?_⟩
  · intro d there e here
    rw [List.mem_singleton.mp here]
    exact past d there
  · intro before d after same
    rcases List.eq_nil_or_concat after with rfl | ⟨after, last, rfl⟩
    · obtain ⟨earlier, here⟩ := List.append_inj' same rfl
      cases here
      rw [← earlier]
      rfl
    · rw [List.concat_eq_append, ← List.cons_append, ← List.append_assoc] at same
      exact decided.asked before d after (List.append_inj' same rfl).1

theorem Decided.dropLast {d : Decision κ τ} (decided : Decided window (log ++ [d])) : Decided window log :=
  ⟨(List.pairwise_append.mp decided.ordered).1, fun before e after same =>
    decided.asked before e (after ++ [d]) (by rw [same, List.append_assoc, List.cons_append])⟩

variable [IsOrderedAddMonoid τ]

/-- No window has more admitted requests than their limit. -/
theorem Decided.admitted_le (decided : Decided window log) (key : κ) (m : ℕ) (t : τ) :
    admitted window log key m t ≤ m := by
  induction log using List.reverseRecOn with
  | nil => exact Nat.zero_le m
  | append_singleton log d ih =>
    have before := ih decided.dropLast
    unfold admitted at before ⊢
    rw [List.countP_append, List.countP_singleton]
    split
    next counts =>
      obtain ⟨here, starts, ends, passes, le⟩ := of_decide_eq_true counts
      have decision := decided.asked log d [] rfl
      have room : requests window log d.key d.time < d.limit := by
        rw [decision] at passes
        exact Nat.lt_of_not_le (of_decide_eq_false passes)
      -- the earlier ones are in the window of the last one too
      have earlier : log.countP (fun e => decide (e.key = key ∧ t - window key < e.time ∧ e.time ≤ t ∧
          e.limited = false ∧ e.limit ≤ m)) ≤ requests window log d.key d.time := by
        apply List.countP_mono_left
        intro e there counted
        obtain ⟨same, after, -, -, -⟩ := of_decide_eq_true counted
        have past : e.time ≤ d.time :=
          (List.pairwise_append.mp decided.ordered).2.2 e there d (List.mem_singleton_self d)
        rw [decide_eq_true_eq, here]
        exact ⟨same, lt_of_le_of_lt (sub_le_sub_right ends _) after, past⟩
      omega
    · omega

end Windows

end SelfOtp.SlidingWindow
