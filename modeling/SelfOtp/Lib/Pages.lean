import Mathlib.Data.List.Basic

/-! Reading a list page by page while rows are inserted. -/
namespace SelfOtp.Pages

variable {σ α : Type}

/-- Pages are numbered from 1. -/
def page (number size : ℕ) (rows : List α) : List α := (rows.drop ((number - 1) * size)).take size

/-- A reader collects the pages from a number on, up to the first one that is not full. The state may move on
before each further page. -/
inductive Reads (view : σ → List α) (later : σ → σ → Prop) (size : ℕ) : σ → ℕ → List α → σ → Prop
  | last {s : σ} {number : ℕ} (short : (page number size (view s)).length < size) :
      Reads view later size s number (page number size (view s)) s
  | next {s t u : σ} {number : ℕ} {rows : List α} (moved : later s t)
      (rest : Reads view later size t (number + 1) rows u) :
      Reads view later size s number (page number size (view s) ++ rows) u

section Reads

variable {view : σ → List α} {later : σ → σ → Prop} {size number : ℕ} {s u : σ} {rows : List α}

theorem page_short {rows : List α} (short : (page number size rows).length < size) :
    page number size rows = rows.drop ((number - 1) * size) := by
  unfold page at short ⊢
  rw [List.length_take] at short
  exact List.take_of_length_le (by omega)

theorem page_append_drop (rows : List α) :
    page (number + 1) size rows ++ rows.drop ((number + 1) * size) = rows.drop (number * size) := by
  have rest : rows.drop ((number + 1) * size) = (rows.drop (number * size)).drop size := by
    rw [List.drop_drop, Nat.succ_mul]
  rw [rest, page, Nat.add_sub_cancel]
  exact List.take_append_drop size _

/-- Rows only move to later pages, so the reader meets each of those that the first page began with. -/
theorem Reads.covers (grows : ∀ s t, later s t → (view s).Sublist (view t))
    (reads : Reads view later size s (number + 1) rows u) :
    ((view s).drop (number * size)).Sublist rows := by
  generalize first : number + 1 = n at reads
  induction reads generalizing number with
  | last short =>
    subst first
    rw [page_short short, Nat.add_sub_cancel]
  | @next s t u n rows moved rest ih =>
    subst first
    rw [← page_append_drop]
    have shifted : ((view s).drop ((number + 1) * size)).Sublist ((view t).drop ((number + 1) * size)) :=
      (grows s t moved).drop _
    exact (List.Sublist.refl _).append (shifted.trans (ih rfl))

theorem Reads.grown (grows : ∀ s t, later s t → (view s).Sublist (view t))
    (reads : Reads view later size s number rows u) : (view s).Sublist (view u) := by
  induction reads with
  | last short => exact List.Sublist.refl _
  | next moved rest ih => exact (grows _ _ moved).trans ih

/-- When nothing was inserted meanwhile, it meets each of them once. -/
theorem Reads.exact (grows : ∀ s t, later s t → (view s).Sublist (view t))
    (reads : Reads view later size s (number + 1) rows u) (still : (view u).length = (view s).length) :
    rows = (view s).drop (number * size) := by
  generalize first : number + 1 = n at reads
  induction reads generalizing number with
  | last short =>
    subst first
    rw [page_short short, Nat.add_sub_cancel]
  | @next s t u n rows moved rest ih =>
    subst first
    have between : (view t).length = (view s).length := by
      have low := (grows s t moved).length_le
      have high := (rest.grown grows).length_le
      omega
    have same : view s = view t := (grows s t moved).eq_of_length between.symm
    rw [ih (still.trans between.symm) rfl, ← same, page_append_drop]

end Reads

end SelfOtp.Pages
