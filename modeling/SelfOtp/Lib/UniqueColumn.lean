import Mathlib.Data.List.Nodup

/-! Tables with a column whose values are all different. -/
namespace SelfOtp

variable {α β κ : Type}

def UniqueColumn (column : α → κ) (rows : List α) : Prop := (rows.map column).Nodup

namespace UniqueColumn

variable {column : α → κ} {rows : List α}

theorem nil : UniqueColumn column [] := List.nodup_nil

theorem concat (unique : UniqueColumn column rows) {row : α} (fresh : ∀ r ∈ rows, column r ≠ column row) :
    UniqueColumn column (rows ++ [row]) := by
  unfold UniqueColumn
  rw [List.map_append, List.nodup_append]
  refine ⟨unique, List.pairwise_singleton _ _, fun k old l new => ?_⟩
  obtain ⟨r, there, rfl⟩ := List.mem_map.mp old
  rw [List.mem_singleton.mp new]
  exact fresh r there

theorem eq_of_column (unique : UniqueColumn column rows) {r s : α} (first : r ∈ rows) (second : s ∈ rows)
    (same : column r = column s) : r = s := List.inj_on_of_nodup_map unique first second same

theorem find?_eq [DecidableEq κ] (unique : UniqueColumn column rows) {row : α} (there : row ∈ rows) :
    rows.find? (fun r => column r == column row) = some row := by
  have some_row : (rows.find? fun r => column r == column row).isSome :=
    List.find?_isSome.mpr ⟨row, there, beq_self_eq_true _⟩
  obtain ⟨r, found⟩ := Option.isSome_iff_exists.mp some_row
  have same : column r = column row := by simpa using List.find?_some found
  rw [found, unique.eq_of_column (List.mem_of_find?_eq_some found) there same]

/-- The same in a table of which `rows` is a description. -/
theorem find?_map_eq [DecidableEq κ] (unique : UniqueColumn column rows) (view : α → β) (key : β → κ)
    (agrees : ∀ r, key (view r) = column r) {row : α} (there : row ∈ rows) :
    (rows.map view).find? (fun s => key s == column row) = some (view row) := by
  have found := unique.find?_eq there
  rw [List.find?_map]
  simp only [Function.comp_def, agrees, found, Option.map_some]

end UniqueColumn

end SelfOtp
