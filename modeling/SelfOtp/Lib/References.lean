import Mathlib.Data.List.Basic

/-! Tables whose rows refer to rows: what a change of a table has to show for its references to stay intact. -/
namespace SelfOtp

variable {α ρ : Type}

/-- The references of each row are to rows that are there. -/
def Closed (refs : α → List ρ) (rows : List ρ) (table : List α) : Prop := ∀ x ∈ table, refs x ⊆ rows

/-- The rows of the new table refer to what rows of the old one refer to, or to rows that are there. -/
def Carries (refs : α → List ρ) (rows : List ρ) (table table' : List α) : Prop :=
  ∀ x ∈ table', (∃ y ∈ table, refs x = refs y) ∨ refs x ⊆ rows

section Carries

variable {refs : α → List ρ} {rows rows' : List ρ} {table table' : List α}

theorem Carries.same (eq : table' = table) : Carries refs rows table table' :=
  fun x there => Or.inl ⟨x, eq ▸ there, rfl⟩

theorem Carries.append {x : α} (valid : refs x ⊆ rows) : Carries refs rows table (table ++ [x]) := by
  intro y there
  rcases List.mem_append.mp there with old | new
  · exact Or.inl ⟨y, old, rfl⟩
  · rw [List.mem_singleton.mp new]
    exact Or.inr valid

theorem Carries.map {f : α → α} (keeps : ∀ x ∈ table, refs (f x) = refs x) :
    Carries refs rows table (table.map f) := by
  intro y there
  obtain ⟨x, old, rfl⟩ := List.mem_map.mp there
  exact Or.inl ⟨x, old, keeps x old⟩

theorem Carries.trans {table'' : List α} (first : Carries refs rows table table')
    (second : Carries refs rows' table' table'') (grown : rows ⊆ rows') : Carries refs rows' table table'' := by
  intro x there
  rcases second x there with ⟨y, between, same⟩ | valid
  · rw [same]
    exact (first y between).imp_right fun valid => List.Subset.trans valid grown
  · exact Or.inr valid

theorem Carries.closed (carries : Carries refs rows' table table') (closed : Closed refs rows table)
    (grown : rows ⊆ rows') : Closed refs rows' table' := by
  intro x there
  rcases carries x there with ⟨y, old, same⟩ | valid
  · rw [same]
    exact List.Subset.trans (closed y old) grown
  · exact valid

end Carries

end SelfOtp
