import Mathlib.Data.List.Nodup

/-! Elements that are the only ones of a list with a property. -/
namespace SelfOtp

variable {α β : Type} {P : α → Prop} {x : α} {l m : List α}

/-- `x` is in the list once, and it is the only one with the property. -/
def Once (P : α → Prop) (x : α) (l : List α) : Prop :=
  ∃ before after, l = before ++ x :: after ∧ P x ∧ ∀ y ∈ before ++ after, ¬P y

theorem Once.perm (once : Once P x l) (same : l.Perm m) : Once P x m := by
  obtain ⟨before, after, rfl, holds, others⟩ := once
  obtain ⟨first, last, rfl⟩ := List.append_of_mem (same.mem_iff.mp (List.mem_append_right _ List.mem_cons_self))
  have rest : (before ++ after).Perm (first ++ last) :=
    (List.perm_middle.symm.trans (same.trans List.perm_middle)).cons_inv
  exact ⟨first, last, rfl, holds, fun y there => others y (rest.mem_iff.mpr there)⟩

theorem Once.map {Q : β → Prop} {f : α → β} (once : Once P x l) (same : ∀ y ∈ l, Q (f y) ↔ P y) :
    Once Q (f x) (l.map f) := by
  obtain ⟨before, after, rfl, holds, others⟩ := once
  refine ⟨before.map f, after.map f, by simp, (same x (by simp)).mpr holds, fun y there => ?_⟩
  rw [← List.map_append] at there
  obtain ⟨z, member, rfl⟩ := List.mem_map.mp there
  have inside : z ∈ before ++ x :: after := by
    rcases List.mem_append.mp member with left | right
    · exact List.mem_append_left _ left
    · exact List.mem_append_right _ (List.mem_cons_of_mem _ right)
  exact mt (same z inside).mp (others z member)

/-- Where no two elements have the same key, each is the only one with its key. -/
theorem once_of_nodup {f : α → β} (distinct : (l.map f).Nodup) (member : x ∈ l) :
    Once (fun y => f y = f x) x l := by
  obtain ⟨before, after, rfl⟩ := List.append_of_mem member
  refine ⟨before, after, rfl, rfl, fun y there same => ?_⟩
  rw [List.map_append, List.map_cons, List.nodup_middle] at distinct
  have key : f y ∈ before.map f ++ after.map f := by
    rw [← List.map_append]
    exact List.mem_map_of_mem there
  exact (List.nodup_cons.mp distinct).1 (same ▸ key)

end SelfOtp
