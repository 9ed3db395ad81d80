import Mathlib.Data.Nat.Notation

/-! Machines that answer every input, and simulations in lockstep. -/
namespace SelfOtp.Machine

variable {σ τ ε ω : Type}

/-- The state after the inputs, and the answers to them. -/
def serve (step : σ → ε → σ × List ω) (s : σ) : List ε → σ × List ω
  | [] => (s, [])
  | e :: es => ((serve step (step s e).1 es).1, (step s e).2 ++ (serve step (step s e).1 es).2)

/-- Every input meets the condition in the state in which it arrives. -/
def Meets (step : σ → ε → σ × List ω) (allowed : σ → ε → Prop) (s : σ) : List ε → Prop
  | [] => True
  | e :: es => allowed s e ∧ Meets step allowed (step s e).1 es

instance decidableMeets (step : σ → ε → σ × List ω) (allowed : σ → ε → Prop)
    [∀ s e, Decidable (allowed s e)] : ∀ s es, Decidable (Meets step allowed s es)
  | _, [] => isTrue trivial
  | s, e :: es =>
    have := decidableMeets step allowed (step s e).1 es
    inferInstanceAs (Decidable (_ ∧ _))

/-- A state that writes its answers down. -/
theorem serve_log {step : σ → ε → σ × List ω} (log : σ → List ω)
    (writes : ∀ s e, log (step s e).1 = log s ++ (step s e).2) (s : σ) (es : List ε) :
    log (serve step s es).1 = log s ++ (serve step s es).2 := by
  induction es generalizing s with
  | nil => exact (List.append_nil _).symm
  | cons e es ih => simp only [serve, ih, writes, List.append_assoc]

section Simulation

variable {step : σ → ε → σ × List ω} {spec : τ → ε → τ × List ω} {allowed : τ → ε → Prop}
  {related : σ → τ → Prop} {s : σ} {t : τ} {es : List ε}

theorem meets_of_forall (always : ∀ s, ∀ e ∈ es, allowed s e) (t : τ) : Meets spec allowed t es := by
  induction es generalizing t with
  | nil => trivial
  | cons e es ih =>
    exact ⟨always t e (List.mem_cons_self ..), ih (fun s f there => always s f (List.mem_cons_of_mem _ there)) _⟩

/-- Related states answer alike and stay related, as long as the inputs meet the condition. -/
theorem serve_simulates
    (lockstep : ∀ s t e, related s t → allowed t e →
      related (step s e).1 (spec t e).1 ∧ (step s e).2 = (spec t e).2)
    (start : related s t) (meets : Meets spec allowed t es) :
    related (serve step s es).1 (serve spec t es).1 ∧ (serve step s es).2 = (serve spec t es).2 := by
  induction es generalizing s t with
  | nil => exact ⟨start, rfl⟩
  | cons e es ih =>
    obtain ⟨next, same⟩ := lockstep s t e start meets.1
    obtain ⟨last, answers⟩ := ih next meets.2
    refine ⟨last, ?_⟩
    simp only [serve]
    rw [same, answers]

theorem serve_refines
    (lockstep : ∀ s t e, related s t → related (step s e).1 (spec t e).1 ∧ (step s e).2 = (spec t e).2)
    (start : related s t) (es : List ε) :
    related (serve step s es).1 (serve spec t es).1 ∧ (serve step s es).2 = (serve spec t es).2 :=
  serve_simulates (fun s t e same (_ : True) => lockstep s t e same) start
    (meets_of_forall (fun _ _ _ => trivial) t)

end Simulation

end SelfOtp.Machine
