import Simvoip.Semantics.Run

namespace Simvoip.Semantics

universe u v w x

/-! # Two machines side by side

Machines that share no state may take their steps in any order: each does what it
would have done alone.
-/

section

variable {σ : Type u} {τ : Type v} {ι : Type w} {κ : Type x}

def sideBySide (left : σ → ι → Option σ) (right : τ → κ → Option τ) :
    σ × τ → ι ⊕ κ → Option (σ × τ)
  | (state, other), .inl input => (left state input).map (·, other)
  | (state, other), .inr input => (right other input).map (state, ·)

variable {left : σ → ι → Option σ} {right : τ → κ → Option τ}

theorem run_sideBySide (state : σ) (other : τ) (inputs : List (ι ⊕ κ)) :
    run (sideBySide left right) (state, other) inputs =
      (run left state (inputs.filterMap Sum.getLeft?)).bind fun after =>
        (run right other (inputs.filterMap Sum.getRight?)).map (after, ·) := by
  induction inputs generalizing state other with
  | nil => rfl
  | cons input rest ih =>
      cases input with
      | inl input =>
          simp only [List.filterMap_cons, Sum.getLeft?, Sum.getRight?, run, sideBySide]
          cases taken : left state input with
          | none => rfl
          | some next => exact ih next other
      | inr input =>
          simp only [List.filterMap_cons, Sum.getLeft?, Sum.getRight?, run, sideBySide]
          cases taken : right other input with
          | none => simp
          | some next => exact ih state next

end

/-- A machine whose steps are those of another, seen through a function, runs like it. -/
theorem run_through {σ : Type u} {τ : Type v} {ι : Type w} {concrete : σ → ι → Option σ}
    {model : τ → ι → Option τ} (view : τ → σ)
    (steps : ∀ state input, concrete (view state) input = (model state input).map view)
    (state : τ) (inputs : List ι) :
    run concrete (view state) inputs = (run model state inputs).map view := by
  induction inputs generalizing state with
  | nil => rfl
  | cons input rest ih =>
      rw [run, run, steps]
      cases model state input with
      | none => rfl
      | some next => exact ih next

end Simvoip.Semantics
