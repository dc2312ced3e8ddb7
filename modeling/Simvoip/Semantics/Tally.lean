import Mathlib.Tactic.Ring
import Simvoip.Semantics.Run

namespace Simvoip.Semantics

universe u v

/-! # Counting the steps of a run

How often a run does something is what a quantity grows by that each such step raises
by one.
-/

section

variable {σ : Type u} {ι : Type v} (step : σ → ι → Option σ) (happens : σ → ι → Prop)
  [∀ state input, Decidable (happens state input)]

/-- The number of steps that are taken where it happens. -/
def tally : σ → List ι → Nat
  | _, [] => 0
  | state, input :: rest =>
      match step state input with
      | none => 0
      | some next => (if happens state input then 1 else 0) + tally next rest

variable {step happens}

/-- A quantity that every step raises by one where it happens, and leaves alone
elsewhere, counts how often it happened. -/
theorem eq_add_tally {invariant : σ → Prop} {quantity : σ → Int}
    (preserved : ∀ {before : σ} {input : ι} {next : σ}, invariant before →
      step before input = some next → invariant next)
    (counts : ∀ {before : σ} {input : ι} {next : σ}, invariant before →
      step before input = some next →
        quantity next = quantity before + if happens before input then 1 else 0)
    {state after : σ} {inputs : List ι} (initial : invariant state)
    (completed : run step state inputs = some after) :
    quantity after = quantity state + tally step happens state inputs := by
  induction inputs generalizing state with
  | nil =>
      cases completed
      simp [tally]
  | cons input rest ih =>
      obtain ⟨next, taken, remaining⟩ := run_cons completed
      rw [ih (preserved initial taken) remaining, counts initial taken]
      simp only [tally, taken]
      push_cast
      ring

end

end Simvoip.Semantics
