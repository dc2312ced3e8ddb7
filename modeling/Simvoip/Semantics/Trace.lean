import Simvoip.Semantics.Run

namespace Simvoip.Semantics

universe u v w

/-! # What a run emits

The trace of a run is what its steps emit, one after the other.
-/

section

variable {σ : Type u} {ι : Type v} {β : Type w} (step : σ → ι → Option σ) (emit : σ → ι → List β)

def trace : σ → List ι → List β
  | _, [] => []
  | state, input :: rest =>
      match step state input with
      | none => []
      | some next => emit state input ++ trace next rest

variable {step emit} {state before next : σ} {inputs : List ι} {input : ι}

theorem trace_snoc (completed : run step state inputs = some before)
    (taken : step before input = some next) :
    trace step emit state (inputs ++ [input]) =
      trace step emit state inputs ++ emit before input := by
  induction inputs generalizing state with
  | nil =>
      cases completed
      simp [trace, taken]
  | cons first rest ih =>
      obtain ⟨second, begun, remaining⟩ := run_cons completed
      simp only [List.cons_append, trace, begun, ih remaining, List.append_assoc]

/-- What holds of the state and what was emitted before it is kept by every step, with
what the step emits. -/
theorem trace_history {motive : List β → σ → Prop} (start : motive [] state)
    (extend : ∀ {emitted : List β} {before : σ} {input : ι} {next : σ}, motive emitted before →
      step before input = some next → motive (emitted ++ emit before input) next)
    {after : σ} (completed : run step state inputs = some after) :
    motive (trace step emit state inputs) after := by
  let history (inputs : List ι) (after : σ) : Prop := motive (trace step emit state inputs) after
  suffices result : history inputs after from result
  refine run_history (motive := history) start ?_ completed
  intro inputs before input next earlier holds taken
  simp only [history, trace_snoc earlier taken]
  exact extend holds taken

end

end Simvoip.Semantics
