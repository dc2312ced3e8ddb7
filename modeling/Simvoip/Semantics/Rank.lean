import Simvoip.Semantics.Run

namespace Simvoip.Semantics

universe u v

/-! # Machines that finish, and machines that go on

A machine that is fed from an endless sequence of inputs finishes when each of its
steps lowers a rank.  It goes on for as long as an invariant leaves it a step.
-/

/-- The rank of a machine bounds the number of steps until it finishes. -/
theorem exists_finished {σ : Type u} {ι : Type v} {step : σ → ι → Option σ}
    {invariant finished : σ → Prop} {allowed : ι → Prop} (rank : σ → Nat)
    (moves : ∀ (before : σ) (input : ι), invariant before → allowed input → ¬ finished before →
      ∃ next, step before input = some next ∧ invariant next ∧ rank next < rank before)
    {state : σ} (initial : invariant state) {values : Nat → ι}
    (supplied : ∀ index, allowed (values index)) :
    ∃ n ≤ rank state, ∃ after, run step state ((List.range n).map values) = some after ∧
      invariant after ∧ finished after := by
  generalize bound : rank state = limit
  induction limit using Nat.strongRecOn generalizing state values with
  | ind limit ih =>
      by_cases done : finished state
      · exact ⟨0, Nat.zero_le _, state, rfl, initial, done⟩
      · obtain ⟨next, taken, kept, less⟩ := moves state (values 0) initial (supplied 0) done
        rw [bound] at less
        obtain ⟨n, fewer, after, completed, holds, ended⟩ :=
          ih (rank next) less kept (fun index => supplied (index + 1)) rfl
        refine ⟨n + 1, by omega, after, ?_, holds, ended⟩
        rw [List.range_succ_eq_map, List.map_cons, List.map_map, run, taken]
        exact completed

/-- A machine that an invariant leaves a step unless it is about to stop goes on for ever,
or comes to a state in which it is. -/
theorem runs_on_or_stops {σ : Type u} {ι : Type v} {step : σ → ι → Option σ}
    {invariant stopping : σ → Prop}
    (moves : ∀ before input, invariant before →
      stopping before ∨ ∃ next, step before input = some next ∧ invariant next)
    {state : σ} (initial : invariant state) (values : Nat → ι) :
    (∀ n, ∃ after, run step state ((List.range n).map values) = some after ∧ invariant after) ∨
      ∃ n after, run step state ((List.range n).map values) = some after ∧ stopping after := by
  by_cases stops : ∃ n after, run step state ((List.range n).map values) = some after ∧
      stopping after
  · exact .inr stops
  · refine .inl fun n => ?_
    induction n with
    | zero => exact ⟨state, rfl, initial⟩
    | succ n ih =>
        obtain ⟨before, completed, holds⟩ := ih
        rcases moves before (values n) holds with stopping | ⟨next, taken, kept⟩
        · exact absurd ⟨n, before, completed, stopping⟩ stops
        · refine ⟨next, ?_, kept⟩
          rw [List.range_succ, List.map_append, List.map_singleton, run_snoc, completed,
            Option.bind_some, taken]

end Simvoip.Semantics
