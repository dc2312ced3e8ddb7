import Mathlib.Order.Bounds.Basic
import Simvoip.Semantics.Run

namespace Simvoip.Semantics

universe u v w

/-! # The largest value of a measure so far

A watched machine carries the largest value that a measure took in the states it
passed through.
-/

structure Watched (σ : Type u) (α : Type w) where
  state : σ
  peak : α

section

variable {σ : Type u} {ι : Type v} {α : Type w}

def watching (measure : σ → α) (state : σ) : Watched σ α where
  state := state
  peak := measure state

/-- The values of the measure in all states of a run. -/
def visited (step : σ → ι → Option σ) (measure : σ → α) (state : σ) (inputs : List ι) : Set α :=
  { value | ∃ earlier, earlier <+: inputs ∧
    ∃ now, run step state earlier = some now ∧ measure now = value }

variable {step : σ → ι → Option σ} {measure : σ → α} {state : σ} {inputs : List ι}

theorem visited_nil : visited step measure state [] = {measure state} := by
  ext value
  simp only [visited, List.prefix_nil, Set.mem_ofPred_eq, Set.mem_singleton_iff]
  constructor
  · rintro ⟨earlier, rfl, now, completed, same⟩
    cases completed
    exact same.symm
  · rintro rfl
    exact ⟨[], rfl, state, rfl, rfl⟩

theorem visited_snoc {input : ι} {next : σ}
    (completed : run step state (inputs ++ [input]) = some next) :
    visited step measure state (inputs ++ [input]) =
      insert (measure next) (visited step measure state inputs) := by
  ext value
  simp only [visited, List.prefix_concat_iff, Set.mem_ofPred_eq, Set.mem_insert_iff]
  constructor
  · rintro ⟨earlier, rfl | within, now, reached, same⟩
    · rw [completed] at reached
      cases reached
      exact .inl same.symm
    · exact .inr ⟨earlier, within, now, reached, same⟩
  · rintro (rfl | ⟨earlier, within, now, reached, same⟩)
    · exact ⟨_, .inl rfl, next, completed, rfl⟩
    · exact ⟨earlier, .inr within, now, reached, same⟩

variable [LinearOrder α]

def watch (step : σ → ι → Option σ) (measure : σ → α) (watched : Watched σ α) (input : ι) :
    Option (Watched σ α) :=
  (step watched.state input).map fun next =>
    { state := next, peak := max watched.peak (measure next) }

/-- Watching a run does not change it. -/
theorem run_watch_state (watched : Watched σ α) :
    (run (watch step measure) watched inputs).map Watched.state =
      run step watched.state inputs := by
  induction inputs generalizing watched with
  | nil => rfl
  | cons input rest ih =>
      cases taken : step watched.state input with
      | none => simp only [run, watch, taken, Option.map_none]
      | some next => simp only [run, watch, taken, Option.map_some, ih]

theorem run_of_watch {watched : Watched σ α}
    (completed : run (watch step measure) (watching measure state) inputs = some watched) :
    run step state inputs = some watched.state := by
  have same : (run (watch step measure) (watching measure state) inputs).map Watched.state =
      run step state inputs :=
    run_watch_state _
  rw [completed, Option.map_some] at same
  exact same.symm

theorem run_watch_peak {watched : Watched σ α}
    (completed : run (watch step measure) (watching measure state) inputs = some watched) :
    IsGreatest (visited step measure state inputs) watched.peak := by
  let motive (inputs : List ι) (watched : Watched σ α) : Prop :=
    IsGreatest (visited step measure state inputs) watched.peak
  suffices result : motive inputs watched from result
  refine run_history (motive := motive) ?_ ?_ completed
  · simp only [motive, visited_nil]
    exact isGreatest_singleton
  · intro inputs before input next earlier greatest taken
    have reached : run step state (inputs ++ [input]) = some next.state := by
      have watched : run (watch step measure) (watching measure state) (inputs ++ [input]) =
          some next := by
        rw [run_snoc, earlier, Option.bind_some, taken]
      exact run_of_watch watched
    obtain ⟨after, _, rfl⟩ := Option.map_eq_some_iff.mp taken
    simp only [motive, visited_snoc reached, max_comm before.peak]
    exact IsGreatest.insert (measure after) greatest

theorem exists_run_watch {after : σ} (measure : σ → α)
    (completed : run step state inputs = some after) :
    ∃ watched, run (watch step measure) (watching measure state) inputs = some watched ∧
      watched.state = after := by
  rw [← Option.map_eq_some_iff, run_watch_state]
  exact completed

/-- What a machine reports is what the watched machine carries exactly when it is
the largest value of the measure up to every moment of the run. -/
theorem throughout_watch_iff {report : σ → α} :
    Throughout (watch step measure) (fun watched => report watched.state = watched.peak)
        (watching measure state) inputs ↔
      ∀ earlier, earlier <+: inputs → ∀ now, run step state earlier = some now →
        IsGreatest (visited step measure state earlier) (report now) := by
  rw [throughout_iff_earlier]
  refine forall₂_congr fun earlier within => ?_
  constructor
  · intro everywhere now reached
    obtain ⟨watched, completed, rfl⟩ := exists_run_watch measure reached
    rw [everywhere watched completed]
    exact run_watch_peak completed
  · intro everywhere watched completed
    exact (everywhere watched.state (run_of_watch completed)).unique (run_watch_peak completed)

end

end Simvoip.Semantics
