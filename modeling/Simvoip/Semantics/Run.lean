import Mathlib.Data.List.Induction
import Mathlib.Logic.Basic

namespace Simvoip.Semantics

universe u v

/-! # Runs of a deterministic machine under external inputs

A machine is a partial step function.  `Throughout` speaks about every state of
a run, `Stepwise` about every step together with the state it is taken in.
-/

section

variable {σ : Type u} {ι : Type v} (step : σ → ι → Option σ)

def run : σ → List ι → Option σ
  | state, [] => some state
  | state, input :: rest =>
      match step state input with
      | none => none
      | some next => run next rest

def Throughout (property : σ → Prop) : σ → List ι → Prop
  | state, [] => property state
  | state, input :: rest =>
      property state ∧ ∀ next, step state input = some next → Throughout property next rest

/-- Every step of the run, judged in the state before it. -/
def Stepwise (guard : σ → ι → Prop) : σ → List ι → Prop
  | _, [] => True
  | state, input :: rest =>
      guard state input ∧ ∀ next, step state input = some next → Stepwise guard next rest

instance decidableStepwise {guard : σ → ι → Prop} [∀ state input, Decidable (guard state input)] :
    ∀ (state : σ) (inputs : List ι), Decidable (Stepwise step guard state inputs)
  | _, [] => isTrue trivial
  | state, input :: rest =>
      match taken : step state input with
      | none => decidable_of_iff (guard state input) (by simp [Stepwise, taken])
      | some next =>
          have : Decidable (Stepwise step guard next rest) := decidableStepwise next rest
          decidable_of_iff (guard state input ∧ Stepwise step guard next rest)
            (by simp [Stepwise, taken])

variable {step}

theorem run_cons {state after : σ} {input : ι} {rest : List ι}
    (completed : run step state (input :: rest) = some after) :
    ∃ next, step state input = some next ∧ run step next rest = some after := by
  cases taken : step state input with
  | none => simp [run, taken] at completed
  | some next => exact ⟨next, rfl, by simpa only [run, taken] using completed⟩

theorem exists_run {property : σ → Prop} [DecidablePred property] {state : σ} {inputs : List ι}
    (found : (run step state inputs).any (fun after => decide (property after)) = true) :
    ∃ after, run step state inputs = some after ∧ property after := by
  obtain ⟨after, completed, holds⟩ := (Option.any_eq_true _ _).mp found
  exact ⟨after, completed, of_decide_eq_true holds⟩

theorem run_invariant {invariant : σ → Prop} {state after : σ} {inputs : List ι}
    (preserved : ∀ {before : σ} {input : ι} {next : σ}, invariant before →
      step before input = some next → invariant next)
    (initial : invariant state) (completed : run step state inputs = some after) :
    invariant after := by
  induction inputs generalizing state with
  | nil =>
      cases completed
      exact initial
  | cons input rest ih =>
      obtain ⟨next, taken, remaining⟩ := run_cons completed
      exact ih (preserved initial taken) remaining

theorem run_snoc (state : σ) (inputs : List ι) (input : ι) :
    run step state (inputs ++ [input]) =
      (run step state inputs).bind fun after => step after input := by
  induction inputs generalizing state with
  | nil =>
      cases taken : step state input with
      | none => simp [run, taken]
      | some next => simp [run, taken]
  | cons first rest ih =>
      cases taken : step state first with
      | none => simp [run, taken]
      | some next => simp only [List.cons_append, run, taken, ih]

/-- Induction on a run from its end, for facts about its whole history. -/
theorem run_history {motive : List ι → σ → Prop} {state after : σ} {inputs : List ι}
    (start : motive [] state)
    (extend : ∀ {inputs : List ι} {before : σ} {input : ι} {next : σ},
      run step state inputs = some before → motive inputs before →
        step before input = some next → motive (inputs ++ [input]) next)
    (completed : run step state inputs = some after) : motive inputs after := by
  induction inputs using List.reverseRecOn generalizing after with
  | nil =>
      cases completed
      exact start
  | append_singleton inputs input ih =>
      rw [run_snoc, Option.bind_eq_some_iff] at completed
      obtain ⟨before, earlier, taken⟩ := completed
      exact extend earlier (ih earlier) taken

theorem throughout_cons {property : σ → Prop} {state next : σ} {input : ι} {rest : List ι}
    (taken : step state input = some next) :
    Throughout step property state (input :: rest) ↔
      property state ∧ Throughout step property next rest := by
  simp [Throughout, taken]

theorem stepwise_cons {guard : σ → ι → Prop} {state next : σ} {input : ι} {rest : List ι}
    (taken : step state input = some next) :
    Stepwise step guard state (input :: rest) ↔
      guard state input ∧ Stepwise step guard next rest := by
  simp [Stepwise, taken]

theorem Throughout.head {property : σ → Prop} {state : σ} {inputs : List ι}
    (everywhere : Throughout step property state inputs) : property state := by
  cases inputs with
  | nil => exact everywhere
  | cons input rest => exact everywhere.1

theorem Throughout.mono {weaker stronger : σ → Prop} {state : σ} {inputs : List ι}
    (implies : ∀ state, stronger state → weaker state)
    (everywhere : Throughout step stronger state inputs) :
    Throughout step weaker state inputs := by
  induction inputs generalizing state with
  | nil => exact implies _ everywhere
  | cons input rest ih =>
      exact ⟨implies _ everywhere.1, fun next taken => ih (everywhere.2 next taken)⟩

theorem throughout_iff_earlier {property : σ → Prop} {state : σ} {inputs : List ι} :
    Throughout step property state inputs ↔
      ∀ earlier, earlier <+: inputs → ∀ now, run step state earlier = some now →
        property now := by
  induction inputs generalizing state with
  | nil =>
      constructor
      · rintro holds earlier within now reached
        rw [List.prefix_nil.mp within] at reached
        cases reached
        exact holds
      · exact fun everywhere => everywhere [] List.prefix_rfl state rfl
  | cons input rest ih =>
      simp only [Throughout, ih]
      constructor
      · rintro ⟨here, later⟩ earlier within now reached
        rcases List.prefix_cons_iff.mp within with rfl | ⟨others, rfl, inside⟩
        · cases reached
          exact here
        · obtain ⟨next, taken, remaining⟩ := run_cons reached
          exact later next taken others inside now remaining
      · intro everywhere
        refine ⟨everywhere [] List.nil_prefix state rfl, ?_⟩
        intro next taken earlier within now reached
        refine everywhere (input :: earlier) (List.cons_prefix_cons.mpr ⟨rfl, within⟩) now ?_
        simpa only [run, taken] using reached

theorem stepwise_congr {left right : σ → ι → Prop} {state : σ} {inputs : List ι}
    (same : ∀ state input, left state input ↔ right state input) :
    Stepwise step left state inputs ↔ Stepwise step right state inputs := by
  induction inputs generalizing state with
  | nil => exact Iff.rfl
  | cons input rest ih =>
      exact and_congr (same state input) (forall_congr' fun next => imp_congr_right fun _ => ih)

theorem stepwise_and {left right : σ → ι → Prop} {state : σ} {inputs : List ι} :
    Stepwise step (fun state input => left state input ∧ right state input) state inputs ↔
      Stepwise step left state inputs ∧ Stepwise step right state inputs := by
  induction inputs generalizing state with
  | nil => exact iff_of_true trivial ⟨trivial, trivial⟩
  | cons input rest ih =>
      simp only [Stepwise, ih]
      constructor
      · intro ⟨here, later⟩
        exact ⟨⟨here.1, fun next taken => (later next taken).1⟩,
          ⟨here.2, fun next taken => (later next taken).2⟩⟩
      · intro ⟨first, second⟩
        exact ⟨⟨first.1, second.1⟩, fun next taken => ⟨first.2 next taken, second.2 next taken⟩⟩

theorem throughout_of_invariant {invariant : σ → Prop} {state : σ} {inputs : List ι}
    (preserved : ∀ {before : σ} {input : ι} {next : σ}, invariant before →
      step before input = some next → invariant next)
    (initial : invariant state) : Throughout step invariant state inputs := by
  induction inputs generalizing state with
  | nil => exact initial
  | cons input rest ih => exact ⟨initial, fun next taken => ih (preserved initial taken)⟩

theorem stepwise_of_invariant {invariant : σ → Prop} {guard : σ → ι → Prop} {state : σ}
    {inputs : List ι}
    (preserved : ∀ {before : σ} {input : ι} {next : σ}, invariant before →
      step before input = some next → invariant next)
    (meets : ∀ before input, invariant before → guard before input)
    (initial : invariant state) : Stepwise step guard state inputs := by
  induction inputs generalizing state with
  | nil => trivial
  | cons input rest ih =>
      exact ⟨meets state input initial, fun next taken => ih (preserved initial taken)⟩

theorem stepwise_of_throughout {invariant property : σ → Prop} {guard : σ → ι → Prop} {state : σ}
    {inputs : List ι}
    (preserved : ∀ {before : σ} {input : ι} {next : σ}, invariant before →
      step before input = some next → invariant next)
    (meets : ∀ before input, invariant before → property before → guard before input)
    (initial : invariant state) (everywhere : Throughout step property state inputs) :
    Stepwise step guard state inputs := by
  induction inputs generalizing state with
  | nil => trivial
  | cons input rest ih =>
      refine ⟨meets state input initial everywhere.1, fun next taken => ?_⟩
      exact ih (preserved initial taken) (everywhere.2 next taken)

theorem throughout_of_stepwise {property : σ → Prop} {guard : σ → ι → Prop}
    (preserved : ∀ {before : σ} {input : ι} {next : σ}, property before → guard before input →
      step before input = some next → property next)
    {state : σ} {inputs : List ι} (initial : property state)
    (guarded : Stepwise step guard state inputs) : Throughout step property state inputs := by
  induction inputs generalizing state with
  | nil => exact initial
  | cons input rest ih =>
      exact ⟨initial, fun next taken =>
        ih (preserved initial guarded.1 taken) (guarded.2 next taken)⟩

/-- A guard that is exactly what one step needs to keep a property is exactly what a
whole run needs, given a background that lasts as long as the property does. -/
theorem throughout_iff_stepwise_along (background : σ → Prop) {property : σ → Prop}
    {guard : σ → ι → Prop}
    (preserved : ∀ {before : σ} {input : ι} {next : σ}, background before → property before →
      step before input = some next → property next → background next)
    (exactly : ∀ {before : σ} {input : ι} {next : σ}, background before → property before →
      step before input = some next → (property next ↔ guard before input))
    {state after : σ} {inputs : List ι} (founded : background state) (initial : property state)
    (completed : run step state inputs = some after) :
    Throughout step property state inputs ↔ Stepwise step guard state inputs := by
  induction inputs generalizing state with
  | nil => exact iff_of_true initial trivial
  | cons input rest ih =>
      obtain ⟨next, taken, remaining⟩ := run_cons completed
      have one := exactly founded initial taken
      have later : property next →
          (Throughout step property next rest ↔ Stepwise step guard next rest) :=
        fun holds => ih (preserved founded initial taken holds) holds remaining
      rw [throughout_cons taken, stepwise_cons taken, and_iff_right initial]
      constructor
      · intro everywhere
        exact ⟨one.mp everywhere.head, (later everywhere.head).mp everywhere⟩
      · intro ⟨here, guarded⟩
        exact (later (one.mpr here)).mpr guarded

/-- The same with a background that every step keeps. -/
theorem throughout_iff_stepwise (background : σ → Prop) {property : σ → Prop}
    {guard : σ → ι → Prop}
    (preserved : ∀ {before : σ} {input : ι} {next : σ}, background before →
      step before input = some next → background next)
    (exactly : ∀ {before : σ} {input : ι} {next : σ}, background before → property before →
      step before input = some next → (property next ↔ guard before input))
    {state after : σ} {inputs : List ι} (founded : background state) (initial : property state)
    (completed : run step state inputs = some after) :
    Throughout step property state inputs ↔ Stepwise step guard state inputs :=
  throughout_iff_stepwise_along background (fun holds _ taken _ => preserved holds taken) exactly
    founded initial completed

end

end Simvoip.Semantics
