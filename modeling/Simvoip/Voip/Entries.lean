import Simvoip.Observador.Average
import Simvoip.Voip.Peak

namespace Simvoip.System

open Simvoip.Data Simvoip.Net Simvoip.Semantics

variable {scenario : Scenario} {s t : System} {queue : EventQueue Action}
  {event : Event Action} {draws : Draws scenario} {phone : Nat}

/-! # How many calls the exchange counts

The exchange counts callers, so it never counts more calls than there are phones,
however many are in progress.
-/

def LoadSample (scenario : Scenario) (sample : ℚ) : Prop := 1 ≤ sample ∧ sample ≤ scenario.phones

/-- Phones call phones, and the observer was given one count for every call. -/
structure Counted (scenario : Scenario) (s : System) : Prop where
  callers : ∀ llamante llamado, s.central.llamadas.lookup llamante = some llamado →
    llamante < scenario.phones ∧ llamado < scenario.phones
  samples : ∃ samples : List ℚ, s.observador.acNumLlamadas = Average.ofSamples samples ∧
    samples.length = s.log.calls.length ∧ ∀ sample ∈ samples, LoadSample scenario sample

theorem size_le_phones {llamadas : StdMap Nat Nat}
    (callers : ∀ llamante llamado, llamadas.lookup llamante = some llamado →
      llamante < scenario.phones ∧ llamado < scenario.phones) :
    llamadas.size ≤ scenario.phones := by
  have covered : llamadas.keys ⊆ Finset.range scenario.phones := by
    intro llamante member
    obtain ⟨llamado, found⟩ := Finmap.mem_iff.mp (Finmap.mem_keys.mp member)
    exact Finset.mem_range.mpr (callers llamante llamado found).1
  calc llamadas.size
    _ ≤ (Finset.range scenario.phones).card := Finset.card_le_card covered
    _ = scenario.phones := Finset.card_range _

theorem callers_emplace (inside : phone < scenario.phones)
    (callers : ∀ llamante llamado, s.central.llamadas.lookup llamante = some llamado →
      llamante < scenario.phones ∧ llamado < scenario.phones) :
    ∀ llamante llamado,
      (s.central.llamadas.emplace phone draws.llamado).lookup llamante = some llamado →
        llamante < scenario.phones ∧ llamado < scenario.phones := by
  intro llamante llamado found
  by_cases present : phone ∈ s.central.llamadas
  · rw [StdMap.emplace_of_mem _ present] at found
    exact callers llamante llamado found
  · rw [StdMap.emplace_of_notMem _ present, StdMap.lookup_insert_iff] at found
    rcases found with ⟨rfl, rfl⟩ | ⟨_, found⟩
    · exact ⟨inside, draws.llamado.isLt⟩
    · exact callers llamante llamado found

theorem emplace_sample {llamadas : StdMap Nat Nat} {llamado : Nat}
    (fewer : (llamadas.emplace phone llamado).size ≤ scenario.phones) :
    LoadSample scenario ((llamadas.emplace phone llamado).size : ℚ) := by
  have some : 0 < (llamadas.emplace phone llamado).size :=
    Finset.card_pos.mpr ⟨phone, Finmap.mem_keys.mpr StdMap.mem_emplace⟩
  exact ⟨Nat.one_le_cast.mpr some, Nat.cast_le.mpr fewer⟩

theorem Counted.step (wellFormed : WellFormed scenario s) (counted : Counted scenario s)
    (advances : EventQueue.Advances s.queue event queue)
    (change : Transition scenario s queue draws event t) : Counted scenario t := by
  have inside := wellFormed.actors event advances.member
  cases change with
  | start phone action | stop phone action | busy phone action busy | cuelga phone action
  | descuelga phone destino duracion action => exact ⟨counted.callers, counted.samples⟩
  | colgar llamante action =>
      refine ⟨?_, counted.samples⟩
      intro caller llamado found
      exact counted.callers caller llamado (StdMap.lookup_erase_iff.mp found).2
  | setUp phone action free =>
      rw [action] at inside
      have callers := @callers_emplace scenario s draws phone inside counted.callers
      refine ⟨callers, ?_⟩
      obtain ⟨samples, given, length, each⟩ := counted.samples
      refine ⟨samples ++ [((s.central.llamadas.emplace phone draws.llamado).size : ℚ)], ?_, ?_, ?_⟩
      · rw [Average.ofSamples_concat, ← given]
        rfl
      · simp [length]
      · intro sample member
        rcases List.mem_append.mp member with old | new
        · exact each sample old
        · rw [List.mem_singleton.mp new]
          exact emplace_sample (size_le_phones callers)

theorem Counted.initial (scenario : Scenario) : Counted scenario (initial scenario) := by
  have untouched := Untouched.initial scenario
  constructor
  · simp [untouched.entries]
  · exact ⟨[], by rw [observador_initial]; rfl, by rw [untouched.calls]; rfl, by simp⟩

/-- What the exchange and the observer report of the load. -/
structure Reported (scenario : Scenario) (s : System) : Prop where
  current : s.central.getNumLlamadas ≤ scenario.phones
  maximum : s.observador.getMaxLlamadas ≤ scenario.phones
  none : s.log.calls = [] →
    s.observador.getMaxLlamadas = 0 ∧ s.observador.getMediaLlamadas = none
  media : s.log.calls ≠ [] → ∃ media, s.observador.getMediaLlamadas = some media ∧
    1 ≤ media ∧ media ≤ s.observador.getMaxLlamadas

theorem Counted.reported (counted : Counted scenario s) : Reported scenario s := by
  obtain ⟨samples, given, length, each⟩ := counted.samples
  have empty : samples = [] ↔ s.log.calls = [] := by
    rw [← List.length_eq_zero_iff, length, List.length_eq_zero_iff]
  constructor
  · exact size_le_phones counted.callers
  · rw [Observador.getMaxLlamadas, given, Average.maximum_ofSamples_le]
    exact ⟨Nat.cast_nonneg _, fun sample member => (each sample member).2⟩
  · intro silent
    rw [Observador.getMaxLlamadas, Observador.getMediaLlamadas, given, empty.mpr silent]
    exact ⟨rfl, rfl⟩
  · intro called
    have several : samples ≠ [] := fun none => called (empty.mp none)
    refine ⟨Average.sampleMean samples, ?_, ?_, ?_⟩
    · rw [Observador.getMediaLlamadas, given, Average.mean_ofSamples, if_neg several]
    · exact Average.le_sampleMean several fun sample member => (each sample member).1
    · rw [Observador.getMaxLlamadas, given]
      have below := Average.maximum_ofSamples_le.mp (le_refl (Average.ofSamples samples).maximum)
      exact Average.sampleMean_le several below.2

/-- In every state of every run, however calls overlap, the exchange counts no more
calls than there are phones; once a call was set up, the reported mean lies between
one and the reported maximum, and the maximum is no more than the number of phones. -/
theorem load_reported (scenario : Scenario) (inputs : List (Draws scenario)) :
    Throughout step (Reported scenario) (initial scenario) inputs := by
  have preserved : ∀ {before : System} {draws : Draws scenario} {next : System},
      WellFormed scenario before ∧ Counted scenario before → before.step draws = some next →
        WellFormed scenario next ∧ Counted scenario next := by
    intro before draws next founded taken
    refine step_invariant ?_ founded taken
    intro before next queue event draws wellFormed counted advances change
    exact counted.step wellFormed advances change
  exact (throughout_of_invariant preserved
    ⟨WellFormed.initial scenario, Counted.initial scenario⟩).mono fun _ holds => holds.2.reported

/-! ## What is reported and what is in progress -/

/-- The observer is only told the number of entries that a call leaves. -/
theorem Transition.told (change : Transition scenario s queue draws event t) :
    t.observador = s.observador ∨
      t.observador = s.observador.actualizarNumLlamadas t.central.getNumLlamadas := by
  cases change with
  | start phone action | stop phone action | busy phone action busy | cuelga phone action
  | descuelga phone destino duracion action | colgar llamante action => exact .inl rfl
  | setUp phone action free => exact .inr rfl

theorem reported_step (tracked : Tracked t) {peak : ℚ}
    (below : s.observador.getMaxLlamadas ≤ peak)
    (change : Transition scenario s queue draws event t) :
    t.observador.getMaxLlamadas ≤ max peak t.load := by
  rcases change.told with same | told
  · rw [same]
    exact le_max_of_le_left below
  · have entries : (t.central.getNumLlamadas : ℚ) ≤ t.load := Nat.cast_le.mpr tracked.entries_le
    rw [told]
    exact max_le_max below entries

/-- The reported maximum never exceeds the largest number of calls that were in
progress at one time. -/
theorem never_overreports (scenario : Scenario) (inputs : List (Draws scenario)) (after : System)
    (completed : run step (initial scenario) inputs = some after) :
    ∃ peak, IsGreatest (visited step load (initial scenario) inputs) peak ∧
      after.observador.getMaxLlamadas ≤ peak := by
  obtain ⟨watched, reached, rfl⟩ := exists_run_watch load completed
  let invariant (watched : Watched System ℚ) : Prop :=
    WellFormed scenario watched.state ∧ Tracked watched.state ∧
      watched.state.observador.getMaxLlamadas ≤ watched.peak
  have silent : (initial scenario).observador.getMaxLlamadas ≤ (initial scenario).load := by
    rw [observador_initial]
    exact Nat.cast_nonneg _
  have founded : invariant (watching load (initial scenario)) :=
    ⟨WellFormed.initial scenario, Tracked.initial scenario, silent⟩
  suffices reported : invariant watched from ⟨_, run_watch_peak reached, reported.2.2⟩
  refine run_invariant ?_ founded reached
  intro before draws next holds taken
  obtain ⟨wellFormed, tracked, below⟩ := holds
  obtain ⟨t, stepped, rfl⟩ := Option.map_eq_some_iff.mp taken
  obtain ⟨event, queue, advances, change⟩ := step_cases wellFormed stepped
  have later := tracked.step wellFormed advances change
  exact ⟨wellFormed.step stepped, later, reported_step later below change⟩

/-- Phone 0 has two calls in progress and one entry. -/
theorem never_overreports_overlapping : ∃ after,
    run step (initial twoPhones) (overlapping.take 9) = some after ∧
      ∃ peak, IsGreatest (visited step load (initial twoPhones) (overlapping.take 9)) peak ∧
        after.observador.getMaxLlamadas ≤ peak := by
  obtain ⟨after, completed, _⟩ : ∃ after : System,
      run step (initial twoPhones) (overlapping.take 9) = some after ∧ after.inProgress = 2 :=
    exists_run (by decide +kernel)
  exact ⟨after, completed, never_overreports twoPhones _ after completed⟩

end Simvoip.System
