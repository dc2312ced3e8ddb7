import Mathlib.Data.Nat.Cast.Order.Basic
import Simvoip.Semantics.Peak
import Simvoip.Voip.Calls

namespace Simvoip.System

open Simvoip.Data Simvoip.Net Simvoip.Semantics

variable {scenario : Scenario} {s t : System} {queue : EventQueue Action}
  {event : Event Action} {draws : Draws scenario} {phone : Nat}

/-! # The peak of the calls

The observer samples the number of entries, and only when a call is set up.
-/

instance (s : System) (call : Call) : Decidable (Call.InProgress s call) :=
  inferInstanceAs (Decidable (_ ∈ _))

def inProgress (s : System) : Nat := s.log.calls.countP fun call => Call.InProgress s call

/-- The measure whose largest value the observer is asked for. -/
def load (s : System) : ℚ := s.inProgress

/-- What is set up brings no new peak, or finds an entry for every call in
progress and none of the caller's own. -/
def Sampled (watched : Watched System ℚ) (draws : Draws scenario) : Action → Prop
  | .llama phone =>
      (draws.llamado : Nat) ∈ watched.state.central.llamadas ∨
        ((watched.state.inProgress + 1 : Nat) : ℚ) ≤ watched.peak ∨
          phone ∉ watched.state.central.llamadas ∧
            watched.state.inProgress = watched.state.central.getNumLlamadas
  | _ => True

instance (watched : Watched System ℚ) (draws : Draws scenario) :
    DecidablePred (Sampled watched draws)
  | .llama _ => inferInstanceAs (Decidable (_ ∨ _ ∨ _ ∧ _))
  | .startApplication _ | .stopApplication _ | .cuelga _ | .descuelga _ _ _ | .colgar _ =>
      inferInstanceAs (Decidable True)

/-- Every entry is some call in progress, and no two are the same call. -/
theorem Tracked.entries_le (tracked : Tracked s) : s.central.getNumLlamadas ≤ s.inProgress := by
  have covered : s.central.llamadas.keys ⊆
      ((s.log.calls.filter fun call => Call.InProgress s call).map Call.llamante).toFinset := by
    intro llamante member
    obtain ⟨call, logged, caller, progress⟩ :=
      tracked.supported llamante (Finmap.mem_keys.mp member)
    simp only [List.mem_toFinset, List.mem_map, List.mem_filter, decide_eq_true_eq]
    exact ⟨call, ⟨logged, progress⟩, caller⟩
  calc s.central.getNumLlamadas
    _ ≤ _ := Finset.card_le_card covered
    _ ≤ _ := List.toFinset_card_le _
    _ = s.inProgress := by rw [List.length_map, inProgress, List.countP_eq_length_filter]

theorem inProgress_le (wellFormed : WellFormed scenario s) (tracked : Tracked s)
    (advances : EventQueue.Advances s.queue event queue)
    (change : Transition scenario s queue draws event t) (calls : t.log.calls = s.log.calls) :
    t.inProgress ≤ s.inProgress := by
  rw [inProgress, calls]
  apply List.countP_mono_left
  intro call member progress
  rw [decide_eq_true_eq] at progress ⊢
  exact ((inProgress_step wellFormed tracked advances change member).mp progress).1

theorem inProgress_setUp (wellFormed : WellFormed scenario s) (tracked : Tracked s)
    (advances : EventQueue.Advances s.queue event queue)
    (change : Transition scenario s queue draws event t)
    (action : event.action = .llama phone)
    (pending : Call.InProgress t (newCall queue draws event phone))
    (calls : t.log.calls = newCall queue draws event phone :: s.log.calls) :
    t.inProgress = s.inProgress + 1 := by
  have others : s.log.calls.countP (fun call => Call.InProgress t call) = s.inProgress := by
    apply List.countP_congr
    intro call member
    rw [decide_eq_true_eq, decide_eq_true_eq]
    -- the event that ran is an attempt, no hang-up
    exact inProgress_other wellFormed tracked advances change member (by simp [action])
  have counted := List.countP_cons_of_pos (p := fun call => decide (Call.InProgress t call))
    (l := s.log.calls) (decide_eq_true pending)
  rw [inProgress, calls, counted, others]

theorem getNumLlamadas_emplace (central : Central) (llamado : Nat) :
    (central.llamadas.emplace phone llamado).size =
      if phone ∈ central.llamadas then central.getNumLlamadas else central.getNumLlamadas + 1 := by
  split <;> rename_i present
  · rw [StdMap.emplace_of_mem _ present]
    rfl
  · rw [StdMap.emplace_of_notMem _ present, StdMap.size_insert_of_notMem _ present]
    rfl

theorem max_eq_max_iff {known sample next : ℚ} (below : sample ≤ next) :
    max known sample = max known next ↔ next ≤ known ∨ sample = next := by
  constructor
  · intro same
    rcases le_total next known with covered | beyond
    · exact .inl covered
    · rw [max_eq_right beyond] at same
      rcases max_choice known sample with kept | taken
      · exact .inl (by rw [← same, kept])
      · exact .inr (taken.symm.trans same)
  · rintro (covered | rfl)
    · rw [max_eq_left covered, max_eq_left (le_trans below covered)]
    · rfl

theorem reported_step_iff (wellFormed : WellFormed scenario s) (tracked : Tracked s) {peak : ℚ}
    (bounded : s.load ≤ peak) (reported : s.observador.getMaxLlamadas = peak)
    (advances : EventQueue.Advances s.queue event queue)
    (change : Transition scenario s queue draws event t) :
    t.observador.getMaxLlamadas = max peak t.load ↔
      Sampled { state := s, peak } draws event.action := by
  have quiet : t.log.calls = s.log.calls → t.observador = s.observador →
      t.observador.getMaxLlamadas = max peak t.load := by
    intro calls observador
    have fewer : t.load ≤ s.load :=
      Nat.cast_le.mpr (inProgress_le wellFormed tracked advances change calls)
    rw [observador, reported, max_eq_left (le_trans fewer bounded)]
  cases change with
  | start phone action | stop phone action | cuelga phone action
  | descuelga phone destino duracion action | colgar llamante action =>
      exact iff_of_true (quiet rfl rfl) (by simp [action, Sampled])
  | busy phone action busy =>
      exact iff_of_true (quiet rfl rfl) (by simp [action, Sampled, busy])
  | setUp phone action free =>
      have grown := inProgress_setUp wellFormed tracked advances (.setUp phone action free) action
        ((mem_callEvents s event).mpr (.inr (.inl rfl))) rfl
      have entries := tracked.entries_le
      have sampled : (s.central.llamadas.emplace phone draws.llamado).size ≤ s.inProgress + 1 := by
        rw [getNumLlamadas_emplace]
        split <;> omega
      have exactly : (s.central.llamadas.emplace phone draws.llamado).size = s.inProgress + 1 ↔
          phone ∉ s.central.llamadas ∧ s.inProgress = s.central.getNumLlamadas := by
        rw [getNumLlamadas_emplace]
        split <;> rename_i present
        · exact iff_of_false (by omega) fun sampled => sampled.1 present
        · simp only [present, not_false_eq_true, true_and, Nat.add_right_cancel_iff]
          exact eq_comm
      simp only [action, Sampled, free, false_or, load, grown]
      show max s.observador.getMaxLlamadas
        ((s.central.llamadas.emplace phone draws.llamado).size : ℚ) = _ ↔ _
      rw [reported, max_eq_max_iff (Nat.cast_le.mpr sampled), Nat.cast_inj, exactly]

theorem observador_initial (scenario : Scenario) :
    (initial scenario).observador = .new := by
  suffices fresh : ∀ count, (System.constructed scenario count).observador = .new from
    fresh scenario.phones
  intro count
  induction count with
  | zero => rfl
  | succ phone ih => exact ih

/-- At every moment of a run the observer reports the largest load so far. -/
def ReportsPeak (scenario : Scenario) (inputs : List (Draws scenario)) : Prop :=
  ∀ earlier, earlier <+: inputs → ∀ now, run step (initial scenario) earlier = some now →
    IsGreatest (visited step load (initial scenario) earlier) now.observador.getMaxLlamadas

/-- The observer reports the peak all along a run exactly when every call that is
set up brings a peak it cannot miss. -/
theorem peak_iff (scenario : Scenario) (inputs : List (Draws scenario)) (after : System)
    (completed : run step (initial scenario) inputs = some after) :
    ReportsPeak scenario inputs ↔ Stepwise (watch step load)
      (fun watched draws => watched.state.Upcoming fun event =>
        Sampled watched draws event.action)
      (watching load (initial scenario)) inputs := by
  obtain ⟨watched, reached, _⟩ := exists_run_watch load completed
  have untouched := Untouched.initial scenario
  have silent : (initial scenario).load = 0 := by
    simp [load, inProgress, untouched.calls]
  have unasked : (initial scenario).observador.getMaxLlamadas = 0 := by
    rw [observador_initial]
    rfl
  let background (watched : Watched System ℚ) : Prop :=
    WellFormed scenario watched.state ∧ Tracked watched.state ∧ watched.state.load ≤ watched.peak
  have founded : background (watching load (initial scenario)) :=
    ⟨WellFormed.initial scenario, Tracked.initial scenario, le_refl _⟩
  rw [ReportsPeak, ← throughout_watch_iff]
  apply throughout_iff_stepwise background _ _ founded (unasked.trans silent.symm) reached
  · intro before draws next ⟨wellFormed, tracked, bounded⟩ taken
    obtain ⟨t, stepped, rfl⟩ := Option.map_eq_some_iff.mp taken
    obtain ⟨event, queue, advances, change⟩ := step_cases wellFormed stepped
    exact ⟨wellFormed.step stepped, tracked.step wellFormed advances change, le_max_right _ _⟩
  · intro before draws next ⟨wellFormed, tracked, bounded⟩ reported taken
    obtain ⟨t, stepped, rfl⟩ := Option.map_eq_some_iff.mp taken
    obtain ⟨event, queue, advances, change⟩ := step_cases wellFormed stepped
    rw [upcoming_iff advances]
    exact reported_step_iff wellFormed tracked bounded reported advances change

/-- Phone 0 has two calls in progress and one entry. -/
theorem peak_fails :
    (∃ after, run step (initial twoPhones) (overlapping.take 9) = some after) ∧
      ¬ ReportsPeak twoPhones (overlapping.take 9) := by
  have lower : ∃ after, run step (initial twoPhones) (overlapping.take 9) = some after ∧
      after.observador.getMaxLlamadas < after.load :=
    exists_run (by decide +kernel)
  obtain ⟨after, completed, missed⟩ := lower
  refine ⟨⟨after, completed⟩, fun reports => ?_⟩
  have greatest := reports _ List.prefix_rfl after completed
  have present : after.load ∈ visited step load (initial twoPhones) (overlapping.take 9) :=
    ⟨_, List.prefix_rfl, after, completed, rfl⟩
  exact absurd (greatest.2 present) (not_le.mpr missed)

theorem peak_holds : ReportsPeak twoPhones (overlapping.take 8) :=
  (peak_iff _ _ _ rfl).mpr (by decide +kernel)

end Simvoip.System
