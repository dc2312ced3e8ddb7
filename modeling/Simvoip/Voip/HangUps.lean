import Simvoip.Voip.Calls

namespace Simvoip.System

open Simvoip.Data Simvoip.Net Simvoip.Semantics

variable {scenario : Scenario} {s t : System} {queue : EventQueue Action}
  {event : Event Action} {draws : Draws scenario} {call : Call} {inputs : List (Draws scenario)}

/-! # Entries and the calls that made them

`insert` leaves the entry of a caller alone, so an entry belongs to the call that
found none.  Other hang-ups of the caller may end it early, never late.
-/

/-- The entry that the caller of `call` has after a run was inserted by `call`,
and has been there ever since. -/
inductive Inserted (scenario : Scenario) (call : Call) : List (Draws scenario) → System → Prop where
  | insert {inputs : List (Draws scenario)} {s t : System} {draws : Draws scenario}
      (completed : run step (initial scenario) inputs = some s)
      (taken : s.step draws = some t) (absent : call.llamante ∉ s.central.llamadas)
      (logged : t.log.calls = call :: s.log.calls) :
      Inserted scenario call (inputs ++ [draws]) t
  | keep {inputs : List (Draws scenario)} {s t : System} {draws : Draws scenario}
      (before : Inserted scenario call inputs s)
      (taken : s.step draws = some t) (present : call.llamante ∈ t.central.llamadas) :
      Inserted scenario call (inputs ++ [draws]) t

theorem reachable_tracked (completed : run step (initial scenario) inputs = some s) :
    WellFormed scenario s ∧ Tracked s := by
  let invariant (s : System) : Prop := WellFormed scenario s ∧ Tracked s
  have founded : invariant (initial scenario) :=
    ⟨WellFormed.initial scenario, Tracked.initial scenario⟩
  suffices reachable : invariant s from reachable
  refine run_invariant (step_invariant ?_) founded completed
  intro before next queue event draws wellFormed tracked advances change
  exact tracked.step wellFormed advances change

theorem Inserted.completed (inserted : Inserted scenario call inputs s) :
    run step (initial scenario) inputs = some s := by
  induction inserted with
  | insert completed taken absent logged => simp [run_snoc, completed, taken]
  | keep before taken present ih => simp [run_snoc, ih, taken]

/-- A call that appears in the log was set up in the event that just ran. -/
theorem CallChange.logged (change : CallChange s queue draws event t)
    (logged : t.log.calls = call :: s.log.calls) :
    Call.InProgress t call ∧ call.instant = queue.now := by
  have grown : t.log.calls ≠ s.log.calls := by
    rw [logged]
    exact List.cons_ne_self _ _
  cases change with
  | setUp phone action free pending calls entries =>
      rw [calls, List.cons.injEq] at logged
      rw [← logged.1]
      exact ⟨pending, rfl⟩
  | hangUp llamante action calls entries => exact absurd calls grown
  | other action idle calls entries => exact absurd calls grown

/-- The hang-up of a call ends the entry of its caller. -/
theorem CallChange.hungUp (change : CallChange s queue draws event t)
    (hangUp : event.action = .colgar call.llamante) : call.llamante ∉ t.central.llamadas := by
  cases change with
  | hangUp llamante action calls entries =>
      rw [hangUp, Action.colgar.injEq] at action
      rw [entries, action]
      exact fun member => (Finmap.mem_erase.mp member).1 rfl
  | setUp phone action free pending calls entries =>
      rw [hangUp] at action
      cases action
  | other action idle calls entries => exact absurd hangUp (action call.llamante)

theorem Inserted.inProgress (inserted : Inserted scenario call inputs s) :
    call ∈ s.log.calls ∧ Call.InProgress s call := by
  induction inserted with
  | insert completed taken absent logged =>
      obtain ⟨wellFormed, _⟩ := reachable_tracked completed
      obtain ⟨event, queue, _, change⟩ := step_cases wellFormed taken
      rw [logged]
      exact ⟨List.mem_cons_self, (change.calls.logged logged).1⟩
  | keep before taken present ih =>
      obtain ⟨wellFormed, tracked⟩ := reachable_tracked before.completed
      obtain ⟨event, queue, advances, change⟩ := step_cases wellFormed taken
      obtain ⟨old, progress⟩ := ih
      refine ⟨change.calls.old call old, ?_⟩
      refine (inProgress_step wellFormed tracked advances change old).mpr
        ⟨progress, fun current => ?_⟩
      have hangUp := tracked.hangsUp call old
      rw [current] at hangUp
      exact change.calls.hungUp hangUp present

/-- A call whose hang-up has run left no entry, so one that is there was inserted
later. -/
theorem Inserted.renewed {later : Call} (inserted : Inserted scenario later inputs s)
    (member : call ∈ s.log.calls) (ended : ¬ Call.InProgress s call)
    (same : later.llamante = call.llamante) : call.colgar.time ≤ later.instant := by
  induction inserted with
  | insert completed taken absent logged =>
      obtain ⟨wellFormed, tracked⟩ := reachable_tracked completed
      obtain ⟨event, queue, advances, change⟩ := step_cases wellFormed taken
      have after := tracked.step wellFormed advances change
      have past := (after.runs call member).resolve_left ended
      rw [(change.calls.logged logged).2, ← change.now]
      exact past
  | keep before taken present ih =>
      obtain ⟨wellFormed, tracked⟩ := reachable_tracked before.completed
      obtain ⟨event, queue, advances, change⟩ := step_cases wellFormed taken
      rcases change.calls.cases call member with old | ⟨_, _, _, progress⟩
      · refine ih old fun progress => ?_
        have current : call.colgar = event := by
          by_contra different
          exact ended ((inProgress_step wellFormed tracked advances change old).mpr
            ⟨progress, different⟩)
        have hangUp := tracked.hangsUp call old
        rw [current, ← same] at hangUp
        exact change.calls.hungUp hangUp present
      · exact absurd progress ended

theorem exists_inserted (completed : run step (initial scenario) inputs = some s) :
    ∀ llamante ∈ s.central.llamadas, ∃ call, Inserted scenario call inputs s ∧
      call.llamante = llamante := by
  refine run_history (motive := fun inputs s => ∀ llamante ∈ s.central.llamadas,
    ∃ call, Inserted scenario call inputs s ∧ call.llamante = llamante) ?_ ?_ completed
  · simp [(Untouched.initial scenario).entries, Finmap.notMem_empty]
  · intro inputs s draws t completed ih taken llamante member
    obtain ⟨wellFormed, _⟩ := reachable_tracked completed
    obtain ⟨event, queue, _, change⟩ := step_cases wellFormed taken
    by_cases before : llamante ∈ s.central.llamadas
    · obtain ⟨call, inserted, rfl⟩ := ih llamante before
      exact ⟨call, inserted.keep taken member, rfl⟩
    · cases change.calls with
      | setUp phone action free pending calls entries =>
          have own : llamante = phone := by
            by_contra different
            rw [entries] at member
            exact before (StdMap.mem_of_mem_emplace member different)
          subst own
          exact ⟨_, .insert completed taken before calls, rfl⟩
      | hangUp caller action calls entries =>
          rw [entries] at member
          exact absurd (Finmap.mem_erase.mp member).2 before
      | other action idle calls entries =>
          rw [entries] at member
          exact absurd member before

/-- In every state of a run each entry of the exchange was inserted by a call
whose own hang-up is still to come, when the duration of that call is over; and
once the hang-up of a call has run, its caller has no entry or a later one. -/
theorem hung_up (scenario : Scenario) (inputs : List (Draws scenario)) (s : System)
    (completed : run step (initial scenario) inputs = some s) :
    (∀ llamante ∈ s.central.llamadas, ∃ call, Inserted scenario call inputs s ∧
      call.llamante = llamante ∧ ∃ colgar ∈ s.queue.pending, colgar = call.colgar ∧
        colgar.action = .colgar llamante ∧ colgar.time = call.instant + call.duracion) ∧
    ∀ call ∈ s.log.calls, call.colgar ∉ s.queue.pending →
      call.llamante ∉ s.central.llamadas ∨
        ∃ later, Inserted scenario later inputs s ∧ later.llamante = call.llamante ∧
          call.instant + call.duracion ≤ later.instant := by
  obtain ⟨_, tracked⟩ := reachable_tracked completed
  constructor
  · intro llamante member
    obtain ⟨call, inserted, rfl⟩ := exists_inserted completed llamante member
    obtain ⟨logged, progress⟩ := inserted.inProgress
    exact ⟨call, inserted, rfl, call.colgar, progress, rfl, tracked.hangsUp call logged,
      tracked.punctual call logged⟩
  · intro call member ended
    by_cases present : call.llamante ∈ s.central.llamadas
    · obtain ⟨later, inserted, same⟩ := exists_inserted completed call.llamante present
      have renewed := inserted.renewed member ended same
      rw [tracked.punctual call member] at renewed
      exact .inr ⟨later, inserted, same, renewed⟩
    · exact .inl present

/-- Phone 0 has two calls in progress, and one of them inserted its entry. -/
theorem hung_up_overlapping :
    ∃ s, run step (initial twoPhones) (overlapping.take 9) = some s ∧
      ∃ call, Inserted twoPhones call (overlapping.take 9) s ∧ call.llamante = 0 ∧
        ∃ colgar ∈ s.queue.pending, colgar = call.colgar ∧ colgar.action = .colgar 0 ∧
          colgar.time = call.instant + call.duracion := by
  have calling : ∃ s, run step (initial twoPhones) (overlapping.take 9) = some s ∧
      0 ∈ s.central.llamadas := exists_run (by decide +kernel)
  obtain ⟨s, completed, member⟩ := calling
  exact ⟨s, completed, (hung_up twoPhones (overlapping.take 9) s completed).1 0 member⟩

end Simvoip.System
