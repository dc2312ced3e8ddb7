import Simvoip.Voip.Attempts

namespace Simvoip.System

open Simvoip.Data Simvoip.Net Simvoip.Semantics

variable {scenario : Scenario} {s t : System} {queue : EventQueue Action}
  {event : Event Action} {draws : Draws scenario} {phone : Nat}

/-! # No phone goes silent

Every handler of a phone schedules one event of its own in place of the event it
runs in.  `Descuelga` may cancel one on top of that, and schedules one in return.
-/

/-- How many events of its own a phone has before it. -/
def ownEvents (s : System) (phone : Nat) : Nat := s.queue.count (Own phone)

/-- The start of a phone lies behind it. -/
def Started (s : System) (phone : Nat) : Prop := s.queue.Absent (· = .startApplication phone)

def Active (scenario : Scenario) (s : System) : Prop :=
  ∀ phone < scenario.phones, Started s phone → 1 ≤ s.ownEvents phone

def NeverFewer (s : System) (draws : Draws scenario) : Prop :=
  ∀ t, s.step draws = some t → ∀ phone, s.ownEvents phone ≤ t.ownEvents phone

/-- An identifier in the slot of a phone names no event of another phone. -/
theorem count_cancel_of_ne (wellFormed : WellFormed scenario s)
    (advances : EventQueue.Advances s.queue event queue) {number : Nat}
    (different : number ≠ phone) :
    (queue.cancel (s.voips phone).proximallamada).count (Own number) =
      queue.count (Own number) := by
  refine EventQueue.count_cancel_of_not fun other member slot own => ?_
  have pending := ((advances.remaining other).mp member).1
  have llama := (wellFormed.slot phone other.uid slot.symm).2 other pending rfl
  exact different (own.unique (.inl llama)).symm

theorem ownEvents_step (wellFormed : WellFormed scenario s)
    (advances : EventQueue.Advances s.queue event queue)
    (change : Transition scenario s queue draws event t) (number : Nat) :
    s.ownEvents number ≤ t.ownEvents number := by
  unfold ownEvents
  rw [advances.count]
  cases change with
  | stop phone action | colgar llamante action =>
      simp [action, Own]
  | start phone action =>
      rw [EventQueue.count_schedule]
      simp [action, Own]
  | busy phone action busy =>
      rw [EventQueue.count_schedule]
      simp [action, Own]
  | cuelga phone action =>
      rw [EventQueue.count_schedule]
      simp [action, Own]
  | setUp phone action free =>
      rw [callEvents, EventQueue.count_schedule, EventQueue.count_schedule,
        EventQueue.count_schedule]
      simp [action, Own]
  | descuelga phone destino duracion action =>
      rw [EventQueue.count_schedule]
      by_cases same : number = phone
      · subst same
        have cancelled : queue.count (Own number) ≤
            (queue.cancel (s.voips number).proximallamada).count (Own number) + 1 :=
          EventQueue.count_le_count_cancel _
        simp only [action, Own, reduceCtorEq, or_self, if_false, or_true, if_true, Nat.add_zero]
        exact cancelled
      · rw [count_cancel_of_ne wellFormed advances same]
        simp [action, Own]

theorem Active.step (wellFormed : WellFormed scenario s) (active : Active scenario s)
    (advances : EventQueue.Advances s.queue event queue)
    (change : Transition scenario s queue draws event t) : Active scenario t := by
  intro phone inside started
  by_cases before : Started s phone
  · exact Nat.le_trans (active phone inside before) (ownEvents_step wellFormed advances change phone)
  · simp only [Started, EventQueue.Absent, not_forall, not_not] at before
    obtain ⟨starting, member, start⟩ := before
    -- the start was pending and is so no more, so it is the event that ran
    have current : starting = event := by
      by_contra different
      refine started starting ((step_kept wellFormed advances change
        (s.queue.fresh starting member) ?_).mpr ⟨member, different⟩) start
      simp [start]
    rw [current] at start
    cases change with
    | start other action =>
        rw [start, Action.startApplication.injEq] at action
        subst action
        refine EventQueue.count_pos_iff.mpr ⟨_, EventQueue.mem_schedule.mpr (.inr rfl), .inl rfl⟩
    | stop other action | busy other action | setUp other action | cuelga other action
    | descuelga other destino duracion action | colgar llamante action =>
        rw [start] at action
        cases action

theorem Active.initial (scenario : Scenario) : Active scenario (initial scenario) := by
  suffices pending : ∀ count, ∀ phone < count,
      ∃ event ∈ (System.constructed scenario count).queue.pending,
        event.action = .startApplication phone by
    intro phone inside started
    obtain ⟨event, member, start⟩ := pending scenario.phones phone inside
    exact absurd start (started event member)
  intro count
  induction count with
  | zero => simp
  | succ count ih =>
      intro phone inside
      simp only [System.constructed, newVoip, EventQueue.mem_schedule]
      rcases Nat.lt_succ_iff_lt_or_eq.mp inside with earlier | rfl
      · obtain ⟨event, member, start⟩ := ih phone earlier
        exact ⟨event, .inl (.inl member), start⟩
      · exact ⟨_, .inl (.inr rfl), rfl⟩

/-- From its start on a phone has an event of its own before it in every state
of every run, and no step of a run takes one away. -/
theorem never_silent (scenario : Scenario) (inputs : List (Draws scenario)) :
    Throughout step (Active scenario) (initial scenario) inputs ∧
      Stepwise step NeverFewer (initial scenario) inputs := by
  have preserved : ∀ {before : System} {draws : Draws scenario} {next : System},
      WellFormed scenario before ∧ Active scenario before → before.step draws = some next →
        WellFormed scenario next ∧ Active scenario next := by
    intro before draws next founded taken
    refine step_invariant ?_ founded taken
    intro before next queue event draws wellFormed active advances change
    exact active.step wellFormed advances change
  have founded := And.intro (WellFormed.initial scenario) (Active.initial scenario)
  constructor
  · exact (throughout_of_invariant preserved founded).mono fun _ holds => holds.2
  · refine stepwise_of_invariant preserved (fun before draws ⟨wellFormed, _⟩ => ?_) founded
    intro next taken phone
    obtain ⟨event, queue, advances, change⟩ := step_cases wellFormed taken
    exact ownEvents_step wellFormed advances change phone

end Simvoip.System
