import Simvoip.Voip.Step

namespace Simvoip.System

open Simvoip.Data Simvoip.Net Simvoip.Semantics

variable {scenario : Scenario} {s t : System} {queue : EventQueue Action}
  {event : Event Action} {draws : Draws scenario} {phone : Nat}

/-! # The senders of the calls

A call is announced to its callee by an event of the same instant.  A sender is known
by the phone it was installed at, the instant it was installed in and the event that
installed it.
-/

structure Origin where
  phone : Nat
  start : Nat
  event : Event Action
deriving DecidableEq

def Leg.origin (leg : Leg) : Origin where
  phone := leg.phone
  start := leg.start
  event := leg.event

/-- The senders that a call is to have. -/
def Call.ends (call : Call) : List Origin := [
  { phone := call.llamante, start := call.instant, event := call.event },
  { phone := call.llamado, start := call.instant, event := call.descuelga }]

def announced (event : Event Action) : Option Origin :=
  match event.action with
  | .descuelga phone _ _ => some { phone, start := event.time, event }
  | _ => none

/-- What is installed, and what is about to be. -/
def senders (s : System) : List Origin :=
  s.log.legs.map Leg.origin ++ s.queue.pending.filterMap announced

/-- Every sender is an end of one call, and answers are never late. -/
structure TwoEnded (s : System) : Prop where
  ends : (senders s).Perm (s.log.calls.flatMap Call.ends)
  prompt : ∀ event ∈ s.queue.pending, (announced event).isSome → event.time = s.queue.now

theorem announced_schedule {delay : Nat} {action : Action} :
    (queue.schedule delay action).pending.filterMap announced =
      queue.pending.filterMap announced ++ (announced (queue.scheduled delay action)).toList := by
  rw [EventQueue.schedule, List.filterMap_append]
  cases answers : announced (queue.scheduled delay action) with
  | none => simp [answers]
  | some origin => simp [answers]

/-- A phone never cancels an answer. -/
theorem announced_cancel (wellFormed : WellFormed scenario s)
    (advances : EventQueue.Advances s.queue event queue) :
    (queue.cancel (s.voips phone).proximallamada).pending.filterMap announced =
      queue.pending.filterMap announced := by
  rw [EventQueue.cancel, List.filterMap_filter]
  refine List.filterMap_congr fun other member => ?_
  by_cases slot : some other.uid = (s.voips phone).proximallamada
  · have pending := ((advances.remaining other).mp member).1
    have llama := (wellFormed.slot phone other.uid slot.symm).2 other pending rfl
    simp [announced, llama]
  · simp [slot]

theorem ends_step (wellFormed : WellFormed scenario s)
    (ends : (senders s).Perm (s.log.calls.flatMap Call.ends))
    (advances : EventQueue.Advances s.queue event queue)
    (change : Transition scenario s queue draws event t) :
    (senders t).Perm (t.log.calls.flatMap Call.ends) := by
  have parts : (senders s).Perm (s.log.legs.map Leg.origin ++
      ((announced event).toList ++ queue.pending.filterMap announced)) := by
    refine List.Perm.append_left _ ((advances.perm.filterMap announced).trans ?_)
    cases answers : announced event with
    | none => simp [answers]
    | some origin => simp [answers]
  have before := parts.symm.trans ends
  cases change with
  | stop phone action | colgar llamante action =>
      simpa [announced, action, senders] using before
  | start phone action | busy phone action busy | cuelga phone action =>
      simpa [announced, action, senders, announced_schedule] using before
  | setUp phone action free =>
      simp only [announced, action, Option.toList_none, List.nil_append] at before
      simp only [senders, callEvents, announced_schedule, List.map_cons, List.flatMap_cons]
      simp only [announced, EventQueue.scheduled_action, Option.toList_some, Option.toList_none,
        List.append_nil, Call.ends, newCall, List.cons_append, List.nil_append]
      refine .cons _ ?_
      rw [← List.append_assoc]
      exact (List.perm_append_singleton _ _).trans (.cons _ before)
  | descuelga phone destino duracion action =>
      simp only [announced, action, Option.toList_some] at before
      simp only [senders, announced_schedule, announced_cancel wellFormed advances,
        List.map_cons, Leg.origin, calleeLeg, advances.clock]
      simp only [announced, EventQueue.scheduled_action, Option.toList_none, List.append_nil]
      exact List.perm_middle.symm.trans before

theorem prompt_step
    (prompt : ∀ event ∈ s.queue.pending, (announced event).isSome → event.time = s.queue.now)
    (advances : EventQueue.Advances s.queue event queue)
    (change : Transition scenario s queue draws event t) :
    ∀ other ∈ t.queue.pending, (announced other).isSome → other.time = t.queue.now := by
  intro other member answers
  rw [change.now]
  have kept : other ∈ queue.pending → other.time = queue.now := by
    intro old
    have pending := ((advances.remaining other).mp old).1
    have now := prompt other pending answers
    have first := advances.first other pending
    have present := s.queue.due event advances.member
    have clock := advances.clock
    omega
  cases change with
  | stop phone action | colgar llamante action => exact kept member
  | start phone action | busy phone action busy | cuelga phone action =>
      rcases EventQueue.mem_schedule.mp member with old | rfl
      · exact kept old
      · simp [announced] at answers
  | setUp phone action free =>
      rcases (mem_callEvents s event).mp member with old | rfl | rfl | rfl
      · exact kept old
      · simp [announced, newCall] at answers
      · rfl
      · simp [announced, callerLeg] at answers
  | descuelga phone destino duracion action =>
      rcases EventQueue.mem_schedule.mp member with old | rfl
      · exact kept (EventQueue.mem_cancel.mp old).1
      · simp [announced] at answers

theorem TwoEnded.initial (scenario : Scenario) : TwoEnded (initial scenario) := by
  have untouched := Untouched.initial scenario
  have silent : ∀ event ∈ (System.initial scenario).queue.pending, announced event = none := by
    intro event member
    obtain ⟨phone, start | stop⟩ := untouched.events event member
    · simp [announced, start]
    · simp [announced, stop]
  constructor
  · rw [senders, untouched.legs, untouched.calls, List.filterMap_eq_nil_iff.mpr silent]
    rfl
  · intro event member answers
    rw [silent event member] at answers
    cases answers

/-- In every state of every run the senders that are installed, with those that
answers of this instant will install, are the two ends of every call, each of them
once; so when an instant is over, every call has its two senders and there are no
others. -/
theorem two_senders (scenario : Scenario) (inputs : List (Draws scenario)) :
    Throughout step (fun s => (senders s).Perm (s.log.calls.flatMap Call.ends) ∧
        (s.queue.Quiescent → (s.log.legs.map Leg.origin).Perm (s.log.calls.flatMap Call.ends)))
      (initial scenario) inputs := by
  have preserved : ∀ {before : System} {draws : Draws scenario} {next : System},
      WellFormed scenario before ∧ TwoEnded before → before.step draws = some next →
        WellFormed scenario next ∧ TwoEnded next := by
    intro before draws next founded taken
    refine step_invariant ?_ founded taken
    intro before next queue event draws wellFormed ended advances change
    exact ⟨ends_step wellFormed ended.ends advances change,
      prompt_step ended.prompt advances change⟩
  refine (throughout_of_invariant preserved
    ⟨WellFormed.initial scenario, TwoEnded.initial scenario⟩).mono ?_
  intro s ⟨_, ended⟩
  refine ⟨ended.ends, fun quiescent => ?_⟩
  have none : s.queue.pending.filterMap announced = [] := by
    refine List.filterMap_eq_nil_iff.mpr fun event member => ?_
    by_contra answers
    have now := ended.prompt event member (Option.isSome_iff_ne_none.mpr answers)
    exact Nat.ne_of_lt (quiescent event member) now.symm
  have ends := ended.ends
  rw [senders, none, List.append_nil] at ends
  exact ends

end Simvoip.System
