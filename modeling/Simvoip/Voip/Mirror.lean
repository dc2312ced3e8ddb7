import Simvoip.Voip.Step

namespace Simvoip.System

open Simvoip.Data Simvoip.Net Simvoip.Semantics

variable {scenario : Scenario} {s t : System} {queue : EventQueue Action}
  {event : Event Action} {draws : Draws scenario} {phone : Nat}

/-! # The two legs of a call

`Llama` installs the sender of the caller in its own event, `Descuelga` the one
of the callee in the event that the call announced.
-/

structure Mirror (scenario : Scenario) (call : Call) (outgoing incoming : Leg) : Prop where
  addressed : ∃ port,
    outgoing.sender.remote = .inetSocket (scenario.address call.llamado) port ∧
      incoming.sender.remote = .inetSocket (scenario.address call.llamante) port
  sizes : outgoing.sender.packetSize = scenario.tamPkt ∧
    incoming.sender.packetSize = scenario.tamPkt
  hangUps : outgoing.cuelga.time = call.instant + call.duracion ∧
    incoming.cuelga.time = call.instant + call.duracion ∧
    call.colgar.time = call.instant + call.duracion

/-- Every call has the leg of its caller, and the leg of its callee once it was
answered; an answering phone sends to the bare address that was announced. -/
structure Recorded (scenario : Scenario) (s : System) : Prop where
  known : ∀ call ∈ s.log.calls, call.descuelga.uid < s.queue.nextUid
  announced : ∀ call ∈ s.log.calls, call.descuelga.action =
    .descuelga call.llamado (.ipv4 (scenario.address call.llamante)) call.duracion
  outgoing : ∀ call ∈ s.log.calls, ∃ leg ∈ s.log.legs,
    leg.event = call.event ∧ leg.phone = call.llamante
  incoming : ∀ call ∈ s.log.calls, call.descuelga ∈ s.queue.pending ∨
    ∃ leg ∈ s.log.legs, leg.event = call.descuelga ∧ leg.phone = call.llamado
  answered : ∀ leg ∈ s.log.legs, ∀ phone destino duracion,
    leg.event.action = .descuelga phone destino duracion → leg.sender.remote = destino

theorem Transition.newLegs (change : Transition scenario s queue draws event t) :
    ∀ leg ∈ t.log.legs, leg ∈ s.log.legs ∨
      (∃ phone, event.action = .llama phone ∧ leg = callerLeg s queue draws event phone) ∨
      ∃ phone destino duracion, event.action = .descuelga phone destino duracion ∧
        leg = calleeLeg s queue event phone destino := by
  intro leg member
  cases change with
  | start phone action | stop phone action | busy phone action busy | cuelga phone action
  | colgar llamante action => exact .inl member
  | setUp phone action free =>
      rcases List.mem_cons.mp member with rfl | old
      · exact .inr (.inl ⟨phone, action, rfl⟩)
      · exact .inl old
  | descuelga phone destino duracion action =>
      rcases List.mem_cons.mp member with rfl | old
      · exact .inr (.inr ⟨phone, destino, duracion, action, rfl⟩)
      · exact .inl old

theorem Transition.oldLegs (change : Transition scenario s queue draws event t) :
    ∀ leg ∈ s.log.legs, leg ∈ t.log.legs := by
  intro leg member
  cases change with
  | start phone action | stop phone action | busy phone action busy | cuelga phone action
  | colgar llamante action => exact member
  | setUp phone action free | descuelga phone destino duracion action =>
      exact List.mem_cons_of_mem _ member

theorem Transition.answers (change : Transition scenario s queue draws event t)
    {destino : Address} {duracion : Nat}
    (answer : event.action = .descuelga phone destino duracion) :
    ∃ leg ∈ t.log.legs, leg.event = event ∧ leg.phone = phone := by
  cases change with
  | start phone action | stop phone action | busy phone action busy | cuelga phone action
  | colgar llamante action | setUp phone action free =>
      rw [action] at answer
      cases answer
  | descuelga phone destino duracion action =>
      rw [action] at answer
      cases answer
      exact ⟨_, List.mem_cons_self, rfl, rfl⟩

theorem Transition.newCalls (change : Transition scenario s queue draws event t) :
    ∀ call ∈ t.log.calls, call ∈ s.log.calls ∨ ∃ phone,
      call = newCall queue draws event phone ∧ call.descuelga ∈ t.queue.pending ∧
        callerLeg s queue draws event phone ∈ t.log.legs := by
  intro call member
  cases change with
  | start phone action | stop phone action | busy phone action busy | cuelga phone action
  | colgar llamante action | descuelga phone destino duracion action => exact .inl member
  | setUp phone action free =>
      rcases List.mem_cons.mp member with rfl | old
      · have pending : (newCall queue draws event phone).descuelga ∈
            (callEvents queue draws phone).pending :=
          (mem_callEvents s event).mpr (.inr (.inr (.inl rfl)))
        exact .inr ⟨phone, rfl, pending, List.mem_cons_self⟩
      · exact .inl old

theorem Recorded.step (wellFormed : WellFormed scenario s) (recorded : Recorded scenario s)
    (advances : EventQueue.Advances s.queue event queue)
    (change : Transition scenario s queue draws event t) : Recorded scenario t := by
  have later : s.queue.nextUid ≤ t.queue.nextUid := advances.counter ▸ change.nextUid_le
  constructor
  · intro call member
    rcases change.newCalls call member with old | ⟨_, _, pending, _⟩
    · exact Nat.lt_of_lt_of_le (recorded.known call old) later
    · exact t.queue.fresh _ pending
  · intro call member
    rcases change.newCalls call member with old | ⟨phone, rfl, _, _⟩
    · exact recorded.announced call old
    · rfl
  · intro call member
    rcases change.newCalls call member with old | ⟨phone, rfl, _, leg⟩
    · obtain ⟨leg, present, same⟩ := recorded.outgoing call old
      exact ⟨leg, change.oldLegs leg present, same⟩
    · exact ⟨_, leg, rfl, rfl⟩
  · intro call member
    rcases change.newCalls call member with old | ⟨phone, rfl, pending, _⟩
    · rcases recorded.incoming call old with pending | ⟨leg, present, same⟩
      · by_cases current : call.descuelga = event
        · have answer := recorded.announced call old
          rw [current] at answer ⊢
          exact .inr (change.answers answer)
        · left
          refine (step_kept wellFormed advances change (recorded.known call old) ?_).mpr
            ⟨pending, current⟩
          intro phone
          rw [recorded.announced call old]
          simp
      · exact .inr ⟨leg, change.oldLegs leg present, same⟩
    · exact .inl pending
  · intro leg member phone destino duracion answer
    rcases change.newLegs leg member with old | ⟨caller, action, rfl⟩ | ⟨_, _, _, action, rfl⟩
    · exact recorded.answered leg old phone destino duracion answer
    · simp [callerLeg, action] at answer
    · simp only [calleeLeg, action, Action.descuelga.injEq] at answer
      exact answer.2.1

theorem Recorded.initial (scenario : Scenario) : Recorded scenario (initial scenario) := by
  have untouched := Untouched.initial scenario
  constructor
  · simp [untouched.calls]
  · simp [untouched.calls]
  · simp [untouched.calls]
  · simp [untouched.calls]
  · simp [untouched.legs]

theorem not_mirror (recorded : Recorded scenario s) {call : Call} (known : call ∈ s.log.calls)
    {outgoing incoming : Leg} (installed : incoming ∈ s.log.legs)
    (answers : incoming.event = call.descuelga) :
    ¬ Mirror scenario call outgoing incoming := by
  intro mirror
  obtain ⟨port, _, addressed⟩ := mirror.addressed
  have announced := recorded.announced call known
  rw [← answers] at announced
  rw [recorded.answered incoming installed _ _ _ announced] at addressed
  cases addressed

/-- In every state of a run, every call has the leg of its caller and, once
answered, the leg of its callee, and these two never mirror each other. -/
theorem mirror_never (scenario : Scenario) (inputs : List (Draws scenario)) :
    Throughout step (fun s => ∀ call ∈ s.log.calls,
      (∃ leg ∈ s.log.legs, leg.event = call.event ∧ leg.phone = call.llamante) ∧
      (call.descuelga ∈ s.queue.pending ∨
        ∃ leg ∈ s.log.legs, leg.event = call.descuelga ∧ leg.phone = call.llamado) ∧
      ∀ outgoing ∈ s.log.legs, ∀ incoming ∈ s.log.legs, outgoing.event = call.event →
        incoming.event = call.descuelga → ¬ Mirror scenario call outgoing incoming)
      (initial scenario) inputs := by
  have recorded : Throughout step (fun s => WellFormed scenario s ∧ Recorded scenario s)
      (initial scenario) inputs := by
    refine throughout_of_invariant (step_invariant ?_)
      ⟨WellFormed.initial scenario, Recorded.initial scenario⟩
    intro before next queue event draws wellFormed recorded advances change
    exact recorded.step wellFormed advances change
  refine recorded.mono fun s ⟨_, recorded⟩ call known => ?_
  refine ⟨recorded.outgoing call known, recorded.incoming call known, ?_⟩
  intro outgoing _ incoming installed _ answers
  exact not_mirror recorded known installed answers

def answered : List (Draws twoPhones) := [
  ⟨10, 0, (0 : Fin 2)⟩, ⟨1000, 0, (0 : Fin 2)⟩, ⟨0, 5, (1 : Fin 2)⟩, ⟨0, 0, (0 : Fin 2)⟩]

theorem mirror_fails :
    ∃ after, run step (initial twoPhones) answered = some after ∧
      ∃ call ∈ after.log.calls, ∃ outgoing ∈ after.log.legs, ∃ incoming ∈ after.log.legs,
        outgoing.event = call.event ∧ incoming.event = call.descuelga ∧
          ¬ Mirror twoPhones call outgoing incoming := by
  have early : ∃ after, run step (initial twoPhones) answered = some after ∧
      ∃ call ∈ after.log.calls, ∃ outgoing ∈ after.log.legs, ∃ incoming ∈ after.log.legs,
        outgoing.event = call.event ∧ incoming.event = call.descuelga ∧
          incoming.cuelga.time ≠ call.instant + call.duracion :=
    exists_run (by decide +kernel)
  obtain ⟨after, completed, call, known, outgoing, installed, incoming, installed', own, answers,
    different⟩ := early
  exact ⟨after, completed, call, known, outgoing, installed, incoming, installed', own, answers,
    fun mirror => different mirror.hangUps.2.1⟩

end Simvoip.System
