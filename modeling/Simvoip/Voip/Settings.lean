import Mathlib.Tactic.NormNum
import Simvoip.Voip.Mirror

namespace Simvoip.System

open Simvoip.Data Simvoip.Net Simvoip.Semantics

variable {scenario : Scenario} {s t : System} {queue : EventQueue Action}
  {event : Event Action} {draws : Draws scenario} {call : Call} {leg : Leg}

/-! # How the senders of a call are set

What a sender is given depends on its call, on its end of it and on what the phone
was constructed with, and on nothing that happened in between.
-/

def intervalos (remote : Address) (rate : Nat) (packetSize : Nat) : OnOffHelper where
  remote := remote
  rate := rate
  packetSize := packetSize
  onTime := { min := MINONVOIP, max := MAXONVOIP }
  offTime := { min := MINOFFVOIP, max := MAXOFFVOIP }

/-- The sender of the caller. -/
def Call.outgoing (scenario : Scenario) (call : Call) : OnOffHelper :=
  intervalos (.inetSocket (scenario.address call.llamado) port) (scenario.tasa call.llamante)
    scenario.tamPkt

/-- The sender of the callee, which is given no port, and the packet size that
`SetConstantRate` sets by itself. -/
def Call.incoming (scenario : Scenario) (call : Call) : OnOffHelper :=
  intervalos (.ipv4 (scenario.address call.llamante)) (scenario.tasa call.llamado)
    Voip.defaultPacketSize

/-- The leg is one of the two ends of the call. -/
inductive Places (scenario : Scenario) (call : Call) (leg : Leg) : Prop where
  | caller (event : leg.event = call.event) (phone : leg.phone = call.llamante)
      (node : leg.node = scenario.node call.llamante)
      (sender : leg.sender = Call.outgoing scenario call)
  | callee (event : leg.event = call.descuelga) (phone : leg.phone = call.llamado)
      (node : leg.node = scenario.node call.llamado)
      (sender : leg.sender = Call.incoming scenario call)

/-- What a phone was constructed with. -/
structure Constructed (scenario : Scenario) (phone : Nat) (voip : Voip) : Prop where
  tasa : voip.tasa = scenario.tasa phone
  tamPaquete : voip.tamPaquete = scenario.tamPkt
  node : voip.node = scenario.node phone

structure Settled (scenario : Scenario) (s : System) : Prop where
  phones : ∀ phone < scenario.phones, Constructed scenario phone (s.voips phone)
  parties : ∀ call ∈ s.log.calls,
    call.llamante < scenario.phones ∧ call.llamado < scenario.phones
  logged : ∀ event ∈ s.queue.pending, ∀ phone destino duracion,
    event.action = .descuelga phone destino duracion →
      ∃ call ∈ s.log.calls, call.descuelga = event
  legs : ∀ leg ∈ s.log.legs, ∃ call ∈ s.log.calls, Places scenario call leg

theorem Transition.constructed (change : Transition scenario s queue draws event t) {phone : Nat}
    (before : Constructed scenario phone (s.voips phone)) :
    Constructed scenario phone (t.voips phone) := by
  have kept : (t.voips phone).tasa = (s.voips phone).tasa ∧
      (t.voips phone).tamPaquete = (s.voips phone).tamPaquete ∧
        (t.voips phone).node = (s.voips phone).node := by
    cases change with
    | stop | colgar => exact ⟨rfl, rfl, rfl⟩
    | start | busy | setUp | cuelga | descuelga =>
        exact ⟨update_kept Voip.tasa (by rfl) phone, update_kept Voip.tamPaquete (by rfl) phone,
          update_kept Voip.node (by rfl) phone⟩
  obtain ⟨tasa, tamPaquete, node⟩ := kept
  exact ⟨tasa.trans before.tasa, tamPaquete.trans before.tamPaquete, node.trans before.node⟩

theorem Transition.oldCalls (change : Transition scenario s queue draws event t) :
    ∀ call ∈ s.log.calls, call ∈ t.log.calls := by
  intro call member
  cases change with
  | start phone action | stop phone action | busy phone action busy | cuelga phone action
  | colgar llamante action | descuelga phone destino duracion action => exact member
  | setUp phone action free => exact List.mem_cons_of_mem _ member

theorem places_caller {phone : Nat} (constructed : Constructed scenario phone (s.voips phone)) :
    Places scenario (newCall queue draws event phone) (callerLeg s queue draws event phone) := by
  refine .caller rfl rfl constructed.node ?_
  rw [Call.outgoing, ← constructed.tamPaquete]
  exact congrArg (intervalos _ · _) constructed.tasa

theorem places_callee (constructed : Constructed scenario call.llamado (s.voips call.llamado)) :
    Places scenario call (calleeLeg s queue call.descuelga call.llamado
      (.ipv4 (scenario.address call.llamante))) :=
  .callee rfl rfl constructed.node (congrArg (intervalos _ · _) constructed.tasa)

theorem Settled.step (wellFormed : WellFormed scenario s) (recorded : Recorded scenario s)
    (settled : Settled scenario s) (advances : EventQueue.Advances s.queue event queue)
    (change : Transition scenario s queue draws event t) : Settled scenario t := by
  have actor := wellFormed.actors event advances.member
  constructor
  · intro phone inside
    exact change.constructed (settled.phones phone inside)
  · intro call member
    cases change with
    | start | stop | busy | cuelga | colgar | descuelga => exact settled.parties call member
    | setUp phone action free =>
        rcases List.mem_cons.mp member with rfl | old
        · rw [action] at actor
          exact ⟨actor, draws.llamado.isLt⟩
        · exact settled.parties call old
  · intro other member phone destino duracion answer
    rcases change.accounted other member with old | accounted
    · obtain ⟨call, known, same⟩ := settled.logged other
        ((advances.remaining other).mp old).1 phone destino duracion answer
      exact ⟨call, change.oldCalls call known, same⟩
    · rw [Accounted, answer] at accounted
      exact accounted
  · intro leg member
    have kept : leg ∈ s.log.legs → ∃ call ∈ t.log.calls, Places scenario call leg := by
      intro old
      obtain ⟨call, known, places⟩ := settled.legs leg old
      exact ⟨call, change.oldCalls call known, places⟩
    cases change with
    | start | stop | busy | cuelga | colgar => exact kept member
    | setUp phone action free =>
        rcases List.mem_cons.mp member with rfl | old
        · rw [action] at actor
          exact ⟨newCall queue draws event phone, List.mem_cons_self,
            places_caller (settled.phones phone actor)⟩
        · exact kept old
    | descuelga phone destino duracion action =>
        rcases List.mem_cons.mp member with rfl | old
        · obtain ⟨call, known, same⟩ := settled.logged event advances.member _ _ _ action
          have announced := recorded.announced call known
          rw [same, action] at announced
          cases announced
          cases same
          exact ⟨call, known, places_callee
            (settled.phones call.llamado (settled.parties call known).2)⟩
        · exact kept old

theorem Settled.initial (scenario : Scenario) : Settled scenario (initial scenario) := by
  have untouched := Untouched.initial scenario
  have made : ∀ count, ∀ phone < count,
      Constructed scenario phone ((constructed scenario count).voips phone) := by
    intro count
    induction count with
    | zero =>
        intro phone inside
        exact absurd inside (Nat.not_lt_zero _)
    | succ count ih =>
        intro phone inside
        by_cases same : phone = count
        · subst same
          simp only [System.constructed, newVoip, Function.update_self]
          exact ⟨rfl, rfl, rfl⟩
        · simp only [System.constructed, newVoip, Function.update_of_ne same]
          exact ih phone (by omega)
  constructor
  · exact made scenario.phones
  · simp [untouched.calls]
  · intro event member phone destino duracion answer
    obtain ⟨number, start | stop⟩ := untouched.events event member
    · rw [start] at answer
      cases answer
    · rw [stop] at answer
      cases answer
  · simp [untouched.legs]

theorem settled_throughout (scenario : Scenario) (inputs : List (Draws scenario)) :
    Throughout step (fun s => WellFormed scenario s ∧ Settled scenario s) (initial scenario)
      inputs := by
  have preserved : ∀ {before : System} {draws : Draws scenario} {next : System},
      WellFormed scenario before ∧ Recorded scenario before ∧ Settled scenario before →
        before.step draws = some next →
          WellFormed scenario next ∧ Recorded scenario next ∧ Settled scenario next := by
    intro before draws next founded taken
    refine @step_invariant scenario (fun s => Recorded scenario s ∧ Settled scenario s) ?_
      before next draws founded taken
    intro s t queue event draws wellFormed logged advances change
    exact ⟨logged.1.step wellFormed advances change,
      logged.2.step wellFormed logged.1 advances change⟩
  exact (throughout_of_invariant preserved
    ⟨WellFormed.initial _, Recorded.initial _, Settled.initial _⟩).mono
      fun _ holds => ⟨holds.1, holds.2.2⟩

/-- In every state of every run, every sender that is installed is an end of a call,
set as that end of that call alone says: the caller sends packets of the given size to
the port of the callee, the callee packets of 512 bytes to no port, each at the
rate of its own phone, with intervals that end before they begin. -/
theorem senders_settled (scenario : Scenario) (inputs : List (Draws scenario)) :
    Throughout step (fun s => ∀ leg ∈ s.log.legs, ∃ call ∈ s.log.calls,
        Places scenario call leg ∧ leg.sender.onTime.max < leg.sender.onTime.min ∧
          leg.sender.offTime.max < leg.sender.offTime.min)
      (initial scenario) inputs := by
  refine (settled_throughout scenario inputs).mono fun s ⟨_, settled⟩ leg member => ?_
  obtain ⟨call, known, places⟩ := settled.legs leg member
  have intervals : MAXONVOIP < MINONVOIP ∧ MAXOFFVOIP < MINOFFVOIP := by
    unfold MAXONVOIP MINONVOIP MAXOFFVOIP MINOFFVOIP
    norm_num
  refine ⟨call, known, places, ?_⟩
  cases places with
  | caller event phone node sender | callee event phone node sender =>
      rw [sender]
      exact intervals

end Simvoip.System
