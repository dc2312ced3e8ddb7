import Simvoip.Voip.History

namespace Simvoip.System

open Simvoip.Data Simvoip.Net Simvoip.Semantics

variable {scenario : Scenario} {s t : System} {queue : EventQueue Action}
  {event : Event Action} {draws : Draws scenario}

/-! # The exchange without the simulator

A switchboard knows the callers that are connected and the calls that went through,
and nothing of events, pointers or addresses.
-/

structure Placed where
  llamante : Nat
  llamado : Nat
  duracion : Nat
  instant : Nat
deriving DecidableEq

/-- The calls are listed from the last one on. -/
structure Switchboard where
  connected : Nat → Option Nat
  placed : List Placed

namespace Switchboard

def new : Switchboard where
  connected _ := none
  placed := []

/-- A call goes through unless its callee is connected as a caller.  Another call of a
caller that is connected does not change whom it is connected to. -/
def call (board : Switchboard) (attempt : Placed) : Switchboard :=
  if (board.connected attempt.llamado).isSome then board
  else {
    connected :=
      if (board.connected attempt.llamante).isSome then board.connected
      else Function.update board.connected attempt.llamante (some attempt.llamado)
    placed := attempt :: board.placed }

def hangUp (board : Switchboard) (llamante : Nat) : Switchboard :=
  { board with connected := Function.update board.connected llamante none }

theorem connected_hangUp (board : Switchboard) (llamante number : Nat) :
    (board.hangUp llamante).connected number =
      if number = llamante then none else board.connected number :=
  Function.update_apply board.connected llamante none number

theorem call_of_connected {board : Switchboard} {attempt : Placed}
    (busy : (board.connected attempt.llamado).isSome) : board.call attempt = board :=
  if_pos busy

theorem connected_call {board : Switchboard} {attempt : Placed}
    (free : ¬ (board.connected attempt.llamado).isSome) (number : Nat) :
    (board.call attempt).connected number =
      if (board.connected attempt.llamante).isSome then board.connected number
      else if number = attempt.llamante then some attempt.llamado
      else board.connected number := by
  rw [call, if_neg free]
  by_cases again : (board.connected attempt.llamante).isSome
  · simp only [again, if_true]
  · simp only [again, Bool.false_eq_true, if_false, Function.update_apply]

theorem placed_call {board : Switchboard} {attempt : Placed}
    (free : ¬ (board.connected attempt.llamado).isSome) :
    (board.call attempt).placed = attempt :: board.placed := by
  rw [call, if_neg free]

def handle (board : Switchboard) (ran : Ran scenario) : Switchboard :=
  match ran.event.action with
  | .llama phone => board.call {
      llamante := phone
      llamado := ran.draws.llamado
      duracion := ran.draws.duracion
      instant := ran.event.time }
  | .colgar llamante => board.hangUp llamante
  | _ => board

def after (past : List (Ran scenario)) : Switchboard := past.foldl handle new

theorem after_snoc (past : List (Ran scenario)) (ran : Ran scenario) :
    after (past ++ [ran]) = (after past).handle ran := by
  rw [after, List.foldl_append]
  rfl

end Switchboard

def Call.placed (call : Call) : Placed where
  llamante := call.llamante
  llamado := call.llamado
  duracion := call.duracion
  instant := call.instant

/-- The exchange and the calls that were set up are as on the switchboard. -/
structure Switched (board : Switchboard) (s : System) : Prop where
  connected : ∀ number, s.central.llamadas.lookup number = board.connected number
  placed : s.log.calls.map Call.placed = board.placed

theorem Switched.mem_iff {board : Switchboard} (switched : Switched board s) (number : Nat) :
    number ∈ s.central.llamadas ↔ (board.connected number).isSome := by
  rw [← switched.connected number]
  exact Finmap.lookup_isSome.symm

theorem Switched.call {board : Switchboard} (switched : Switched board s) (attempt : Placed)
    (free : ¬ (board.connected attempt.llamado).isSome) (number : Nat) :
    (s.central.llamadas.emplace attempt.llamante attempt.llamado).lookup number =
      (board.call attempt).connected number := by
  rw [Switchboard.connected_call free]
  by_cases again : attempt.llamante ∈ s.central.llamadas
  · rw [StdMap.emplace_of_mem _ again, if_pos ((switched.mem_iff _).mp again)]
    exact switched.connected number
  · rw [StdMap.emplace_of_notMem _ again, if_neg ((switched.mem_iff _).not.mp again)]
    by_cases same : number = attempt.llamante
    · rw [if_pos same, same, Finmap.lookup_insert]
    · rw [if_neg same, Finmap.lookup_insert_of_ne _ same]
      exact switched.connected number

theorem Switched.hangUp {board : Switchboard} (switched : Switched board s)
    (llamante number : Nat) :
    (s.central.llamadas.erase llamante).lookup number =
      (board.hangUp llamante).connected number := by
  rw [Switchboard.connected_hangUp]
  by_cases same : number = llamante
  · rw [if_pos same, same, Finmap.lookup_erase]
  · rw [if_neg same, Finmap.lookup_erase_ne same]
    exact switched.connected number

/-- An event of the simulator is one operation of the switchboard, or none. -/
theorem Switched.step {board : Switchboard} (switched : Switched board s)
    (advances : EventQueue.Advances s.queue event queue)
    (change : Transition scenario s queue draws event t) :
    Switched (board.handle ⟨event, draws⟩) t := by
  cases change with
  | start phone action | stop phone action | cuelga phone action
  | descuelga phone destino duracion action =>
      rw [Switchboard.handle, action]
      exact ⟨switched.connected, switched.placed⟩
  | colgar llamante action =>
      rw [Switchboard.handle, action]
      exact ⟨switched.hangUp llamante, switched.placed⟩
  | busy phone action busy =>
      let attempt : Placed := ⟨phone, draws.llamado, draws.duracion, event.time⟩
      have kept : board.call attempt = board :=
        Switchboard.call_of_connected ((switched.mem_iff attempt.llamado).mp busy)
      simp only [Switchboard.handle, action]
      exact kept.symm ▸ ⟨switched.connected, switched.placed⟩
  | setUp phone action free =>
      let attempt : Placed := ⟨phone, draws.llamado, draws.duracion, event.time⟩
      have through := (switched.mem_iff attempt.llamado).not.mp free
      simp only [Switchboard.handle, action]
      refine ⟨switched.call attempt through, ?_⟩
      have dialled : Call.placed (newCall queue draws event phone) = attempt := by
        rw [Call.placed, newCall, advances.clock]
      rw [Switchboard.placed_call through, ← switched.placed, ← dialled]
      rfl

theorem Switched.initial (scenario : Scenario) : Switched .new (initial scenario) := by
  have untouched := Untouched.initial scenario
  constructor
  · intro number
    rw [untouched.entries]
    rfl
  · rw [untouched.calls]
    rfl

/-- The exchange refines the switchboard: in every run, whom each caller is connected
to and which calls went through is what the switchboard makes of the events that ran,
whatever else the phones did in them. -/
theorem switched (scenario : Scenario) (inputs : List (Draws scenario)) (s : System)
    (completed : run step (System.initial scenario) inputs = some s) :
    Switched (.after (history scenario inputs)) s := by
  let refined (past : List (Ran scenario)) (s : System) : Prop :=
    WellFormed scenario s ∧ Switched (.after past) s
  suffices result : refined (history scenario inputs) s from result.2
  refine trace_history (motive := refined)
    ⟨WellFormed.initial scenario, Switched.initial scenario⟩ ?_ completed
  intro past before draws next earlier taken
  obtain ⟨event, queue, advances, change⟩ := step_cases earlier.1 taken
  refine ⟨earlier.1.step taken, ?_⟩
  rw [executed_eq advances, Switchboard.after_snoc]
  exact earlier.2.step advances change

theorem switched_answered : ∃ s, run step (System.initial twoPhones) answered = some s ∧
    Switched (.after (history twoPhones answered)) s := by
  obtain ⟨s, completed, _⟩ : ∃ s : System, run step (System.initial twoPhones) answered = some s ∧
      s.helpers = 2 := exists_run (by decide +kernel)
  exact ⟨s, completed, switched twoPhones answered s completed⟩

end Simvoip.System
