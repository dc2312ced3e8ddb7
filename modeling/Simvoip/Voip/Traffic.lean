import Simvoip.Voip.Legs
import Simvoip.Voip.Mirror

namespace Simvoip.System

open Simvoip.Data Simvoip.Net Simvoip.Semantics

variable {scenario : Scenario} {s t : System} {queue : EventQueue Action}
  {event : Event Action} {draws : Draws scenario} {phone : Nat}

/-! # When the senders send

The time given to `Start` and `Stop` of an application that is installed during
the run is relative to the present instant; the handlers give them that instant.
-/

def effective (present argument : Nat) : Nat := present + argument

/-- The instant at which the sender of a leg starts. -/
def Leg.startsAt (leg : Leg) : Nat := effective leg.event.time leg.start

/-- The instants at which an application is made to stop. -/
def stopsAt (s : System) (app : Nat) : List Nat :=
  (s.log.stops.filter (·.app = app)).map fun stop => effective stop.event.time stop.instant

/-- Every sender starts when it is installed and stops when the hang-up of its leg
runs, and only then. -/
structure Flowing (s : System) : Prop where
  starts : ∀ leg ∈ s.log.legs, Leg.startsAt leg = leg.event.time
  stops : ∀ leg ∈ s.log.legs,
    s.stopsAt leg.app = if Leg.Open s leg then [] else [leg.cuelga.time]

/-- Senders are installed and released at instant zero, and a hang-up finds the
sender of its own leg. -/
def AtZero (s : System) (draws : Draws scenario) (event : Event Action) : Prop :=
  match event.action with
  | .llama _ => (draws.llamado : Nat) ∈ s.central.llamadas ∨ event.time = 0
  | .descuelga _ _ _ => event.time = 0
  | .cuelga phone => event.time = 0 ∧
      ∀ leg ∈ s.log.legs, leg.cuelga = event → (s.voips phone).appc = [leg.app]
  | _ => True

instance (s : System) (draws : Draws scenario) : DecidablePred (AtZero s draws)
  | ⟨_, _, .llama _⟩ => inferInstanceAs (Decidable (_ ∨ _))
  | ⟨_, _, .descuelga _ _ _⟩ => inferInstanceAs (Decidable (_ = _))
  | ⟨_, _, .cuelga _⟩ => inferInstanceAs (Decidable (_ ∧ ∀ leg ∈ s.log.legs, _))
  | ⟨_, _, .startApplication _⟩ | ⟨_, _, .stopApplication _⟩ | ⟨_, _, .colgar _⟩ =>
      inferInstanceAs (Decidable True)

/-- No container ever holds two applications. -/
def Single (s : System) : Prop := ∀ phone, (s.voips phone).appc.length ≤ 1

theorem Single.step (single : Single s) (change : Transition scenario s queue draws event t) :
    Single t := by
  intro number
  cases change.legs with
  | installed leg action vacant app helper hangUp fresh legOpen legs stops deletes apps helpers
      assigned others =>
      by_cases same : number = leg.phone
      · rw [same, assigned.2]
        exact Nat.le_refl _
      · rw [(others number same).2]
        exact single number
  | released phone action legs stops deletes apps helpers null container others =>
      by_cases same : number = phone
      · rw [same, container]
        exact single phone
      · rw [(others number same).2]
        exact single number
  | other action vacant legs stops deletes apps helpers kept =>
      rw [(kept number).2]
      exact single number

theorem Transition.newStart (change : Transition scenario s queue draws event t) :
    ∀ leg ∈ t.log.legs, leg ∈ s.log.legs ∨ leg.event = event ∧ leg.start = queue.now := by
  intro leg member
  rcases change.newLegs leg member with old | ⟨phone, _, rfl⟩ | ⟨phone, destino, duracion, _, rfl⟩
  · exact .inl old
  · exact .inr ⟨rfl, rfl⟩
  · exact .inr ⟨rfl, rfl⟩

/-- Apart from a hang-up, only an event that installs a sender has to run at zero. -/
theorem Transition.atZero_iff (change : Transition scenario s queue draws event t)
    (other : ∀ phone, event.action ≠ .cuelga phone) :
    AtZero s draws event ↔ t.log.legs = s.log.legs ∨ event.time = 0 := by
  cases change with
  | start phone action | stop phone action | colgar llamante action =>
      simp [AtZero, action]
  | busy phone action busy => simp [AtZero, action, busy]
  | cuelga phone action => exact absurd action (other phone)
  | setUp phone action free => simp [AtZero, action, free]
  | descuelga phone destino duracion action => simp [AtZero, action]

theorem stopsAt_congr (same : t.log.stops = s.log.stops) (app : Nat) :
    t.stopsAt app = s.stopsAt app := by
  rw [stopsAt, stopsAt, same]

theorem flowing_install_iff (installed : Installed s) (flowing : Flowing s)
    (present : queue.now = event.time) {leg : Leg} (app : leg.app = s.apps)
    (started : leg.event = event ∧ leg.start = queue.now) (legOpen : Leg.Open t leg)
    (same : ∀ leg ∈ s.log.legs, Leg.Open t leg ↔ Leg.Open s leg)
    (legs : t.log.legs = leg :: s.log.legs) (stops : t.log.stops = s.log.stops) :
    Flowing t ↔ event.time = 0 := by
  have start : Leg.startsAt leg = event.time + event.time := by
    rw [Leg.startsAt, started.1, started.2, present, effective]
  constructor
  · intro after
    have own := after.starts leg (by rw [legs]; exact List.mem_cons_self)
    rw [start, started.1] at own
    omega
  · intro zero
    constructor
    · rw [legs]
      intro candidate member
      rcases List.mem_cons.mp member with rfl | old
      · rw [start, started.1, zero]
      · exact flowing.starts candidate old
    · rw [legs]
      intro candidate member
      rw [stopsAt_congr stops]
      rcases List.mem_cons.mp member with rfl | old
      · rw [if_pos legOpen, app, stopsAt, installed.stops_apps, List.map_nil]
      · rw [flowing.stops candidate old]
        simp only [same candidate old]

theorem flowing_release_iff (installed : Installed s) (single : Single s) (flowing : Flowing s)
    (present : queue.now = event.time) (pending : event ∈ s.queue.pending)
    (lasts : ∀ leg ∈ s.log.legs, Leg.Open t leg ↔ Leg.Open s leg ∧ leg.cuelga ≠ event)
    (action : event.action = .cuelga phone) (legs : t.log.legs = s.log.legs)
    (stops : t.log.stops = (s.voips phone).appc.map
      (fun app => StopCall.mk app queue.now event) ++ s.log.stops) :
    Flowing t ↔ event.time = 0 ∧
      ∀ leg ∈ s.log.legs, leg.cuelga = event → (s.voips phone).appc = [leg.app] := by
  obtain ⟨ended, logged, hangUp⟩ := installed.logged event pending phone action
  have released : ∀ app, t.stopsAt app =
      ((s.voips phone).appc.filter (· = app)).map (fun _ => event.time + event.time) ++
        s.stopsAt app := by
    intro app
    simp [stopsAt, stops, List.filter_append, List.filter_map, Function.comp_def, effective,
      present]
  have silent : ∀ leg ∈ s.log.legs, leg.cuelga = event → s.stopsAt leg.app = [] := by
    intro leg member own
    have legOpen : Leg.Open s leg := by
      rw [Leg.Open, own]
      exact pending
    rw [flowing.stops leg member, if_pos legOpen]
  have closed : ∀ leg ∈ s.log.legs, leg.cuelga = event → ¬ Leg.Open t leg :=
    fun leg member own legOpen => ((lasts leg member).mp legOpen).2 own
  constructor
  · intro after
    have stopped : ∀ leg ∈ s.log.legs, leg.cuelga = event →
        (s.voips phone).appc = [leg.app] ∧ event.time = 0 := by
      intro leg member own
      have once := after.stops leg (by rw [legs]; exact member)
      rw [if_neg (closed leg member own), released, silent leg member own, List.append_nil,
        own] at once
      have few := single phone
      cases container : (s.voips phone).appc with
      | nil => simp [container] at once
      | cons first rest =>
          rw [container, List.length_cons] at few
          have alone : rest = [] := List.eq_nil_of_length_eq_zero (by omega)
          subst alone
          by_cases same : first = leg.app
          · simp only [container, same, decide_true, List.filter_cons_of_pos, List.filter_nil,
              List.map_cons, List.map_nil, List.cons.injEq, and_true] at once
            exact ⟨by rw [same], by omega⟩
          · simp [container, same] at once
    exact ⟨(stopped ended logged hangUp).2, fun leg member own => (stopped leg member own).1⟩
  · intro both
    obtain ⟨zero, own⟩ := both
    constructor
    · rw [legs]
      exact flowing.starts
    · rw [legs]
      intro leg member
      rw [released, own ended logged hangUp]
      by_cases current : leg.cuelga = event
      · have container := own leg member current
        rw [own ended logged hangUp, List.cons.injEq] at container
        rw [silent leg member current, if_neg (closed leg member current), current]
        simp [container.1, zero]
      · have distinct : ended.app ≠ leg.app := fun same =>
          current (installed.distinct leg member ended logged (.inl same.symm) ▸ hangUp)
        have same : Leg.Open t leg ↔ Leg.Open s leg := by
          rw [lasts leg member]
          exact and_iff_left current
        rw [flowing.stops leg member]
        simp [distinct, same]

theorem flowing_step_iff (wellFormed : WellFormed scenario s) (installed : Installed s)
    (single : Single s) (flowing : Flowing s)
    (advances : EventQueue.Advances s.queue event queue)
    (change : Transition scenario s queue draws event t) :
    Flowing t ↔ AtZero s draws event := by
  have lasts : ∀ leg ∈ s.log.legs, Leg.Open t leg ↔ Leg.Open s leg ∧ leg.cuelga ≠ event :=
    fun leg old => open_step wellFormed installed advances change old
  have continuing : (∀ phone, event.action ≠ .cuelga phone) →
      ∀ leg ∈ s.log.legs, Leg.Open t leg ↔ Leg.Open s leg :=
    fun other leg old => open_other wellFormed installed advances change other old
  cases change.legs with
  | installed leg action vacant app helper hangUp fresh legOpen legs stops deletes apps helpers
      assigned others =>
      have grown : t.log.legs ≠ s.log.legs := by
        rw [legs]
        exact List.cons_ne_self _ _
      have new := (change.newStart leg (by rw [legs]; exact List.mem_cons_self)).resolve_left
        fun old => Nat.lt_irrefl _ (app ▸ (installed.allocated leg old).1)
      rw [change.atZero_iff action, or_iff_right grown]
      exact flowing_install_iff installed flowing advances.clock app new legOpen
        (continuing action) legs stops
  | released phone action legs stops deletes apps helpers null container others =>
      rw [AtZero, action]
      exact flowing_release_iff installed single flowing advances.clock advances.member lasts
        action legs stops
  | other action vacant legs stops deletes apps helpers kept =>
      rw [change.atZero_iff action]
      refine iff_of_true ⟨?_, ?_⟩ (.inl legs)
      · rw [legs]
        exact flowing.starts
      · rw [legs]
        intro leg old
        rw [stopsAt_congr stops, flowing.stops leg old]
        simp only [continuing action leg old]

/-- In a run every sender sends exactly while its call lasts, exactly when senders
are installed and released at instant zero, each by the hang-up of its own leg. -/
theorem flowing_iff (scenario : Scenario) (inputs : List (Draws scenario)) (after : System)
    (completed : run step (initial scenario) inputs = some after) :
    Throughout step Flowing (initial scenario) inputs ↔
      Stepwise step (fun s draws => s.Upcoming (AtZero s draws)) (initial scenario) inputs := by
  have untouched := Untouched.initial scenario
  refine throughout_iff_upcoming (fun s => Installed s ∧ Single s) ?_ ?_ ⟨Installed.initial scenario, ?_⟩
    ⟨by simp [untouched.legs], by simp [untouched.legs]⟩ completed
  · intro s t queue event draws _ ⟨installed, single⟩ advances change
    exact ⟨installed.step advances change, single.step change⟩
  · intro s t queue event draws wellFormed ⟨installed, single⟩ flowing advances change
    exact flowing_step_iff wellFormed installed single flowing advances change
  · intro phone
    simp [(untouched.senders phone).2]

/-- Phone 0 calls at 1.00001 s, and its sender is told to start at twice that time. -/
theorem flowing_fails :
    ∃ after, run step (initial twoPhones) answered = some after ∧ ¬ Flowing after := by
  have late : ∃ after, run step (initial twoPhones) answered = some after ∧
      ∃ leg ∈ after.log.legs, Leg.startsAt leg ≠ leg.event.time := exists_run (by decide +kernel)
  obtain ⟨after, completed, leg, member, different⟩ := late
  exact ⟨after, completed, fun flowing => different (flowing.starts leg member)⟩

def atOnce : Scenario := { twoPhones with startTime := fun _ => 0 }

/-- A call of no duration at instant zero, answered and hung up by both phones. -/
def emptyCall : List (Draws atOnce) := [
  ⟨0, 0, (0 : Fin 2)⟩, ⟨1000, 0, (0 : Fin 2)⟩, ⟨0, 0, (1 : Fin 2)⟩, ⟨0, 0, (0 : Fin 2)⟩,
  ⟨0, 0, (0 : Fin 2)⟩, ⟨500, 0, (0 : Fin 2)⟩, ⟨500, 0, (0 : Fin 2)⟩]

theorem flowing_holds : Throughout step Flowing (initial atOnce) emptyCall :=
  (flowing_iff _ _ _ rfl).mpr (by decide +kernel)

end Simvoip.System
