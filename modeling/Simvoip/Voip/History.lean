import Simvoip.Semantics.Since
import Simvoip.Semantics.Trace
import Simvoip.Voip.Mirror

namespace Simvoip.System

open Simvoip.Data Simvoip.Net Simvoip.Semantics

variable {scenario : Scenario} {s t : System} {queue : EventQueue Action}
  {event : Event Action} {draws : Draws scenario} {phone : Nat}

/-! # What the flag and the duration of a phone remember

`m_ocupado` and `m_duracion` are read back from the events that ran before.
-/

/-- An event that ran, and what was drawn in it. -/
structure Ran (scenario : Scenario) where
  event : Event Action
  draws : Draws scenario

def executed (s : System) (draws : Draws scenario) : List (Ran scenario) :=
  s.queue.next?.toList.map fun event => { event, draws }

def history (scenario : Scenario) (inputs : List (Draws scenario)) : List (Ran scenario) :=
  trace step executed (initial scenario) inputs

/-- The duration that a phone drew in its last attempt, zero before the first. -/
def lastDrawn (phone : Nat) (past : List (Ran scenario)) : Nat :=
  past.foldl (fun last ran =>
    if ran.event.action = .llama phone then ran.draws.duracion else last) 0

theorem lastDrawn_snoc (past : List (Ran scenario)) (ran : Ran scenario) :
    lastDrawn phone (past ++ [ran]) =
      if ran.event.action = .llama phone then ran.draws.duracion else lastDrawn phone past := by
  rw [lastDrawn, List.foldl_append]
  rfl

theorem executed_eq (advances : EventQueue.Advances s.queue event queue) :
    executed s draws = [⟨event, draws⟩] := by
  rw [executed, advances.selected]
  rfl

theorem Transition.ocupado (change : Transition scenario s queue draws event t) (number : Nat) :
    (t.voips number).ocupado = true ↔ event.action = .llama number ∨
      event.action ≠ .cuelga number ∧ (s.voips number).ocupado = true := by
  cases change with
  | stop phone action | colgar phone action => simp [action]
  | start phone action | descuelga phone destino duracion action =>
      rw [update_kept Voip.ocupado (by rfl) number]
      simp [action]
  | busy phone action busy | setUp phone action free =>
      by_cases same : number = phone
      · subst same
        simp [action, Voip.dialling, Voip.awaiting, Voip.sending, Voip.hangingUp]
      · simp [action, Function.update_of_ne same, Ne.symm same]
  | cuelga phone action =>
      by_cases same : number = phone
      · subst same
        simp [action, Voip.idle, Voip.awaiting, Voip.released]
      · simp [action, Function.update_of_ne same, Ne.symm same]

theorem Transition.duracion (change : Transition scenario s queue draws event t) (number : Nat) :
    (t.voips number).duracion =
      if event.action = .llama number then draws.duracion else (s.voips number).duracion := by
  cases change with
  | stop phone action | colgar phone action => simp [action]
  | start phone action | descuelga phone destino duracion action | cuelga phone action =>
      rw [update_kept Voip.duracion (by rfl) number]
      simp [action]
  | busy phone action busy | setUp phone action free =>
      by_cases same : number = phone
      · subst same
        simp [action, Voip.dialling, Voip.awaiting, Voip.sending, Voip.hangingUp]
      · simp [action, Function.update_of_ne same, Ne.symm same]

def Attempted (phone : Nat) (_past : List (Ran scenario)) (ran : Ran scenario) : Prop :=
  ran.event.action = .llama phone

def HungUp (phone : Nat) (ran : Ran scenario) : Prop := ran.event.action = .cuelga phone

/-- The state of the phones as the past determines it. -/
structure Remembers (scenario : Scenario) (past : List (Ran scenario)) (s : System) : Prop where
  wellFormed : WellFormed scenario s
  ocupado : ∀ phone, (s.voips phone).ocupado = true ↔ Since (Attempted phone) (HungUp phone) past
  duracion : ∀ phone, (s.voips phone).duracion = lastDrawn phone past
  legs : ∀ leg ∈ s.log.legs, ∃ earlier draws later,
    past = earlier ++ { event := leg.event, draws } :: later ∧
      leg.cuelga.time = leg.start +
        lastDrawn leg.phone (earlier ++ [{ event := leg.event, draws }])

theorem Remembers.initial (scenario : Scenario) : Remembers scenario [] (initial scenario) := by
  have untouched := Untouched.initial scenario
  have durations : ∀ count phone, ((constructed scenario count).voips phone).duracion = 0 := by
    intro count
    induction count with
    | zero => exact fun _ => rfl
    | succ count ih =>
        intro phone
        by_cases same : phone = count
        · subst same
          simp [System.constructed, newVoip]
        · simp only [System.constructed, newVoip, Function.update_of_ne same]
          exact ih phone
  constructor
  · exact WellFormed.initial scenario
  · intro phone
    exact iff_of_false (by simp [untouched.flags]) not_since_nil
  · exact durations scenario.phones
  · simp [untouched.legs]

theorem Remembers.step {past : List (Ran scenario)} (remembers : Remembers scenario past s)
    (taken : s.step draws = some t) : Remembers scenario (past ++ executed s draws) t := by
  obtain ⟨event, queue, advances, change⟩ := step_cases remembers.wellFormed taken
  rw [executed_eq advances]
  have durations : ∀ phone, (t.voips phone).duracion =
      lastDrawn phone (past ++ [⟨event, draws⟩]) := by
    intro phone
    rw [change.duracion, lastDrawn_snoc, remembers.duracion]
  constructor
  · exact remembers.wellFormed.step taken
  · intro phone
    rw [change.ocupado, since_concat_iff, remembers.ocupado]
    rfl
  · exact durations
  · intro leg member
    rcases change.newLegs leg member with old | ⟨phone, action, rfl⟩ |
      ⟨phone, destino, duracion, action, rfl⟩
    · obtain ⟨earlier, drawn, later, split, time⟩ := remembers.legs leg old
      exact ⟨earlier, drawn, later ++ [⟨event, draws⟩], by simp [split], time⟩
    · have drawn : lastDrawn phone (past ++ [⟨event, draws⟩]) = draws.duracion := by
        rw [lastDrawn_snoc, if_pos action]
      exact ⟨past, draws, [], rfl, congrArg (queue.now + ·) drawn.symm⟩
    · have kept : lastDrawn phone (past ++ [⟨event, draws⟩]) = (s.voips phone).duracion := by
        have other : event.action ≠ .llama phone := by simp [action]
        rw [lastDrawn_snoc, if_neg other, remembers.duracion]
      exact ⟨past, draws, [], rfl, congrArg (queue.now + ·) kept.symm⟩

theorem remembers (scenario : Scenario) (inputs : List (Draws scenario))
    (completed : run step (initial scenario) inputs = some s) :
    Remembers scenario (history scenario inputs) s := by
  refine trace_history (motive := Remembers scenario) (Remembers.initial scenario) ?_ completed
  intro past before draws next earlier taken
  exact earlier.step taken

/-- A phone is flagged as busy exactly when it attempted a call after its last
hang-up; that it answered one does not count. -/
theorem busy_iff_attempted (scenario : Scenario) (inputs : List (Draws scenario)) (s : System)
    (completed : run step (initial scenario) inputs = some s) (phone : Nat) :
    (s.voips phone).ocupado = true ↔
      Since (Attempted phone) (HungUp phone) (history scenario inputs) :=
  (remembers scenario inputs completed).ocupado phone

/-- A phone that answers before its first attempt is not flagged. -/
theorem busy_iff_attempted_answered : ∃ s, run step (initial twoPhones) answered = some s ∧
    ((s.voips 1).ocupado = true ↔
      Since (Attempted 1) (HungUp 1) (history twoPhones answered)) := by
  obtain ⟨s, completed, _⟩ : ∃ s : System, run step (initial twoPhones) answered = some s ∧
      s.helpers = 2 := exists_run (by decide +kernel)
  exact ⟨s, completed, busy_iff_attempted twoPhones answered s completed 1⟩

/-- Every sender stops after the duration that its own phone drew last when it was
installed: a phone that answers talks for as long as its own last attempt would have
lasted, and for no time at all when it made none. -/
theorem sends_as_drawn (scenario : Scenario) (inputs : List (Draws scenario)) (s : System)
    (completed : run step (initial scenario) inputs = some s) (leg : Leg)
    (installed : leg ∈ s.log.legs) :
    ∃ earlier draws later,
      history scenario inputs = earlier ++ { event := leg.event, draws } :: later ∧
        leg.cuelga.time = leg.start +
          lastDrawn leg.phone (earlier ++ [{ event := leg.event, draws }]) :=
  (remembers scenario inputs completed).legs leg installed

theorem sends_as_drawn_answered : ∃ s, run step (initial twoPhones) answered = some s ∧
    ∃ leg ∈ s.log.legs, ∃ earlier draws later,
      history twoPhones answered = earlier ++ { event := leg.event, draws } :: later ∧
        leg.cuelga.time = leg.start +
          lastDrawn leg.phone (earlier ++ [{ event := leg.event, draws }]) := by
  obtain ⟨s, completed, leg, installed, _⟩ : ∃ s : System,
      run step (initial twoPhones) answered = some s ∧ ∃ leg ∈ s.log.legs, leg.phone = 1 :=
    exists_run (by decide +kernel)
  exact ⟨s, completed, leg, installed, sends_as_drawn twoPhones answered s completed leg installed⟩

end Simvoip.System
