import Simvoip.Voip.Activity
import Simvoip.Voip.Mirror

namespace Simvoip.System

open Simvoip.Data Simvoip.Net Simvoip.Semantics

variable {scenario : Scenario} {s t : System} {queue : EventQueue Action}
  {event : Event Action} {draws : Draws scenario} {phone : Nat} {inputs : List (Draws scenario)}

/-! # Stopping a phone

The body of `StopApplication` is commented out, so a stop leaves whatever the
phone has before it at that time, and nothing keeps other phones from calling it.
-/

/-- An event in which this phone calls, hangs up or answers. -/
def Handler (phone : Nat) : Action → Prop
  | .llama number => number = phone
  | .cuelga number => number = phone
  | .descuelga number _ _ => number = phone
  | _ => False

instance (phone : Nat) : DecidablePred (Handler phone)
  | .llama _ | .cuelga _ | .descuelga _ _ _ => inferInstanceAs (Decidable (_ = _))
  | .startApplication _ | .stopApplication _ | .colgar _ => inferInstanceAs (Decidable False)

/-- The stop of a phone lies behind it. -/
def Stopped (scenario : Scenario) (s : System) (phone : Nat) : Prop :=
  phone < scenario.phones ∧ s.queue.Absent (· = .stopApplication phone)

instance (s : System) (phone : Nat) : Decidable (Stopped scenario s phone) :=
  inferInstanceAs (Decidable (_ ∧ _))

/-- The phone has no attempt, no answer and no hang-up before it, and no call of
its own at the exchange. -/
structure Silent (s : System) (phone : Nat) : Prop where
  events : s.queue.Absent (Handler phone)
  entry : phone ∉ s.central.llamadas

theorem silent_iff : Silent s phone ↔
    s.queue.Absent (Handler phone) ∧ phone ∉ s.central.llamadas :=
  ⟨fun silent => ⟨silent.events, silent.entry⟩, fun both => ⟨both.1, both.2⟩⟩

instance (s : System) (phone : Nat) : Decidable (Silent s phone) :=
  decidable_of_iff _ silent_iff.symm

def StopSilences (scenario : Scenario) (s : System) : Prop :=
  ∀ phone, Stopped scenario s phone → Silent s phone

/-- No stopped phone acts in this step, and none gets a new sender. -/
def StoppedIdle (s : System) (draws : Draws scenario) : Prop :=
  ∀ t, s.step draws = some t → ∀ phone, Stopped scenario s phone →
    (s.Upcoming fun event => ¬ Handler phone event.action) ∧
      ∀ leg ∈ t.log.legs, leg.phone = phone → leg ∈ s.log.legs

/-- A phone is silent already when it stops; later it neither starts nor is
called. -/
def StopsSilent (s : System) (draws : Draws scenario) : Action → Prop
  | .startApplication phone => ¬ Stopped scenario s phone
  | .stopApplication phone => Silent s phone
  | .llama _ =>
      (draws.llamado : Nat) ∈ s.central.llamadas ∨ ¬ Stopped scenario s draws.llamado
  | _ => True

instance (s : System) (draws : Draws scenario) : DecidablePred (StopsSilent s draws)
  | .startApplication _ => inferInstanceAs (Decidable (¬ _))
  | .stopApplication phone => inferInstanceAs (Decidable (Silent s phone))
  | .llama _ => inferInstanceAs (Decidable (_ ∨ ¬ _))
  | .cuelga _ | .descuelga _ _ _ | .colgar _ => inferInstanceAs (Decidable True)

/-- Every phone has one stop before it at most. -/
def StopsOnce (s : System) : Prop :=
  ∀ phone, s.queue.AtMostOne (· = .stopApplication phone)

/-- Nothing that runs makes a new stop. -/
theorem Transition.stops (change : Transition scenario s queue draws event t)
    (advances : EventQueue.Advances s.queue event queue) {other : Event Action}
    (member : other ∈ t.queue.pending) (stop : other.action = .stopApplication phone) :
    other ∈ s.queue.pending ∧ other ≠ event := by
  rcases change.accounted other member with old | accounted
  · exact (advances.remaining other).mp old
  · simp only [Accounted, stop] at accounted

theorem StopsOnce.step (once : StopsOnce s) (advances : EventQueue.Advances s.queue event queue)
    (change : Transition scenario s queue draws event t) : StopsOnce t := by
  intro phone first member second member' stop stop'
  apply once phone first _ second _ stop stop'
  · exact (change.stops advances member stop).1
  · exact (change.stops advances member' stop').1

theorem StopsOnce.initial (scenario : Scenario) : StopsOnce (initial scenario) := by
  suffices once : ∀ count, StopsOnce (System.constructed scenario count) from
    once scenario.phones
  intro count
  induction count with
  | zero => simp [System.constructed, StopsOnce, EventQueue.AtMostOne, EventQueue.empty]
  | succ count ih =>
      obtain ⟨_, _, _, _, actors, _⟩ := WellFormed.constructed scenario count
      intro phone
      simp only [System.constructed, newVoip]
      by_cases same : phone = count
      · subst same
        apply (EventQueue.atMostOne_schedule_iff (by rfl)).mpr
        intro event member stop
        rcases EventQueue.mem_schedule.mp member with old | rfl
        · have earlier := actors event old
          rw [stop] at earlier
          exact Nat.lt_irrefl _ earlier
        · cases stop
      · rw [EventQueue.atMostOne_schedule_of_not (by simpa using Ne.symm same),
          EventQueue.atMostOne_schedule_of_not (by simp)]
        exact ih phone

theorem stopped_step (wellFormed : WellFormed scenario s) (once : StopsOnce s)
    (advances : EventQueue.Advances s.queue event queue)
    (change : Transition scenario s queue draws event t) :
    Stopped scenario t phone ↔ Stopped scenario s phone ∨
      phone < scenario.phones ∧ event.action = .stopApplication phone := by
  unfold Stopped
  constructor
  · rintro ⟨inside, absent⟩
    by_cases before : s.queue.Absent (· = .stopApplication phone)
    · exact .inl ⟨inside, before⟩
    · simp only [EventQueue.Absent, not_forall, not_not] at before
      obtain ⟨stopping, member, stop⟩ := before
      by_cases current : stopping = event
      · exact .inr ⟨inside, current ▸ stop⟩
      · refine absurd stop (absent stopping ?_)
        rw [step_kept wellFormed advances change (s.queue.fresh stopping member) (by simp [stop])]
        exact ⟨member, current⟩
  · rintro (⟨inside, absent⟩ | ⟨inside, action⟩)
    · exact ⟨inside, fun other member stop =>
        absent other (change.stops advances member stop).1 stop⟩
    · refine ⟨inside, fun other member stop => ?_⟩
      obtain ⟨pending, different⟩ := change.stops advances member stop
      exact different (once phone other pending event advances.member stop action)

/-- What a stopped phone could be given is given to phones that are not stopped. -/
theorem stopSilences_of_new (once : StopsOnce s) (silences : StopSilences scenario s)
    (advances : EventQueue.Advances s.queue event queue)
    (change : Transition scenario s queue draws event t) (wellFormed : WellFormed scenario s)
    (running : ∀ phone, event.action ≠ .stopApplication phone)
    (events : ∀ phone, Stopped scenario s phone → ∀ other ∈ t.queue.pending,
      Handler phone other.action → other ∈ queue.pending)
    (entries : ∀ phone, Stopped scenario s phone → phone ∈ t.central.llamadas →
      phone ∈ s.central.llamadas) : StopSilences scenario t := by
  intro phone stopped
  rcases (stopped_step wellFormed once advances change).mp stopped with before | ⟨_, now⟩
  · have silent := silences phone before
    constructor
    · intro other member handler
      have pending := ((advances.remaining other).mp (events phone before other member handler)).1
      exact silent.events other pending handler
    · exact fun member => silent.entry (entries phone before member)
  · exact absurd now (running phone)

theorem handler_schedule {rest : EventQueue Action} {delay : Nat} {action : Action}
    (fewer : ∀ other ∈ rest.pending, other ∈ queue.pending)
    (running : ∀ phone, Handler phone action → ¬ Stopped scenario s phone) :
    ∀ phone, Stopped scenario s phone → ∀ other ∈ (rest.schedule delay action).pending,
      Handler phone other.action → other ∈ queue.pending := by
  intro phone stopped other member handler
  rcases EventQueue.mem_schedule.mp member with old | rfl
  · exact fewer other old
  · exact absurd stopped (running phone handler)

theorem stopSilences_step_iff (wellFormed : WellFormed scenario s) (once : StopsOnce s)
    (silences : StopSilences scenario s) (advances : EventQueue.Advances s.queue event queue)
    (change : Transition scenario s queue draws event t) :
    StopSilences scenario t ↔ StopsSilent s draws event.action := by
  have acting : ∀ phone, Handler phone event.action → ¬ Stopped scenario s phone :=
    fun phone handler stopped => (silences phone stopped).events event advances.member handler
  have since : ∀ {phone}, Stopped scenario t phone ↔ Stopped scenario s phone ∨
      phone < scenario.phones ∧ event.action = .stopApplication phone :=
    stopped_step wellFormed once advances change
  have quiet := stopSilences_of_new once silences advances change wellFormed
  cases change with
  | colgar llamante action =>
      apply iff_of_true (quiet (by simp [action]) (fun _ _ _ old _ => old) _)
        (by simp [action, StopsSilent])
      exact fun phone _ member => (Finmap.mem_erase.mp member).2
  | busy number action busy =>
      have running := acting number (by simp [action, Handler])
      apply iff_of_true (quiet (by simp [action]) _ fun _ _ old => old)
        (by simp [action, StopsSilent, busy])
      exact handler_schedule (fun _ old => old) fun phone same => same ▸ running
  | cuelga number action =>
      have running := acting number (by simp [action, Handler])
      apply iff_of_true (quiet (by simp [action]) _ fun _ _ old => old)
        (by simp [action, StopsSilent])
      exact handler_schedule (fun _ old => old) fun phone same => same ▸ running
  | descuelga number destino duracion action =>
      have running := acting number (by simp [action, Handler])
      apply iff_of_true (quiet (by simp [action]) _ fun _ _ old => old)
        (by simp [action, StopsSilent])
      exact handler_schedule (fun _ old => (EventQueue.mem_cancel.mp old).1)
        fun phone same => same ▸ running
  | start number action =>
      simp only [action, StopsSilent]
      constructor
      · intro silences' stopped
        have silent := silences' number (since.mpr (.inl stopped))
        exact silent.events _ (EventQueue.mem_schedule.mpr (.inr rfl)) rfl
      · intro running
        apply quiet (by simp [action]) _ fun _ _ old => old
        exact handler_schedule (fun _ old => old) fun phone same => same ▸ running
  | stop number action =>
      have actor := wellFormed.actors event advances.member
      rw [action] at actor
      have idle : ¬ Handler number event.action := by simp [action, Handler]
      simp only [action, StopsSilent]
      constructor
      · intro silences'
        have silent := silences' number (since.mpr (.inr ⟨actor, action⟩))
        exact ⟨(advances.absent_iff idle).mp silent.events, silent.entry⟩
      · intro silent phone stopped
        have before : Silent s phone := by
          rcases since.mp stopped with earlier | ⟨_, now⟩
          · exact silences phone earlier
          · rw [action, Action.stopApplication.injEq] at now
            exact now ▸ silent
        refine ⟨fun other member => ?_, before.entry⟩
        exact before.events other ((advances.remaining other).mp member).1
  | setUp number action free =>
      have running := acting number (by simp [action, Handler])
      simp only [action, StopsSilent, free, false_or]
      constructor
      · intro silences' stopped
        have silent := silences' draws.llamado (since.mpr (.inl stopped))
        exact silent.events _ ((mem_callEvents s event).mpr (.inr (.inr (.inl rfl)))) rfl
      · intro answering
        apply quiet (by simp [action])
        · intro phone stopped other member handler
          rcases (mem_callEvents s event).mp member with old | rfl | rfl | rfl
          · exact old
          · cases handler
          · cases handler
            exact absurd stopped answering
          · cases handler
            exact absurd stopped running
        · intro phone stopped member
          apply StdMap.mem_of_mem_emplace member
          rintro rfl
          exact running stopped

/-- In a state in which stopped phones are silent, none of them acts. -/
theorem stoppedIdle_of_silent (wellFormed : WellFormed scenario s)
    (silences : StopSilences scenario s) : StoppedIdle s draws := by
  intro t taken phone stopped
  obtain ⟨event, queue, advances, change⟩ := step_cases wellFormed taken
  have idle := (silences phone stopped).events event advances.member
  refine ⟨(upcoming_iff advances).mpr idle, fun leg member own => ?_⟩
  rcases change.newLegs leg member with old | ⟨number, action, rfl⟩ |
    ⟨number, destino, duracion, action, rfl⟩
  · exact old
  · exact absurd (by rw [action]; exact own) idle
  · exact absurd (by rw [action]; exact own) idle

theorem StopSilences.initial (scenario : Scenario) :
    StopSilences scenario (initial scenario) := by
  have untouched := Untouched.initial scenario
  intro phone _
  constructor
  · intro event member handler
    obtain ⟨number, start | stop⟩ := untouched.events event member
    · rw [start] at handler
      cases handler
    · rw [stop] at handler
      cases handler
  · simp [untouched.entries, Finmap.notMem_empty]

/-- In a run every stop silences its phone for good exactly when every stop finds
its phone silent and no stopped phone starts or is called. -/
theorem stopSilences_iff (scenario : Scenario) (inputs : List (Draws scenario)) (after : System)
    (completed : run step (initial scenario) inputs = some after) :
    Throughout step (StopSilences scenario) (initial scenario) inputs ∧
        Stepwise step StoppedIdle (initial scenario) inputs ↔
      Stepwise step (fun s draws => s.Upcoming fun event => StopsSilent s draws event.action)
        (initial scenario) inputs := by
  have states := throughout_iff_upcoming StopsOnce (fun _ once => once.step)
    stopSilences_step_iff (StopsOnce.initial scenario) (StopSilences.initial scenario) completed
  rw [← states]
  apply and_iff_left_of_imp
  intro everywhere
  exact stepwise_of_throughout (fun wellFormed taken => wellFormed.step taken)
    (fun _ _ => stoppedIdle_of_silent) (WellFormed.initial scenario) everywhere

/-- A phone that started before it stops is never silent when it stops. -/
theorem not_silent_of_started (completed : run step (initial scenario) inputs = some s)
    (inside : phone < scenario.phones) (started : Started s phone) : ¬ Silent s phone := by
  intro silent
  have active := throughout_iff_earlier.mp (never_silent scenario inputs).1 inputs
    List.prefix_rfl s completed
  obtain ⟨event, pending, own⟩ := EventQueue.count_pos_iff.mp (active phone inside started)
  apply silent.events event pending
  rcases own with llama | cuelga
  · rw [llama, Handler]
  · rw [cuelga, Handler]

/-- Both phones draw their first attempt twenty seconds ahead, and the simulator runs on
past their stops. -/
def stopsWaiting : List (Draws twoPhones) := [
  ⟨20000000, 0, (0 : Fin 2)⟩, ⟨20000000, 0, (0 : Fin 2)⟩, ⟨0, 0, (0 : Fin 2)⟩]

theorem stopSilences_fails :
    ∃ after, run step (initial twoPhones) stopsWaiting = some after ∧
      ¬ StopSilences twoPhones after := by
  have waiting : ∃ after, run step (initial twoPhones) stopsWaiting = some after ∧
      Stopped twoPhones after 0 ∧ ¬ Silent after 0 :=
    exists_run (by decide +kernel)
  obtain ⟨after, completed, stopped, loud⟩ := waiting
  exact ⟨after, completed, fun silences => loud (silences 0 stopped)⟩

/-- The last of three phones stops before it starts. -/
def threePhones : Scenario where
  ns3 := twoPhones.ns3
  tel1 := 2
  tel2 := 1
  tamPkt := 160
  address phone :=
    if phone = 0 then 0x0A010001#32 else if phone = 1 then 0x0A010002#32 else 0x0A020001#32
  address_ne_zero := by
    intro phone
    split
    · decide
    · split <;> decide
  tasa _ := 64000
  node phone := phone + 2
  startTime phone := if phone = 2 then 20000000 else 1000000
  stopTime phone := if phone = 2 then 500000 else 10000000

/-- The phones that go on call each other, in both directions. -/
def silentStops : List (Draws threePhones) := [
  ⟨0, 0, (0 : Fin 3)⟩, ⟨10, 0, (0 : Fin 3)⟩, ⟨1000, 0, (0 : Fin 3)⟩, ⟨0, 5, (1 : Fin 3)⟩,
  ⟨0, 0, (0 : Fin 3)⟩, ⟨20, 0, (0 : Fin 3)⟩, ⟨0, 0, (0 : Fin 3)⟩, ⟨1000, 0, (0 : Fin 3)⟩,
  ⟨0, 7, (0 : Fin 3)⟩, ⟨0, 0, (0 : Fin 3)⟩]

theorem stopSilences_holds :
    (∃ after, run step (initial threePhones) silentStops = some after ∧
      after.log.calls.length = 2 ∧ Stopped threePhones after 2) ∧
    Throughout step (StopSilences threePhones) (initial threePhones) silentStops ∧
      Stepwise step StoppedIdle (initial threePhones) silentStops :=
  ⟨exists_run (by decide +kernel), (stopSilences_iff _ _ _ rfl).mpr (by decide +kernel)⟩

end Simvoip.System
