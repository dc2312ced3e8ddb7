import Simvoip.Semantics.Tally
import Simvoip.Voip.Activity
import Simvoip.Voip.Legs

namespace Simvoip.System

open Simvoip.Data Simvoip.Net Simvoip.Semantics

variable {scenario : Scenario} {s t : System} {queue : EventQueue Action}
  {event : Event Action} {draws : Draws scenario} {phone : Nat}

/-! # How many attempts a phone makes at a time

An answer schedules a hang-up, after which the phone attempts again.  Unless it
cancelled an attempt in return, the phone goes on with one attempt more for good.
-/

/-- What makes a phone go on: its start, an attempt or a hang-up. -/
def Drives (phone : Nat) (action : Action) : Prop :=
  action = .startApplication phone ∨ Own phone action

instance (phone : Nat) : DecidablePred (Drives phone) :=
  fun _ => inferInstanceAs (Decidable (_ ∨ _))

/-- The phone answers and finds no attempt of its own to cancel. -/
def CancelsNothing (phone : Nat) (s : System) : Action → Prop
  | .descuelga number _ _ =>
      number = phone ∧ ∀ other ∈ s.queue.pending, some other.uid ≠ (s.voips phone).proximallamada
  | _ => False

instance (phone : Nat) (s : System) : DecidablePred (CancelsNothing phone s)
  | .descuelga _ _ _ => inferInstanceAs (Decidable (_ = _ ∧ ∀ other ∈ s.queue.pending, _))
  | .startApplication _ | .stopApplication _ | .llama _ | .cuelga _ | .colgar _ =>
      inferInstanceAs (Decidable False)

def Uncancelled (phone : Nat) (s : System) (_draws : Draws scenario) : Prop :=
  s.Upcoming fun event => CancelsNothing phone s event.action

instance (phone : Nat) (s : System) (draws : Draws scenario) :
    Decidable (Uncancelled phone s draws) :=
  inferInstanceAs (Decidable (s.Upcoming _))

/-- Only an attempt of the answering phone is ever cancelled. -/
theorem slot_drives (wellFormed : WellFormed scenario s)
    (advances : EventQueue.Advances s.queue event queue) {other : Event Action}
    (member : other ∈ queue.pending) (slot : some other.uid = (s.voips phone).proximallamada) :
    other.action = .llama phone :=
  (wellFormed.slot phone other.uid slot.symm).2 other ((advances.remaining other).mp member).1 rfl

theorem answer_drives (wellFormed : WellFormed scenario s)
    (advances : EventQueue.Advances s.queue event queue) {destino : Address} {duracion : Nat}
    (action : event.action = .descuelga phone destino duracion) :
    (queue.cancel (s.voips phone).proximallamada).count (Drives phone) + 1 =
      queue.count (Drives phone) + if CancelsNothing phone s event.action then 1 else 0 := by
  by_cases nothing : CancelsNothing phone s event.action
  · rw [if_pos nothing]
    rw [action] at nothing
    rw [EventQueue.count_cancel_of_not fun other member slot _ =>
      nothing.2 other ((advances.remaining other).mp member).1 slot]
  · rw [if_neg nothing]
    simp only [action, CancelsNothing, true_and, not_forall, not_not] at nothing
    obtain ⟨other, member, slot⟩ := nothing
    have llama := (wellFormed.slot phone other.uid slot.symm).2 other member rfl
    have left : other ∈ queue.pending := by
      refine (advances.remaining other).mpr ⟨member, fun same => ?_⟩
      rw [same, action] at llama
      cases llama
    exact (EventQueue.count_cancel_of_mem left slot (.inr (.inl llama))).symm

theorem drives_step (wellFormed : WellFormed scenario s)
    (advances : EventQueue.Advances s.queue event queue)
    (change : Transition scenario s queue draws event t) :
    t.queue.count (Drives phone) =
      s.queue.count (Drives phone) + if Uncancelled phone s draws then 1 else 0 := by
  have uncancelled : Uncancelled phone s draws ↔ CancelsNothing phone s event.action :=
    upcoming_iff advances
  simp only [uncancelled]
  rw [advances.count]
  cases change with
  | stop number action | colgar number action =>
      simp [action, Drives, Own, CancelsNothing]
  | start number action | busy number action busy | cuelga number action =>
      rw [EventQueue.count_schedule]
      simp [action, Drives, Own, CancelsNothing]
  | setUp number action free =>
      rw [callEvents, EventQueue.count_schedule, EventQueue.count_schedule,
        EventQueue.count_schedule]
      simp [action, Drives, Own, CancelsNothing]
  | descuelga number destino duracion action =>
      rw [EventQueue.count_schedule]
      have silent : ¬ Drives phone event.action := by simp [action, Drives, Own]
      rw [if_neg silent, Nat.add_zero]
      by_cases same : number = phone
      · subst same
        rw [← answer_drives wellFormed advances action, if_pos (.inr (.inr rfl))]
      · have spared : ∀ other ∈ queue.pending,
            some other.uid = (s.voips number).proximallamada → ¬ Drives phone other.action := by
          intro other member slot
          rw [slot_drives wellFormed advances member slot]
          simp [Drives, Own, same]
        rw [EventQueue.count_cancel_of_not spared]
        simp [action, Drives, Own, CancelsNothing, same]

theorem drives_constructed (scenario : Scenario) (count : Nat) (phone : Nat) :
    (constructed scenario count).queue.count (Drives phone) = if phone < count then 1 else 0 := by
  induction count with
  | zero => rfl
  | succ count ih =>
      simp only [constructed, newVoip, EventQueue.count_schedule, ih, Drives, Own]
      by_cases same : phone = count
      · simp [same]
      · have apart : count ≠ phone := Ne.symm same
        by_cases below : phone < count
        · simp [below, apart, Nat.lt_succ_of_lt below]
        · have beyond : ¬ phone < count + 1 := by omega
          simp [below, apart, beyond]

/-- In every state of every run a phone is driven by one event, and by one more for
every answer of its that found no attempt to cancel. -/
theorem threads_eq (scenario : Scenario) (inputs : List (Draws scenario)) (s : System)
    (completed : run step (initial scenario) inputs = some s) (phone : Nat)
    (inside : phone < scenario.phones) :
    s.queue.count (Drives phone) =
      1 + tally step (Uncancelled phone) (initial scenario) inputs := by
  have counts : ∀ {before : System} {draws : Draws scenario} {next : System},
      WellFormed scenario before → before.step draws = some next →
        (next.queue.count (Drives phone) : Int) = before.queue.count (Drives phone) +
          if Uncancelled phone before draws then 1 else 0 := by
    intro before draws next wellFormed taken
    obtain ⟨event, queue, advances, change⟩ := step_cases wellFormed taken
    rw [drives_step wellFormed advances change]
    push_cast
    rfl
  have counted : (s.queue.count (Drives phone) : Int) =
      (initial scenario).queue.count (Drives phone) +
        tally step (Uncancelled phone) (initial scenario) inputs :=
    @eq_add_tally _ _ _ _ _ _ (fun s => (s.queue.count (Drives phone) : Int))
      (fun founded taken => WellFormed.step founded taken) counts _ _ _
      (WellFormed.initial scenario) completed
  rw [initial, drives_constructed, if_pos inside] at counted
  exact_mod_cast counted

/-- A phone that answers itself is driven by two events from then on. -/
theorem threads_callsItself : ∃ s, run step (initial twoPhones) callsItself = some s ∧
    s.queue.count (Drives 0) = 1 + 1 := by
  obtain ⟨s, completed, _⟩ : ∃ s, run step (initial twoPhones) callsItself = some s ∧
      s.helpers = s.helpers := exists_run (by decide +kernel)
  have counted := threads_eq twoPhones callsItself s completed 0 (by decide)
  rw [show tally step (Uncancelled 0) (initial twoPhones) callsItself = 1 by decide +kernel]
    at counted
  exact ⟨s, completed, counted⟩

end Simvoip.System
