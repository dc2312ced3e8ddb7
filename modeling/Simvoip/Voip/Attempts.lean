import Simvoip.Voip.Step

namespace Simvoip.System

open Simvoip.Data Simvoip.Net Simvoip.Semantics

variable {scenario : Scenario} {s t : System} {queue : EventQueue Action}
  {event : Event Action} {draws : Draws scenario} {phone : Nat} {action : Action}

/-! # Attempts

A phone is driven by its own `Llama` and `Cuelga` events, each of which schedules
the next.  `m_proximallamada` has room for one attempt only.
-/

def Own (phone : Nat) (action : Action) : Prop :=
  action = .llama phone ∨ action = .cuelga phone

instance (phone : Nat) : DecidablePred (Own phone) :=
  fun _ => inferInstanceAs (Decidable (_ ∨ _))

theorem Own.unique {number : Nat} (own : Own phone action) (other : Own number action) :
    number = phone := by
  unfold Own at own other
  grind

structure OneAttempt (s : System) : Prop where
  single : ∀ phone, s.queue.AtMostOne (Own phone)
  slot : ∀ event ∈ s.queue.pending, ∀ phone, event.action = .llama phone →
    (s.voips phone).proximallamada = some event.uid
  /-- No attempt can fire while a hang-up of the phone is still to come. -/
  quiet : ∀ event ∈ s.queue.pending, ∀ phone, event.action = .cuelga phone →
    s.queue.Absent (· = .llama phone)

/-- A phone starts only once, before it does anything else, and answers only while
no hang-up of its own is pending. -/
def Vacant (s : System) : Action → Prop
  | .startApplication phone => s.queue.Absent (Own phone)
  | .descuelga phone _ _ => s.queue.Absent (· = .cuelga phone)
  | _ => True

instance (s : System) : DecidablePred (Vacant s)
  | .startApplication phone => inferInstanceAs (Decidable (s.queue.Absent (Own phone)))
  | .descuelga phone _ _ => inferInstanceAs (Decidable (s.queue.Absent (· = .cuelga phone)))
  | .stopApplication _ | .llama _ | .cuelga _ | .colgar _ => inferInstanceAs (Decidable True)

/-- The slot keeps up with the attempts as long as there is only one. -/
theorem oneAttempt_iff_single (before : OneAttempt s)
    (advances : EventQueue.Advances s.queue event queue)
    (change : Transition scenario s queue draws event t) :
    OneAttempt t ↔ ∀ phone, t.queue.AtMostOne (Own phone) := by
  refine ⟨OneAttempt.single, fun single => ⟨single, ?_, ?_⟩⟩
  · intro other member phone attempt
    rcases change.accounted other member with old | accounted
    · rcases change.slot phone with kept | ⟨_, tiempo, scheduled⟩
      · rw [kept]
        exact before.slot other ((advances.remaining other).mp old).1 phone attempt
      · have new : queue.scheduled tiempo (.llama phone) ∈ t.queue.pending := by
          rw [scheduled]
          exact EventQueue.mem_schedule.mpr (.inr rfl)
        have same := single phone other member _ new (.inl attempt) (.inl rfl)
        exact absurd same (EventQueue.ne_scheduled old)
    · simpa only [Accounted, attempt] using accounted
  · intro ending member phone cuelga other member' llama
    have same := single phone ending member other member' (.inr cuelga) (.inl llama)
    rw [same, llama] at cuelga
    cases cuelga

theorem single_schedule_iff {delay : Nat} (single : ∀ phone, queue.AtMostOne (Own phone))
    (own : Own phone action) :
    (∀ number, (queue.schedule delay action).AtMostOne (Own number)) ↔
      queue.Absent (Own phone) := by
  constructor
  · exact fun every => (EventQueue.atMostOne_schedule_iff own).mp (every phone)
  · intro absent number
    by_cases same : Own number action
    · rw [own.unique same]
      exact (EventQueue.atMostOne_schedule_iff own).mpr absent
    · exact (EventQueue.atMostOne_schedule_of_not same).mpr (single number)

/-- An answering phone cancels its attempt, so only a hang-up can be in the way. -/
theorem absent_cancel_iff (wellFormed : WellFormed scenario s) (before : OneAttempt s)
    (advances : EventQueue.Advances s.queue event queue)
    (other : ∀ number, ¬ Own number event.action) :
    (queue.cancel (s.voips phone).proximallamada).Absent (Own phone) ↔
      s.queue.Absent (· = .cuelga phone) := by
  constructor
  · intro absent ending member cuelga
    refine absent ending (EventQueue.mem_cancel.mpr ⟨?_, ?_⟩) (.inr cuelga)
    · refine (advances.remaining ending).mpr ⟨member, fun same => other phone ?_⟩
      rw [← same]
      exact .inr cuelga
    · intro slot
      have llama := (wellFormed.slot phone ending.uid slot.symm).2 ending member rfl
      rw [cuelga] at llama
      cases llama
  · intro absent candidate member own
    obtain ⟨remaining, uncancelled⟩ := EventQueue.mem_cancel.mp member
    have pending := ((advances.remaining candidate).mp remaining).1
    rcases own with llama | cuelga
    · exact uncancelled (before.slot candidate pending phone llama).symm
    · exact absent candidate pending cuelga

theorem oneAttempt_step_iff (wellFormed : WellFormed scenario s) (before : OneAttempt s)
    (advances : EventQueue.Advances s.queue event queue)
    (change : Transition scenario s queue draws event t) :
    OneAttempt t ↔ Vacant s event.action := by
  rw [oneAttempt_iff_single before advances change]
  have single : ∀ phone, queue.AtMostOne (Own phone) :=
    fun phone => advances.atMostOne (before.single phone)
  cases change with
  | stop phone action | colgar llamante action =>
      exact iff_of_true single (by simp [action, Vacant])
  | start phone action =>
      rw [single_schedule_iff single (.inl rfl), action, Vacant]
      exact advances.absent_iff (by simp [action, Own])
  | busy phone action busy =>
      have own : Own phone event.action := .inl action
      rw [single_schedule_iff single (.inl rfl)]
      exact iff_of_true (advances.absent (before.single phone) own) (by simp [action, Vacant])
  | cuelga phone action =>
      have own : Own phone event.action := .inr action
      rw [single_schedule_iff single (.inl rfl)]
      exact iff_of_true (advances.absent (before.single phone) own) (by simp [action, Vacant])
  | setUp phone action free =>
      have own : Own phone event.action := .inl action
      have absent := advances.absent (before.single phone) own
      have hangUp : ∀ number, (queue.schedule draws.duracion (.colgar phone)).AtMostOne
          (Own number) :=
        fun number => (EventQueue.atMostOne_schedule_of_not (by simp [Own])).mpr (single number)
      have answer : ∀ number, ((queue.schedule draws.duracion (.colgar phone)).schedule 0
          (.descuelga draws.llamado (.ipv4 (scenario.address phone)) draws.duracion)).AtMostOne
          (Own number) :=
        fun number => (EventQueue.atMostOne_schedule_of_not (by simp [Own])).mpr (hangUp number)
      refine iff_of_true ((single_schedule_iff answer (.inr rfl)).mpr ?_) (by simp [action, Vacant])
      intro other member mine
      simp only [EventQueue.mem_schedule] at member
      rcases member with (old | rfl) | rfl
      · exact absent other old mine
      · simp [Own] at mine
      · simp [Own] at mine
  | descuelga phone destino duracion action =>
      have kept : ∀ number,
          (queue.cancel (s.voips phone).proximallamada).AtMostOne (Own number) :=
        fun number => (single number).mono fun other member => (EventQueue.mem_cancel.mp member).1
      rw [single_schedule_iff kept (.inr rfl), action, Vacant]
      exact absent_cancel_iff wellFormed before advances (by simp [action, Own])

theorem OneAttempt.initial (scenario : Scenario) : OneAttempt (initial scenario) := by
  have untouched := Untouched.initial scenario
  have idle : ∀ event ∈ (System.initial scenario).queue.pending, ∀ phone,
      ¬ Own phone event.action := by
    intro event member phone own
    obtain ⟨other, start | stop⟩ := untouched.events event member
    · simp [start, Own] at own
    · simp [stop, Own] at own
  constructor
  · intro phone first member second _ own
    exact absurd own (idle first member phone)
  · intro event member phone llama
    exact absurd (.inl llama) (idle event member phone)
  · intro event member phone cuelga
    exact absurd (.inr cuelga) (idle event member phone)

/-- In a run no phone ever has two attempts in flight exactly when each phone
starts afresh and answers only while no hang-up of its own is pending. -/
theorem oneAttempt_iff (scenario : Scenario) (inputs : List (Draws scenario)) (after : System)
    (completed : run step (initial scenario) inputs = some after) :
    Throughout step OneAttempt (initial scenario) inputs ↔
      Stepwise step (fun s _ => s.Upcoming fun event => Vacant s event.action)
        (initial scenario) inputs :=
  throughout_iff_upcoming (fun _ => True) (fun _ _ _ _ => trivial)
    (fun wellFormed _ before => oneAttempt_step_iff wellFormed before) trivial
    (OneAttempt.initial scenario) completed

/-- Phone 0 calls phone 1, which answers at once; the second call of phone 0 to
itself leaves it with two hang-ups. -/
def answersTwice : List (Draws twoPhones) := [
  ⟨10, 0, (0 : Fin 2)⟩, ⟨1000, 0, (0 : Fin 2)⟩, ⟨0, 5, (1 : Fin 2)⟩, ⟨0, 0, (0 : Fin 2)⟩,
  ⟨500, 0, (0 : Fin 2)⟩, ⟨0, 0, (0 : Fin 2)⟩, ⟨5, 0, (0 : Fin 2)⟩, ⟨0, 20, (0 : Fin 2)⟩,
  ⟨0, 0, (0 : Fin 2)⟩]

theorem oneAttempt_fails :
    ∃ after, run step (initial twoPhones) answersTwice = some after ∧ ¬ OneAttempt after := by
  have twice : ∃ after, run step (initial twoPhones) answersTwice = some after ∧
      ∃ first ∈ after.queue.pending, ∃ second ∈ after.queue.pending,
        first.action = .cuelga 0 ∧ second.action = .cuelga 0 ∧ first ≠ second :=
    exists_run (by decide +kernel)
  obtain ⟨after, completed, first, member, second, member', own, own', different⟩ := twice
  refine ⟨after, completed, fun attempts => different ?_⟩
  exact attempts.single 0 first member second member' (.inr own) (.inr own')

theorem oneAttempt_holds :
    Throughout step OneAttempt (initial twoPhones) (answersTwice.take 8) :=
  (oneAttempt_iff _ _ _ rfl).mpr (by decide +kernel)

end Simvoip.System
