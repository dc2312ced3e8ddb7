import Simvoip.Semantics.Rank
import Simvoip.Voip.Attempts

namespace Simvoip.System

open Simvoip.Data Simvoip.Net Simvoip.Semantics

variable {scenario : Scenario} {s t : System} {queue : EventQueue Action}
  {event : Event Action} {draws : Draws scenario} {phone stop ticks : Nat}

/-! # The end of a simulation

`Simulator::Stop` ends a run at a fixed instant.  An answered call makes two hang-ups
of one attempt, so the attempts may double with every wait between calls.
-/

/-- How many events an attempt leads to at most within so many ticks, when phones
wait for a tick or more between their calls. -/
def attempts : Nat → Nat
  | 0 => 0
  | ticks + 1 => 5 + 2 * attempts ticks

theorem attempts_eq (ticks : Nat) : attempts ticks = 5 * (2 ^ ticks - 1) := by
  induction ticks with
  | zero => rfl
  | succ ticks ih =>
      have positive := Nat.two_pow_pos ticks
      rw [attempts, ih, Nat.pow_succ]
      omega

theorem attempts_mono {more : Nat} (fewer : ticks ≤ more) : attempts ticks ≤ attempts more := by
  rw [attempts_eq, attempts_eq]
  exact Nat.mul_le_mul_left 5 (Nat.sub_le_sub_right (Nat.pow_le_pow_right (by decide) fewer) 1)

/-- The events that an event leads to, itself included, in its own tick and in as many
more. -/
def consequences (ticks : Nat) : Action → Nat
  | .startApplication _ => 1 + attempts ticks
  | .stopApplication _ => 1
  | .llama _ => attempts (ticks + 1)
  | .cuelga _ => 1 + attempts ticks
  | .descuelga _ _ _ => 2 + attempts ticks
  | .colgar _ => 1

def weight (stop : Nat) (event : Event Action) : Nat :=
  match stop + 1 - event.time with
  | 0 => 0
  | ticks + 1 => consequences ticks event.action

theorem consequences_mono {more : Nat} (fewer : ticks ≤ more) (action : Action) :
    consequences ticks action ≤ consequences more action := by
  have attempts := attempts_mono fewer
  cases action with
  | startApplication phone => exact Nat.add_le_add_left attempts 1
  | stopApplication phone => exact Nat.le_refl _
  | llama phone => exact attempts_mono (Nat.succ_le_succ fewer)
  | cuelga phone => exact Nat.add_le_add_left attempts 1
  | descuelga phone destino duracion => exact Nat.add_le_add_left attempts 2
  | colgar llamante => exact Nat.le_refl _

theorem weight_le (early : stop ≤ event.time + ticks) :
    weight stop event ≤ consequences ticks event.action := by
  unfold weight
  split
  · exact Nat.zero_le _
  · rename_i more left
    exact consequences_mono (by omega) _

theorem weight_llama (action : event.action = .llama phone) :
    weight stop event = attempts (stop + 1 - event.time) := by
  unfold weight
  split
  · rename_i none
    rw [none, attempts]
  · rename_i more left
    rw [action, left, consequences]

/-- What an event leads to weighs less than the event. -/
theorem weigh_step_lt (advances : EventQueue.Advances s.queue event queue)
    (change : Transition scenario s queue draws event t) (within : event.time ≤ stop)
    (waits : 1 ≤ draws.entreLlamadas) :
    t.queue.weigh (weight stop) < s.queue.weigh (weight stop) := by
  obtain ⟨ticks, left⟩ := Nat.exists_eq_add_of_le within
  have own : weight stop event = consequences ticks event.action := by
    have now : stop + 1 - event.time = ticks + 1 := by omega
    rw [weight, now]
  have llama : ∀ {rest : EventQueue Action} {phone : Nat}, rest.now = event.time →
      weight stop (rest.scheduled draws.entreLlamadas (.llama phone)) ≤ attempts ticks := by
    intro rest phone clock
    rw [weight_llama rfl, EventQueue.scheduled_time, clock]
    exact attempts_mono (by omega)
  have other : ∀ {rest : EventQueue Action} {delay : Nat} {action : Action},
      rest.now = event.time →
        weight stop (rest.scheduled delay action) ≤ consequences ticks action := by
    intro rest delay action clock
    apply weight_le
    rw [EventQueue.scheduled_time, clock]
    omega
  have clock := advances.clock
  rw [advances.weigh, own]
  cases change with
  | stop phone action | colgar phone action =>
      rw [action]
      exact Nat.lt_add_of_pos_left Nat.one_pos
  | start phone action =>
      have next := @llama queue phone clock
      rw [EventQueue.weigh_schedule, action, consequences]
      omega
  | cuelga phone action =>
      have next := @llama queue phone clock
      rw [EventQueue.weigh_schedule, action, consequences]
      omega
  | busy phone action busy =>
      have next := @llama queue phone clock
      rw [EventQueue.weigh_schedule, action, consequences, attempts]
      omega
  | setUp phone action free =>
      simp only [callEvents, EventQueue.weigh_schedule, action, consequences, attempts]
      have colgar := @other queue draws.duracion (.colgar phone) clock
      have descuelga := @other (queue.schedule draws.duracion (.colgar phone)) 0
        (.descuelga draws.llamado (.ipv4 (scenario.address phone)) draws.duracion) clock
      have cuelga := @other ((queue.schedule draws.duracion (.colgar phone)).schedule 0
        (.descuelga draws.llamado (.ipv4 (scenario.address phone)) draws.duracion))
        draws.duracion (.cuelga phone) clock
      simp only [consequences] at colgar descuelga cuelga
      omega
  | descuelga phone destino duracion action =>
      have fewer := @EventQueue.weigh_cancel_le _ queue (weight stop)
        (s.voips phone).proximallamada
      have cuelga := @other (queue.cancel (s.voips phone).proximallamada)
        (s.voips phone).duracion (.cuelga phone) clock
      rw [EventQueue.weigh_schedule, action]
      simp only [consequences] at cuelga ⊢
      omega

/-- Nothing is left to do up to the stop. -/
def Finished (stop : Nat) (s : System) : Prop := ∀ event ∈ s.queue.pending, stop < event.time

/-- A bound for the number of events up to the stop. -/
def workload (scenario : Scenario) (stop : Nat) : Nat :=
  ((List.range scenario.phones).map fun phone =>
    (if scenario.startTime phone ≤ stop then 1 + 5 * (2 ^ (stop - scenario.startTime phone) - 1)
      else 0) + if scenario.stopTime phone ≤ stop then 1 else 0).sum

theorem weigh_constructed (scenario : Scenario) (stop count : Nat) :
    (constructed scenario count).queue.now = 0 ∧
      (constructed scenario count).queue.weigh (weight stop) =
        ((List.range count).map fun phone =>
          (if scenario.startTime phone ≤ stop then
            1 + 5 * (2 ^ (stop - scenario.startTime phone) - 1) else 0) +
              if scenario.stopTime phone ≤ stop then 1 else 0).sum := by
  induction count with
  | zero => exact ⟨rfl, rfl⟩
  | succ phone ih =>
      obtain ⟨clock, weighed⟩ := ih
      have start : ∀ queue : EventQueue Action, queue.now = 0 →
          weight stop (queue.scheduled (scenario.startTime phone) (.startApplication phone)) =
            if scenario.startTime phone ≤ stop then
              1 + 5 * (2 ^ (stop - scenario.startTime phone) - 1) else 0 := by
        intro queue now
        rw [weight, EventQueue.scheduled_time, now, Nat.zero_add]
        split
        · rw [if_neg (by omega)]
        · rename_i ticks left
          have remaining : stop - scenario.startTime phone = ticks := by omega
          rw [if_pos (by omega), remaining, ← attempts_eq]
          rfl
      have halt : ∀ queue : EventQueue Action, queue.now = 0 →
          weight stop (queue.scheduled (scenario.stopTime phone) (.stopApplication phone)) =
            if scenario.stopTime phone ≤ stop then 1 else 0 := by
        intro queue now
        rw [weight, EventQueue.scheduled_time, now, Nat.zero_add]
        split
        · rw [if_neg (by omega)]
        · rw [if_pos (by omega)]
          rfl
      constructor
      · exact clock
      · rw [List.range_succ, List.map_append, List.sum_append, ← weighed]
        simp only [System.constructed, newVoip, EventQueue.weigh_schedule, List.map_cons,
          List.map_nil, List.sum_singleton]
        rw [start _ clock, halt ((constructed scenario phone).queue.schedule _ _) clock, Nat.add_assoc]

/-- When phones always wait between their calls, the simulation comes to its stop
after a bounded number of events. -/
theorem simulation_ends (scenario : Scenario) (stop : Nat) (values : Nat → Draws scenario)
    (waits : ∀ index, 1 ≤ (values index).entreLlamadas) :
    ∃ n ≤ workload scenario stop, ∃ s,
      run step (initial scenario) ((List.range n).map values) = some s ∧ Finished stop s := by
  have moves : ∀ (s : System) (draws : Draws scenario), WellFormed scenario s →
      1 ≤ draws.entreLlamadas → ¬ Finished stop s → ∃ next, s.step draws = some next ∧
        WellFormed scenario next ∧
          next.queue.weigh (weight stop) < s.queue.weigh (weight stop) := by
    intro s draws wellFormed waits unfinished
    simp only [Finished, not_forall, Nat.not_lt] at unfinished
    obtain ⟨early, member, within⟩ := unfinished
    obtain ⟨first, rest, advanced⟩ := EventQueue.exists_advance member
    have taken : s.step draws = some ({ s with queue := rest }.execute first draws) := by
      rw [step, advanced]
    obtain ⟨event, queue, advances, change⟩ := step_cases wellFormed taken
    exact ⟨_, taken, wellFormed.step taken, weigh_step_lt advances change
      (Nat.le_trans (advances.first early member) within) waits⟩
  obtain ⟨n, fewer, s, completed, _, finished⟩ :=
    @exists_finished _ (Draws scenario) step _ (Finished stop) (fun draws => 1 ≤ draws.entreLlamadas)
      (fun s => s.queue.weigh (weight stop)) moves _ (WellFormed.initial scenario) values waits
  have bound := (weigh_constructed scenario stop scenario.phones).2
  exact ⟨n, Nat.le_trans fewer (Nat.le_of_eq bound), s, completed, finished⟩

theorem simulation_ends_twoPhones : ∃ n ≤ workload twoPhones 10000000, ∃ s,
    run step (initial twoPhones)
        ((List.range n).map fun _ => (⟨2000000, 1000000, (1 : Fin 2)⟩ : Draws twoPhones)) =
      some s ∧ Finished 10000000 s :=
  simulation_ends twoPhones 10000000 (fun _ => ⟨2000000, 1000000, (1 : Fin 2)⟩)
    fun _ => by decide

/-! Where phones do not wait, the clock may never pass the instant they start at. -/

/-- Every phone has an event of its own no later than its start. -/
structure Standing (scenario : Scenario) (s : System) : Prop where
  instant : ∀ phone, (s.voips phone).duracion = 0
  own : ∀ phone < scenario.phones, ∃ event ∈ s.queue.pending,
    event.time ≤ scenario.startTime phone ∧
      (event.action = .startApplication phone ∨ Own phone event.action)

/-- Whatever a phone does, it schedules an event of its own at once. -/
theorem exists_own (change : Transition scenario s queue draws event t)
    (hurried : draws.entreLlamadas = 0 ∧ draws.duracion = 0)
    (instant : (s.voips phone).duracion = 0)
    (acts : event.action = .startApplication phone ∨ Own phone event.action ∨
      ∃ destino duracion, event.action = .descuelga phone destino duracion) :
    ∃ other ∈ t.queue.pending, other.time = queue.now ∧ Own phone other.action := by
  obtain ⟨waits, talks⟩ := hurried
  unfold Own at acts ⊢
  cases change with
  | stop other action | colgar other action => simp [action] at acts
  | start other action | busy other action busy | cuelga other action =>
      have same : other = phone := by simpa [action] using acts
      subst same
      exact ⟨_, EventQueue.mem_schedule.mpr (.inr rfl), by simp [waits], .inl rfl⟩
  | setUp other action free =>
      have same : other = phone := by simpa [action] using acts
      subst same
      exact ⟨_, EventQueue.mem_schedule.mpr (.inr rfl), by simp [talks], .inr rfl⟩
  | descuelga other destino duracion action =>
      have same : other = phone := by simpa [action] using acts
      subst same
      exact ⟨_, EventQueue.mem_schedule.mpr (.inr rfl), by simp [instant], .inr rfl⟩

theorem Standing.step (wellFormed : WellFormed scenario s) (standing : Standing scenario s)
    (advances : EventQueue.Advances s.queue event queue)
    (change : Transition scenario s queue draws event t)
    (hurried : draws.entreLlamadas = 0 ∧ draws.duracion = 0) : Standing scenario t := by
  constructor
  · intro phone
    cases change with
    | stop | colgar => exact standing.instant phone
    | start | cuelga | descuelga =>
        rw [update_kept Voip.duracion (by rfl)]
        exact standing.instant phone
    | busy other | setUp other =>
        by_cases same : phone = other
        · subst same
          simp only [Function.update_self]
          exact hurried.2
        · simp only [Function.update_of_ne same]
          exact standing.instant phone
  · intro phone inside
    obtain ⟨other, member, early, own⟩ := standing.own phone inside
    have present : queue.now ≤ scenario.startTime phone := by
      rw [advances.clock]
      exact Nat.le_trans (advances.first other member) early
    have renewed := exists_own change hurried (standing.instant phone)
    by_cases current : other = event
    · subst current
      obtain ⟨next, pending, now, same⟩ := renewed (own.imp_right .inl)
      exact ⟨next, pending, now ▸ present, .inr same⟩
    · by_cases kept : other ∈ t.queue.pending
      · exact ⟨other, kept, early, own⟩
      · -- only the answer of a phone takes its attempt away
        have known := advances.counter ▸ s.queue.fresh other member
        rw [change.kept known, advances.remaining] at kept
        simp only [not_and, not_forall, not_not] at kept
        obtain ⟨number, destino, duracion, action, slot⟩ := kept ⟨member, current⟩
        have llama := (wellFormed.slot number other.uid slot.symm).2 other member rfl
        have same : number = phone := by simpa [llama, Own] using own
        subst same
        obtain ⟨next, pending, now, same⟩ := renewed (.inr (.inr ⟨destino, duracion, action⟩))
        exact ⟨next, pending, now ▸ present, .inr same⟩

theorem Standing.initial (scenario : Scenario) : Standing scenario (initial scenario) := by
  suffices standing : ∀ count, (constructed scenario count).queue.now = 0 ∧
      (∀ phone, ((constructed scenario count).voips phone).duracion = 0) ∧
        ∀ phone < count, ∃ event ∈ (constructed scenario count).queue.pending,
          event.time = scenario.startTime phone ∧ event.action = .startApplication phone by
    obtain ⟨_, instant, own⟩ := standing scenario.phones
    refine ⟨instant, fun phone inside => ?_⟩
    obtain ⟨event, member, time, start⟩ := own phone inside
    exact ⟨event, member, Nat.le_of_eq time, .inl start⟩
  intro count
  induction count with
  | zero => exact ⟨rfl, fun _ => rfl, by simp⟩
  | succ count ih =>
      obtain ⟨clock, instant, own⟩ := ih
      refine ⟨clock, ?_, ?_⟩
      · intro phone
        by_cases same : phone = count
        · subst same
          simp [System.constructed, newVoip]
        · simp only [System.constructed, newVoip, Function.update_of_ne same]
          exact instant phone
      · intro phone inside
        simp only [System.constructed, newVoip, EventQueue.mem_schedule]
        rcases Nat.lt_succ_iff_lt_or_eq.mp inside with earlier | rfl
        · obtain ⟨event, member, time, start⟩ := own phone earlier
          exact ⟨event, .inl (.inl member), time, start⟩
        · exact ⟨_, .inl (.inr rfl), by simp [clock], rfl⟩

/-- When phones neither wait nor talk, no run of theirs ends and none passes the
instant at which the first of them starts. -/
theorem clock_stands (scenario : Scenario) (inputs : List (Draws scenario))
    (populated : 0 < scenario.phones)
    (hurried : ∀ draws ∈ inputs, draws.entreLlamadas = 0 ∧ draws.duracion = 0) :
    ∃ s, run step (initial scenario) inputs = some s ∧
      ∀ phone < scenario.phones, s.queue.now ≤ scenario.startTime phone := by
  suffices reached : ∃ s, run step (initial scenario) inputs = some s ∧
      WellFormed scenario s ∧ Standing scenario s by
    obtain ⟨s, completed, _, standing⟩ := reached
    refine ⟨s, completed, fun phone inside => ?_⟩
    obtain ⟨event, member, early, _⟩ := standing.own phone inside
    exact Nat.le_trans (s.queue.due event member) early
  induction inputs using List.reverseRecOn with
  | nil => exact ⟨_, rfl, WellFormed.initial scenario, Standing.initial scenario⟩
  | append_singleton inputs draws ih =>
      obtain ⟨s, completed, wellFormed, standing⟩ :=
        ih fun earlier member => hurried earlier (List.mem_append_left _ member)
      obtain ⟨own, pending, _⟩ := standing.own 0 populated
      obtain ⟨first, rest, advanced⟩ := EventQueue.exists_advance pending
      have taken : s.step draws = some ({ s with queue := rest }.execute first draws) := by
        rw [System.step, advanced]
      obtain ⟨event, queue, advances, change⟩ := step_cases wellFormed taken
      refine ⟨_, by rw [run_snoc, completed, Option.bind_some, taken], wellFormed.step taken, ?_⟩
      exact standing.step wellFormed advances change (hurried draws (by simp))

theorem clock_stands_twoPhones : ∃ s, run step (initial twoPhones)
      (List.replicate 1000 (⟨0, 0, (0 : Fin 2)⟩ : Draws twoPhones)) = some s ∧
    ∀ phone < 2, s.queue.now ≤ 1000000 :=
  clock_stands twoPhones (List.replicate 1000 ⟨0, 0, (0 : Fin 2)⟩) (by decide) (by
    intro draws member
    rw [List.eq_of_mem_replicate member]
    exact ⟨rfl, rfl⟩)

end Simvoip.System
