import Simvoip.Voip.Step

namespace Simvoip.System

open Simvoip.Data Simvoip.Net Simvoip.Semantics

variable {scenario : Scenario} {s t : System} {queue : EventQueue Action}
  {event : Event Action} {draws : Draws scenario} {phone : Nat}

/-! # Calls and their hang-ups

`colgar` knows a call only by its caller.  The calls in progress are those whose
own hang-up is still pending.
-/

def Call.InProgress (s : System) (call : Call) : Prop := call.colgar ∈ s.queue.pending

/-- What holds whether or not calls overlap: every call has its own hang-up,
every pending hang-up belongs to a call, and every entry to one in progress. -/
structure Tracked (s : System) : Prop where
  hangsUp : ∀ call ∈ s.log.calls, call.colgar.action = .colgar call.llamante
  known : ∀ call ∈ s.log.calls, call.colgar.uid < s.queue.nextUid
  punctual : ∀ call ∈ s.log.calls, call.colgar.time = call.instant + call.duracion
  runs : ∀ call ∈ s.log.calls, Call.InProgress s call ∨ call.colgar.time ≤ s.queue.now
  logged : ∀ event ∈ s.queue.pending, ∀ llamante, event.action = .colgar llamante →
    ∃ call ∈ s.log.calls, call.colgar = event
  supported : ∀ llamante ∈ s.central.llamadas,
    ∃ call ∈ s.log.calls, call.llamante = llamante ∧ Call.InProgress s call

/-- Every call is recorded until its own hang-up, which comes when its duration
is over: its entry is in the map, and no other call in progress shares it. -/
structure Lasting (s : System) : Prop where
  entry : ∀ call ∈ s.log.calls, Call.InProgress s call →
    s.central.llamadas.lookup call.llamante = some call.llamado
  single : ∀ call ∈ s.log.calls, ∀ other ∈ s.log.calls, Call.InProgress s call →
    Call.InProgress s other → call.llamante = other.llamante → call = other
  instant : ∀ call ∈ s.log.calls, call.colgar.time = call.instant + call.duracion ∧
    (Call.InProgress s call ∨ call.colgar.time ≤ s.queue.now)

/-- A phone that is about to call finds the drawn callee calling, or calls nobody
itself. -/
def OneOutgoing (s : System) (draws : Draws scenario) : Action → Prop
  | .llama phone => (draws.llamado : Nat) ∈ s.central.llamadas ∨ phone ∉ s.central.llamadas
  | _ => True

instance (s : System) (draws : Draws scenario) : DecidablePred (OneOutgoing s draws)
  | .llama _ => inferInstanceAs (Decidable (_ ∨ _))
  | .startApplication _ | .stopApplication _ | .cuelga _ | .descuelga _ _ _ | .colgar _ =>
      inferInstanceAs (Decidable True)

inductive CallChange (s : System) (queue : EventQueue Action) (draws : Draws scenario)
    (event : Event Action) (t : System) : Prop where
  | setUp (phone : Nat) (action : event.action = .llama phone)
      (free : (draws.llamado : Nat) ∉ s.central.llamadas)
      (pending : Call.InProgress t (newCall queue draws event phone))
      (calls : t.log.calls = newCall queue draws event phone :: s.log.calls)
      (entries : t.central.llamadas = s.central.llamadas.emplace phone draws.llamado)
  | hangUp (llamante : Nat) (action : event.action = .colgar llamante)
      (calls : t.log.calls = s.log.calls)
      (entries : t.central.llamadas = s.central.llamadas.erase llamante)
  | other (action : ∀ llamante, event.action ≠ .colgar llamante)
      (idle : OneOutgoing s draws event.action)
      (calls : t.log.calls = s.log.calls)
      (entries : t.central.llamadas = s.central.llamadas)

theorem Transition.calls (change : Transition scenario s queue draws event t) :
    CallChange s queue draws event t := by
  cases change with
  | start phone action | stop phone action | cuelga phone action
  | descuelga phone destino duracion action =>
      exact .other (by simp [action]) (by simp [action, OneOutgoing]) rfl rfl
  | busy phone action busy =>
      exact .other (by simp [action]) (by simp [action, OneOutgoing, busy]) rfl rfl
  | colgar llamante action => exact .hangUp llamante action rfl rfl
  | setUp phone action free =>
      have pending : (newCall queue draws event phone).colgar ∈
          (callEvents queue draws phone).pending :=
        (mem_callEvents s event).mpr (.inr (.inl rfl))
      exact .setUp phone action free pending rfl rfl

theorem inProgress_step (wellFormed : WellFormed scenario s) (tracked : Tracked s)
    (advances : EventQueue.Advances s.queue event queue)
    (change : Transition scenario s queue draws event t) {call : Call}
    (member : call ∈ s.log.calls) :
    Call.InProgress t call ↔ Call.InProgress s call ∧ call.colgar ≠ event := by
  refine step_kept wellFormed advances change (tracked.known call member) ?_
  intro phone
  rw [tracked.hangsUp call member]
  simp

/-- Only its own hang-up ends a call. -/
theorem inProgress_other (wellFormed : WellFormed scenario s) (tracked : Tracked s)
    (advances : EventQueue.Advances s.queue event queue)
    (change : Transition scenario s queue draws event t) {call : Call}
    (member : call ∈ s.log.calls) (other : event.action ≠ .colgar call.llamante) :
    Call.InProgress t call ↔ Call.InProgress s call := by
  rw [inProgress_step wellFormed tracked advances change member]
  apply and_iff_left
  intro current
  apply other
  rw [← current]
  exact tracked.hangsUp call member

theorem CallChange.cases (change : CallChange s queue draws event t) :
    ∀ call ∈ t.log.calls, call ∈ s.log.calls ∨
      ∃ phone, event.action = .llama phone ∧ call = newCall queue draws event phone ∧
        Call.InProgress t call := by
  intro call member
  cases change with
  | hangUp llamante action calls entries | other action idle calls entries =>
      rw [calls] at member
      exact .inl member
  | setUp phone action free pending calls entries =>
      rw [calls] at member
      rcases List.mem_cons.mp member with rfl | old
      · exact .inr ⟨phone, action, rfl, pending⟩
      · exact .inl old

theorem CallChange.old (change : CallChange s queue draws event t) :
    ∀ call ∈ s.log.calls, call ∈ t.log.calls := by
  intro call member
  cases change with
  | hangUp llamante action calls entries | other action idle calls entries =>
      rw [calls]
      exact member
  | setUp phone action free pending calls entries =>
      rw [calls]
      exact List.mem_cons_of_mem _ member

theorem Tracked.step (wellFormed : WellFormed scenario s) (tracked : Tracked s)
    (advances : EventQueue.Advances s.queue event queue)
    (change : Transition scenario s queue draws event t) : Tracked t := by
  have later : s.queue.nextUid ≤ t.queue.nextUid := advances.counter ▸ change.nextUid_le
  have forward : s.queue.now ≤ t.queue.now := by
    rw [change.now, advances.clock]
    exact s.queue.due event advances.member
  constructor
  · intro call member
    rcases change.calls.cases call member with old | ⟨phone, _, rfl, _⟩
    · exact tracked.hangsUp call old
    · rfl
  · intro call member
    rcases change.calls.cases call member with old | ⟨_, _, _, pending⟩
    · exact Nat.lt_of_lt_of_le (tracked.known call old) later
    · exact t.queue.fresh _ pending
  · intro call member
    rcases change.calls.cases call member with old | ⟨phone, _, rfl, _⟩
    · exact tracked.punctual call old
    · rfl
  · intro call member
    rcases change.calls.cases call member with old | ⟨_, _, _, pending⟩
    · rw [inProgress_step wellFormed tracked advances change old]
      by_cases current : call.colgar = event
      · exact .inr (by rw [current, change.now, advances.clock])
      · exact (tracked.runs call old).imp (fun progress => ⟨progress, current⟩)
          fun ended => Nat.le_trans ended forward
    · exact .inl pending
  · intro other member llamante hangUp
    rcases change.accounted other member with before | accounted
    · have pending := ((advances.remaining other).mp before).1
      obtain ⟨call, old, same⟩ := tracked.logged other pending llamante hangUp
      exact ⟨call, change.calls.old call old, same⟩
    · simpa only [Accounted, hangUp] using accounted
  · intro llamante member
    have inherited : llamante ∈ s.central.llamadas → event.action ≠ .colgar llamante →
        ∃ call ∈ t.log.calls, call.llamante = llamante ∧ Call.InProgress t call := by
      intro present different
      obtain ⟨call, old, caller, progress⟩ := tracked.supported llamante present
      have lasts := inProgress_other wellFormed tracked advances change old (caller ▸ different)
      exact ⟨call, change.calls.old call old, caller, lasts.mpr progress⟩
    cases change.calls with
    | setUp phone action free pending calls entries =>
        by_cases own : llamante = phone
        · exact ⟨_, by rw [calls]; exact List.mem_cons_self, own.symm, pending⟩
        · rw [entries] at member
          exact inherited (StdMap.mem_of_mem_emplace member own) (by simp [action])
    | hangUp caller action calls entries =>
        rw [entries] at member
        obtain ⟨different, present⟩ := Finmap.mem_erase.mp member
        exact inherited present (by simpa [action] using Ne.symm different)
    | other action idle calls entries =>
        rw [entries] at member
        exact inherited member (action llamante)

theorem Tracked.initial (scenario : Scenario) : Tracked (initial scenario) := by
  have untouched := Untouched.initial scenario
  constructor
  · simp [untouched.calls]
  · simp [untouched.calls]
  · simp [untouched.calls]
  · simp [untouched.calls]
  · intro event member llamante hangUp
    obtain ⟨phone, start | stop⟩ := untouched.events event member
    · simp [start] at hangUp
    · simp [stop] at hangUp
  · simp [untouched.entries, Finmap.notMem_empty]

theorem lasting_step_iff (wellFormed : WellFormed scenario s) (tracked : Tracked s)
    (lasting : Lasting s) (advances : EventQueue.Advances s.queue event queue)
    (change : Transition scenario s queue draws event t) :
    Lasting t ↔ OneOutgoing s draws event.action := by
  have after := tracked.step wellFormed advances change
  have before : ∀ call ∈ s.log.calls, Call.InProgress t call → Call.InProgress s call :=
    fun call old progress =>
      ((inProgress_step wellFormed tracked advances change old).mp progress).1
  have inherited : ∀ call ∈ s.log.calls, Call.InProgress t call →
      s.central.llamadas.lookup call.llamante = some call.llamado :=
    fun call old progress => lasting.entry call old (before call old progress)
  have apart : ∀ call ∈ s.log.calls, ∀ other ∈ s.log.calls, Call.InProgress t call →
      Call.InProgress t other → call.llamante = other.llamante → call = other := by
    intro call old other old' progress progress'
    exact lasting.single call old other old' (before call old progress)
      (before other old' progress')
  have instants : ∀ call ∈ t.log.calls, call.colgar.time = call.instant + call.duracion ∧
      (Call.InProgress t call ∨ call.colgar.time ≤ t.queue.now) :=
    fun call member => ⟨after.punctual call member, after.runs call member⟩
  cases change.calls with
  | other action idle calls entries =>
      refine iff_of_true ⟨?_, ?_, instants⟩ idle
      · rw [calls, entries]
        exact inherited
      · rw [calls]
        exact apart
  | hangUp llamante action calls entries =>
      refine iff_of_true ⟨?_, ?_, instants⟩ (by simp [action, OneOutgoing])
      · rw [calls, entries]
        intro call old progress
        refine StdMap.lookup_erase_iff.mpr ⟨fun same => ?_, inherited call old progress⟩
        -- the hang-up belongs to the only call in progress of its caller
        obtain ⟨hung, member, hangUp⟩ := tracked.logged event advances.member llamante action
        have caller := tracked.hangsUp hung member
        rw [hangUp, action, Action.colgar.injEq] at caller
        have identical := lasting.single call old hung member (before call old progress)
          (by rw [Call.InProgress, hangUp]; exact advances.member) (by rw [same, caller])
        have current := (inProgress_step wellFormed tracked advances change old).mp progress
        exact current.2 (by rw [identical, hangUp])
      · rw [calls]
        exact apart
  | setUp phone action free pending calls entries =>
      have distinct : ∀ call ∈ s.log.calls, call ≠ newCall queue draws event phone := by
        intro call old same
        have below := tracked.known call old
        rw [same, ← advances.counter] at below
        exact Nat.lt_irrefl _ below
      constructor
      · intro single
        simp only [action, OneOutgoing, free, false_or]
        intro engaged
        obtain ⟨call, old, caller, progress⟩ := tracked.supported phone engaged
        have lasts := inProgress_other wellFormed tracked advances change old (by simp [action])
        refine distinct call old
          (single.single call ?_ _ ?_ (lasts.mpr progress) pending caller)
        · rw [calls]
          exact List.mem_cons_of_mem _ old
        · rw [calls]
          exact List.mem_cons_self
      · intro outgoing
        simp only [action, OneOutgoing, free, false_or] at outgoing
        rw [StdMap.emplace_of_notMem _ outgoing] at entries
        have elsewhere : ∀ call ∈ s.log.calls, Call.InProgress t call →
            call.llamante ≠ phone := by
          intro call old progress same
          have found := Finmap.mem_of_lookup_eq_some (inherited call old progress)
          exact outgoing (same ▸ found)
        refine ⟨?_, ?_, instants⟩
        · rw [calls, entries]
          intro call member progress
          rcases List.mem_cons.mp member with rfl | old
          · exact Finmap.lookup_insert _
          · rw [Finmap.lookup_insert_of_ne _ (elsewhere call old progress)]
            exact inherited call old progress
        · rw [calls]
          intro call member other member' progress progress' same
          rcases List.mem_cons.mp member with rfl | old <;>
            rcases List.mem_cons.mp member' with rfl | old'
          · rfl
          · exact absurd same.symm (elsewhere other old' progress')
          · exact absurd same (elsewhere call old progress)
          · exact apart call old other old' progress progress' same

/-- In a run every call is recorded until its own hang-up exactly when no phone
that already calls somebody gets a second call. -/
theorem lasting_iff (scenario : Scenario) (inputs : List (Draws scenario)) (after : System)
    (completed : run step (initial scenario) inputs = some after) :
    Throughout step Lasting (initial scenario) inputs ↔
      Stepwise step (fun s draws => s.Upcoming fun event => OneOutgoing s draws event.action)
        (initial scenario) inputs := by
  have untouched := Untouched.initial scenario
  exact throughout_iff_upcoming Tracked
    (fun wellFormed tracked => tracked.step wellFormed) lasting_step_iff
    (Tracked.initial scenario)
    ⟨by simp [untouched.calls], by simp [untouched.calls], by simp [untouched.calls]⟩ completed

/-- Phone 0 calls itself.  Both of its hang-ups schedule an attempt, and both
attempts reach phone 1; the shorter call ends the entry of the longer one. -/
def overlapping : List (Draws twoPhones) := [
  ⟨10, 0, (0 : Fin 2)⟩, ⟨1000, 0, (0 : Fin 2)⟩, ⟨0, 5, (0 : Fin 2)⟩, ⟨0, 0, (0 : Fin 2)⟩,
  ⟨0, 0, (0 : Fin 2)⟩, ⟨5, 0, (0 : Fin 2)⟩, ⟨5, 0, (0 : Fin 2)⟩, ⟨0, 100, (1 : Fin 2)⟩,
  ⟨0, 50, (1 : Fin 2)⟩, ⟨0, 0, (0 : Fin 2)⟩, ⟨0, 0, (0 : Fin 2)⟩, ⟨1000, 0, (0 : Fin 2)⟩,
  ⟨1000, 0, (0 : Fin 2)⟩, ⟨0, 0, (0 : Fin 2)⟩]

theorem lasting_fails :
    ∃ after, run step (initial twoPhones) overlapping = some after ∧ ¬ Lasting after := by
  have lost : ∃ after, run step (initial twoPhones) overlapping = some after ∧
      ∃ call ∈ after.log.calls, call.colgar ∈ after.queue.pending ∧
        after.central.llamadas.lookup call.llamante ≠ some call.llamado :=
    exists_run (by decide +kernel)
  obtain ⟨after, completed, call, member, progress, missing⟩ := lost
  exact ⟨after, completed, fun lasting => missing (lasting.entry call member progress)⟩

theorem lasting_holds :
    Throughout step Lasting (initial twoPhones) (overlapping.take 8) :=
  (lasting_iff _ _ _ rfl).mpr (by decide +kernel)

end Simvoip.System
