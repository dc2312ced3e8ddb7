import Mathlib.Algebra.GroupWithZero.Nat
import Mathlib.Algebra.Order.BigOperators.Group.List
import Mathlib.Algebra.Order.Group.Nat
import Mathlib.Data.List.Pairwise
import Mathlib.Tactic.Common

namespace Simvoip.Data

universe u

/-! # Discrete-event queues

Events are executed in nondecreasing time, first in first out among equal
times.  Every event gets a fresh identifier when it is scheduled, so the order
of identifiers is the order of scheduling.
-/

structure Event (α : Type u) where
  uid : Nat
  time : Nat
  action : α
deriving DecidableEq

/-- Pending events are kept in scheduling order.  No pending event lies in the
past, and identifiers are never reused. -/
structure EventQueue (α : Type u) where
  now : Nat
  nextUid : Nat
  pending : List (Event α)
  ordered : pending.Pairwise (fun first second => first.uid < second.uid)
  fresh : ∀ event ∈ pending, event.uid < nextUid
  due : ∀ event ∈ pending, now ≤ event.time

namespace EventQueue

variable {α : Type u} {queue rest : EventQueue α} {event other : Event α} {action : α} {delay : Nat}

def empty : EventQueue α where
  now := 0
  nextUid := 0
  pending := []
  ordered := .nil
  fresh := by simp
  due := by simp

def scheduled (queue : EventQueue α) (delay : Nat) (action : α) : Event α where
  uid := queue.nextUid
  time := queue.now + delay
  action := action

def schedule (queue : EventQueue α) (delay : Nat) (action : α) : EventQueue α where
  now := queue.now
  nextUid := queue.nextUid + 1
  pending := queue.pending ++ [queue.scheduled delay action]
  ordered := by
    rw [List.pairwise_append]
    refine ⟨queue.ordered, List.pairwise_singleton _ _, ?_⟩
    intro first member second last
    rw [List.mem_singleton.mp last]
    exact queue.fresh first member
  fresh := by
    intro event member
    rcases List.mem_append.mp member with old | new
    · exact Nat.lt_succ_of_lt (queue.fresh event old)
    · rw [List.mem_singleton.mp new]
      exact Nat.lt_succ_self _
  due := by
    intro event member
    rcases List.mem_append.mp member with old | new
    · exact queue.due event old
    · rw [List.mem_singleton.mp new]
      exact Nat.le_add_right _ _

/-- Cancelling an identifier that is unset, or whose event is no longer
pending, changes nothing. -/
def cancel (queue : EventQueue α) (id : Option Nat) : EventQueue α where
  now := queue.now
  nextUid := queue.nextUid
  pending := queue.pending.filter fun event => some event.uid ≠ id
  ordered := queue.ordered.filter _
  fresh := fun event member => queue.fresh event (List.mem_filter.mp member).1
  due := fun event member => queue.due event (List.mem_filter.mp member).1

/-- Among events listed in scheduling order, the first one of least time. -/
def earliest : List (Event α) → Option (Event α)
  | [] => none
  | event :: later =>
      match earliest later with
      | none => some event
      | some candidate => if event.time ≤ candidate.time then some event else some candidate

theorem earliest_mem {events : List (Event α)} (found : earliest events = some event) :
    event ∈ events := by
  induction events generalizing event with
  | nil => cases found
  | cons head later ih =>
      cases rest : earliest later with
      | none =>
          simp only [earliest, rest, Option.some.injEq] at found
          simp [found]
      | some candidate =>
          simp only [earliest, rest] at found
          split at found
          · simp only [Option.some.injEq] at found
            simp [found]
          · simp only [Option.some.injEq] at found
            subst found
            exact List.mem_cons_of_mem _ (ih rest)

theorem earliest_le {events : List (Event α)} (found : earliest events = some event) :
    ∀ other ∈ events, event.time ≤ other.time := by
  induction events generalizing event with
  | nil => cases found
  | cons head later ih =>
      intro other member
      cases rest : earliest later with
      | none =>
          simp only [earliest, rest, Option.some.injEq] at found
          subst found
          rcases List.mem_cons.mp member with rfl | tail
          · exact Nat.le_refl _
          · cases later with
            | nil => cases tail
            | cons next later =>
                simp only [earliest] at rest
                split at rest
                · cases rest
                · split at rest <;> cases rest
      | some candidate =>
          simp only [earliest, rest] at found
          split at found <;> rename_i comparison <;> simp only [Option.some.injEq] at found <;>
            subst found
          · rcases List.mem_cons.mp member with rfl | tail
            · exact Nat.le_refl _
            · exact Nat.le_trans comparison (ih rest other tail)
          · rcases List.mem_cons.mp member with rfl | tail
            · exact Nat.le_of_lt (Nat.lt_of_not_le comparison)
            · exact ih rest other tail

def next? (queue : EventQueue α) : Option (Event α) := earliest queue.pending

def advance (queue : EventQueue α) : Option (Event α × EventQueue α) :=
  match found : queue.next? with
  | none => none
  | some event => some (event, {
      now := event.time
      nextUid := queue.nextUid
      pending := queue.pending.filter fun other => other.uid ≠ event.uid
      ordered := queue.ordered.filter _
      fresh := fun other member => queue.fresh other (List.mem_filter.mp member).1
      due := fun other member => earliest_le found other (List.mem_filter.mp member).1 })

def elapse (queue : EventQueue α) (instant : Nat) : Option (EventQueue α) :=
  if early : ∀ event ∈ queue.pending, instant ≤ event.time then
    some { queue with
      now := max queue.now instant
      due := fun event member =>
        Nat.max_le.mpr (And.intro (queue.due event member) (early event member)) }
  else none

structure Advances (queue : EventQueue α) (event : Event α) (rest : EventQueue α) : Prop where
  selected : queue.next? = some event
  member : event ∈ queue.pending
  first : ∀ other ∈ queue.pending, event.time ≤ other.time
  clock : rest.now = event.time
  counter : rest.nextUid = queue.nextUid
  remaining : ∀ other, other ∈ rest.pending ↔ other ∈ queue.pending ∧ other ≠ event

theorem eq_of_uid (left : event ∈ queue.pending) (right : other ∈ queue.pending)
    (same : event.uid = other.uid) : event = other := by
  by_contra different
  have unequal : queue.pending.Pairwise fun first second => first.uid ≠ second.uid :=
    queue.ordered.imp fun less => Nat.ne_of_lt less
  have symmetric : Std.Symm fun first second : Event α => first.uid ≠ second.uid :=
    ⟨fun _ _ => Ne.symm⟩
  exact unequal.forall left right different same

theorem advance_spec (taken : queue.advance = some (event, rest)) :
    Advances queue event rest := by
  unfold advance at taken
  split at taken
  · cases taken
  · rename_i candidate found
    simp only [Option.some.injEq, Prod.mk.injEq] at taken
    obtain ⟨rfl, rfl⟩ := taken
    have member := earliest_mem found
    refine ⟨found, member, earliest_le found, rfl, rfl, fun other => ?_⟩
    simp only [List.mem_filter, ne_eq, decide_not, Bool.not_eq_eq_eq_not, Bool.not_true,
      decide_eq_false_iff_not, and_congr_right_iff]
    intro pending
    exact ⟨fun distinct same => distinct (by rw [same]),
      fun distinct same => distinct (eq_of_uid pending member same)⟩

theorem exists_advance (member : event ∈ queue.pending) :
    ∃ first rest, queue.advance = some (first, rest) := by
  unfold advance
  split
  · rename_i none
    unfold next? at none
    cases pending : queue.pending with
    | nil => simp [pending] at member
    | cons head later =>
        simp only [pending, earliest] at none
        split at none
        · cases none
        · split at none <;> cases none
  · exact ⟨_, _, rfl⟩

@[simp] theorem mem_schedule :
    other ∈ (queue.schedule delay action).pending ↔
      other ∈ queue.pending ∨ other = queue.scheduled delay action := by
  simp [schedule]

@[simp] theorem schedule_now : (queue.schedule delay action).now = queue.now := rfl

@[simp] theorem schedule_nextUid :
    (queue.schedule delay action).nextUid = queue.nextUid + 1 := rfl

@[simp] theorem mem_cancel {id : Option Nat} :
    other ∈ (queue.cancel id).pending ↔ other ∈ queue.pending ∧ some other.uid ≠ id := by
  simp [cancel]

@[simp] theorem cancel_now {id : Option Nat} : (queue.cancel id).now = queue.now := rfl

@[simp] theorem cancel_nextUid {id : Option Nat} :
    (queue.cancel id).nextUid = queue.nextUid := rfl

@[simp] theorem scheduled_uid : (queue.scheduled delay action).uid = queue.nextUid := rfl

@[simp] theorem scheduled_time :
    (queue.scheduled delay action).time = queue.now + delay := rfl

@[simp] theorem scheduled_action : (queue.scheduled delay action).action = action := rfl

theorem ne_scheduled (member : event ∈ queue.pending) :
    event ≠ queue.scheduled delay action := by
  intro same
  have below := queue.fresh event member
  rw [same] at below
  exact Nat.lt_irrefl _ below

def Absent (queue : EventQueue α) (condition : α → Prop) : Prop :=
  ∀ event ∈ queue.pending, ¬ condition event.action

instance (queue : EventQueue α) (condition : α → Prop) [DecidablePred condition] :
    Decidable (queue.Absent condition) :=
  inferInstanceAs (Decidable (∀ event ∈ queue.pending, ¬ condition event.action))

def Due (queue : EventQueue α) (instant : Nat) (action : α) : Prop :=
  ∃ event ∈ queue.pending, event.time = instant ∧ event.action = action

instance [DecidableEq α] (queue : EventQueue α) (instant : Nat) (action : α) :
    Decidable (queue.Due instant action) :=
  inferInstanceAs (Decidable (∃ event ∈ queue.pending, event.time = instant ∧
    event.action = action))

def AtMostOne (queue : EventQueue α) (condition : α → Prop) : Prop :=
  ∀ event ∈ queue.pending, ∀ other ∈ queue.pending,
    condition event.action → condition other.action → event = other

section

variable {condition : α → Prop}

theorem AtMostOne.mono (single : queue.AtMostOne condition)
    (fewer : ∀ event ∈ rest.pending, event ∈ queue.pending) : rest.AtMostOne condition :=
  fun event member other member' =>
    single event (fewer event member) other (fewer other member')

theorem atMostOne_schedule_iff (meets : condition action) :
    (queue.schedule delay action).AtMostOne condition ↔ queue.Absent condition := by
  constructor
  · intro single event member other
    have same := single event (mem_schedule.mpr (.inl member))
      (queue.scheduled delay action) (mem_schedule.mpr (.inr rfl)) other meets
    exact ne_scheduled member same
  · intro absent event member other member' meets meets'
    have only : ∀ {event : Event α}, event ∈ (queue.schedule delay action).pending →
        condition event.action → event = queue.scheduled delay action := by
      intro event member meets
      rcases mem_schedule.mp member with old | new
      · exact absurd meets (absent event old)
      · exact new
    rw [only member meets, only member' meets']

theorem atMostOne_schedule_of_not (misses : ¬ condition action) :
    (queue.schedule delay action).AtMostOne condition ↔ queue.AtMostOne condition := by
  have old : ∀ {event : Event α}, event ∈ (queue.schedule delay action).pending →
      condition event.action → event ∈ queue.pending := by
    intro event member meets
    refine (mem_schedule.mp member).resolve_right fun same => misses ?_
    rw [same] at meets
    exact meets
  constructor
  · intro single event member other member'
    exact single event (mem_schedule.mpr (.inl member)) other (mem_schedule.mpr (.inl member'))
  · intro single event member other member' meets meets'
    exact single event (old member meets) other (old member' meets') meets meets'

theorem Advances.atMostOne (advances : Advances queue event rest)
    (single : queue.AtMostOne condition) : rest.AtMostOne condition :=
  single.mono fun other member => ((advances.remaining other).mp member).1

theorem Advances.absent (advances : Advances queue event rest)
    (single : queue.AtMostOne condition) (meets : condition event.action) :
    rest.Absent condition := by
  intro other member meets'
  obtain ⟨pending, different⟩ := (advances.remaining other).mp member
  exact different (single other pending event advances.member meets' meets)

theorem Advances.absent_iff (advances : Advances queue event rest)
    (misses : ¬ condition event.action) : rest.Absent condition ↔ queue.Absent condition := by
  constructor
  · intro absent other member meets
    refine absent other ((advances.remaining other).mpr ⟨member, fun same => ?_⟩) meets
    exact misses (same ▸ meets)
  · intro absent other member
    exact absent other ((advances.remaining other).mp member).1

end

/-! Pending events of a kind are counted over the list, so the lists themselves are
compared: what remains after an event is the rest of a permutation. -/

def count (queue : EventQueue α) (condition : α → Prop) [DecidablePred condition] : Nat :=
  queue.pending.countP fun event => condition event.action

theorem nodup (queue : EventQueue α) : queue.pending.Nodup :=
  queue.ordered.imp fun less same => Nat.ne_of_lt less (congrArg Event.uid same)

theorem Advances.perm (advances : Advances queue event rest) :
    queue.pending.Perm (event :: rest.pending) := by
  have distinct : (event :: rest.pending).Nodup := by
    refine List.nodup_cons.mpr ⟨fun member => ?_, rest.nodup⟩
    exact ((advances.remaining event).mp member).2 rfl
  refine (List.perm_ext_iff_of_nodup queue.nodup distinct).mpr fun other => ?_
  rw [List.mem_cons, advances.remaining]
  by_cases same : other = event
  · subst same
    simp [advances.member]
  · simp [same]

section

variable {condition : α → Prop} [DecidablePred condition]

theorem count_pos_iff : 0 < queue.count condition ↔ ∃ event ∈ queue.pending,
    condition event.action := by
  simp [count, List.countP_pos_iff]

theorem count_schedule : (queue.schedule delay action).count condition =
    queue.count condition + if condition action then 1 else 0 := by
  by_cases meets : condition action <;>
    simp [count, schedule, List.countP_append, meets]

theorem Advances.count (advances : Advances queue event rest) :
    queue.count condition = rest.count condition + if condition event.action then 1 else 0 := by
  rw [EventQueue.count, advances.perm.countP_eq, List.countP_cons]
  simp only [decide_eq_true_eq]
  rfl

theorem count_cancel_of_not {id : Option Nat}
    (spared : ∀ event ∈ queue.pending, some event.uid = id → ¬ condition event.action) :
    (queue.cancel id).count condition = queue.count condition := by
  rw [count, count, cancel, List.countP_filter]
  refine List.countP_congr fun event member => ?_
  by_cases cancelled : some event.uid = id
  · simp [cancelled, spared event member cancelled]
  · simp [cancelled]

theorem length_le_one_of_uid (id : Option Nat) {events : List (Event α)}
    (ordered : events.Pairwise fun first second => first.uid < second.uid)
    (named : ∀ event ∈ events, some event.uid = id) : events.length ≤ 1 := by
  cases events with
  | nil => exact Nat.zero_le _
  | cons first later =>
      cases later with
      | nil => exact Nat.le_refl _
      | cons second later =>
          have less := List.rel_of_pairwise_cons ordered List.mem_cons_self
          have one := named first List.mem_cons_self
          have two := named second (List.mem_cons_of_mem _ List.mem_cons_self)
          rw [← two, Option.some.injEq] at one
          omega

/-- An identifier names one event, so cancelling it removes at most one. -/
theorem count_le_count_cancel (id : Option Nat) :
    queue.count condition ≤ (queue.cancel id).count condition + 1 := by
  have cancelled : (queue.pending.filter fun event => !decide (some event.uid ≠ id)).countP
      (fun event => decide (condition event.action)) ≤ 1 := by
    apply Nat.le_trans List.countP_le_length
    refine length_le_one_of_uid id (queue.ordered.filter _) fun event member => ?_
    simpa using (List.mem_filter.mp member).2
  have parts := List.countP_eq_countP_filter_add queue.pending
    (fun event => decide (condition event.action)) (fun event => decide (some event.uid ≠ id))
  change queue.pending.countP _ ≤ (queue.pending.filter _).countP _ + 1
  omega

theorem count_cancel_of_mem {id : Option Nat} (member : event ∈ queue.pending)
    (named : some event.uid = id) (meets : condition event.action) :
    queue.count condition = (queue.cancel id).count condition + 1 := by
  have cancelled : 0 < (queue.pending.filter fun event => !decide (some event.uid ≠ id)).countP
      (fun event => decide (condition event.action)) := by
    rw [List.countP_pos_iff]
    exact ⟨event, List.mem_filter.mpr ⟨member, by simp [named]⟩, by simp [meets]⟩
  have parts := List.countP_eq_countP_filter_add queue.pending
    (fun event => decide (condition event.action)) (fun event => decide (some event.uid ≠ id))
  apply Nat.le_antisymm (count_le_count_cancel id)
  change (queue.pending.filter _).countP _ + 1 ≤ queue.pending.countP _
  omega

end

/-! Pending events of a kind may also be weighed. -/

def weigh (queue : EventQueue α) (weight : Event α → Nat) : Nat :=
  (queue.pending.map weight).sum

section

variable {weight : Event α → Nat}

theorem weigh_schedule : (queue.schedule delay action).weigh weight =
    queue.weigh weight + weight (queue.scheduled delay action) := by
  simp [weigh, schedule]

theorem Advances.weigh (advances : Advances queue event rest) :
    queue.weigh weight = weight event + rest.weigh weight := by
  rw [EventQueue.weigh, (advances.perm.map weight).sum_nat]
  rfl

theorem weigh_cancel_le (id : Option Nat) : (queue.cancel id).weigh weight ≤ queue.weigh weight :=
  (List.filter_sublist.map weight).sum_le_sum fun _ _ => Nat.zero_le _

end

def Quiescent (queue : EventQueue α) : Prop := ∀ event ∈ queue.pending, queue.now < event.time

theorem Quiescent.not_due (quiescent : queue.Quiescent) : ¬ queue.Due queue.now action := by
  intro ⟨event, member, now, _⟩
  have later := quiescent event member
  omega

/-- As long as something is pending at the present instant, the clock stands still. -/
theorem Advances.due (advances : Advances queue event rest)
    (due : queue.Due queue.now action) : queue.Due event.time action := by
  obtain ⟨other, member, now, same⟩ := due
  have first := advances.first other member
  have present := queue.due event advances.member
  exact ⟨other, member, by omega, same⟩

end EventQueue

end Simvoip.Data
