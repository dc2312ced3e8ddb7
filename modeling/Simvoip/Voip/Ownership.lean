import Mathlib.Algebra.BigOperators.Group.Finset.Basic
import Simvoip.Semantics.Tally
import Simvoip.Voip.Legs

namespace Simvoip.System

open Simvoip.Data Simvoip.Net Simvoip.Semantics

variable {scenario : Scenario} {s t : System} {queue : EventQueue Action}
  {event : Event Action} {draws : Draws scenario} {phone : Nat}

/-! # Who owns a helper

A helper belongs to the phone that made it, until the phone deletes it or overwrites
its only pointer to it.
-/

/-- No helper is deleted twice, none is held that was deleted or is held elsewhere,
and a phone holds and deletes only what it made itself. -/
structure Owned (s : System) : Prop where
  once : (s.log.deletes.map (·.helper)).Nodup
  alive : ∀ phone helper, (s.voips phone).appOnOff = some helper →
    ∀ delete ∈ s.log.deletes, delete.helper ≠ helper
  apart : ∀ phone other helper, (s.voips phone).appOnOff = some helper →
    (s.voips other).appOnOff = some helper → phone = other
  made : ∀ phone helper, (s.voips phone).appOnOff = some helper →
    ∃ leg ∈ s.log.legs, leg.helper = helper ∧ leg.phone = phone
  freed : ∀ delete ∈ s.log.deletes, ∃ leg ∈ s.log.legs, leg.helper = delete.helper ∧
    delete.event.action = .cuelga leg.phone

/-- What phones hold in the next state was just made, or held before. -/
theorem LegChange.holds (change : LegChange s queue draws event t) {helper : Nat}
    (held : (t.voips phone).appOnOff = some helper) :
    (helper = s.helpers ∧ ∃ leg ∈ t.log.legs, leg.helper = helper ∧ leg.phone = phone ∧
        ∀ other, (t.voips other).appOnOff = some helper → other = phone ∨
          (s.voips other).appOnOff = some helper) ∨
      (s.voips phone).appOnOff = some helper := by
  cases change with
  | installed leg action vacant app made hangUp fresh legOpen legs stops deletes apps helpers
      assigned others =>
      by_cases same : phone = leg.phone
      · subst same
        rw [assigned.1, Option.some.injEq] at held
        refine .inl ⟨held.symm.trans made, leg, legs ▸ List.mem_cons_self, held, rfl, ?_⟩
        intro other holds
        by_cases same' : other = leg.phone
        · exact .inl same'
        · exact .inr ((others other same').1 ▸ holds)
      · exact .inr ((others phone same).1 ▸ held)
  | released number action legs stops deletes apps helpers null container others =>
      by_cases same : phone = number
      · rw [same, null] at held
        cases held
      · exact .inr ((others phone same).1 ▸ held)
  | other action vacant legs stops deletes apps helpers kept =>
      exact .inr ((kept phone).1 ▸ held)

/-- What is deleted in a step was held by the phone that hangs up, and is held no
more. -/
theorem LegChange.deletes (change : LegChange s queue draws event t) :
    t.log.deletes = s.log.deletes ∨ ∃ phone helper, event.action = .cuelga phone ∧
      (s.voips phone).appOnOff = some helper ∧ (t.voips phone).appOnOff = none ∧
        t.log.deletes = DeleteCall.mk helper event :: s.log.deletes := by
  cases change with
  | installed leg action vacant app made hangUp fresh legOpen legs stops deletes
  | other action vacant legs stops deletes => exact .inl deletes
  | released phone action legs stops deletes apps helpers null =>
      cases held : (s.voips phone).appOnOff with
      | none =>
          rw [held] at deletes
          exact .inl deletes
      | some helper =>
          rw [held] at deletes
          exact .inr ⟨phone, helper, action, held, null, deletes⟩

theorem Owned.step (installed : Installed s) (owned : Owned s)
    (change : LegChange s queue draws event t) : Owned t := by
  have below : ∀ phone helper, (s.voips phone).appOnOff = some helper → helper < s.helpers :=
    fun phone => (installed.held phone).2
  have apart : ∀ phone other helper, (t.voips phone).appOnOff = some helper →
      (t.voips other).appOnOff = some helper → phone = other := by
    intro phone other helper held held'
    rcases change.holds held with ⟨fresh, _, _, _, _, only⟩ | old
    · rcases only other held' with same | old'
      · exact same.symm
      · exact absurd fresh (Nat.ne_of_lt (below other helper old'))
    · rcases change.holds held' with ⟨fresh, _⟩ | old'
      · exact absurd fresh (Nat.ne_of_lt (below phone helper old))
      · exact owned.apart phone other helper old old'
  have kept : ∀ delete ∈ s.log.deletes, ∃ leg ∈ t.log.legs, leg.helper = delete.helper ∧
      delete.event.action = .cuelga leg.phone := by
    intro delete member
    obtain ⟨leg, old, same, action⟩ := owned.freed delete member
    exact ⟨leg, change.old leg old, same, action⟩
  have spared : ∀ phone helper, (t.voips phone).appOnOff = some helper →
      ∀ delete ∈ s.log.deletes, delete.helper ≠ helper := by
    intro phone helper held delete member
    rcases change.holds held with ⟨fresh, _⟩ | old
    · rw [fresh]
      exact Nat.ne_of_lt (installed.released.2 delete member)
    · exact owned.alive phone helper old delete member
  have made : ∀ phone helper, (t.voips phone).appOnOff = some helper →
      ∃ leg ∈ t.log.legs, leg.helper = helper ∧ leg.phone = phone := by
    intro phone helper held
    rcases change.holds held with ⟨_, leg, member, same, own, _⟩ | old
    · exact ⟨leg, member, same, own⟩
    · obtain ⟨leg, member, same, own⟩ := owned.made phone helper old
      exact ⟨leg, change.old leg member, same, own⟩
  rcases change.deletes with same | ⟨phone, helper, action, held, null, deletes⟩
  · exact ⟨same ▸ owned.once, same ▸ spared, apart, made, same ▸ kept⟩
  · refine ⟨?_, ?_, apart, made, ?_⟩
    · rw [deletes, List.map_cons, List.nodup_cons]
      refine ⟨?_, owned.once⟩
      intro again
      obtain ⟨delete, member, same⟩ := List.mem_map.mp again
      exact owned.alive phone helper held delete member same
    · intro number other held' delete member
      rw [deletes] at member
      rcases List.mem_cons.mp member with rfl | old
      · -- the phone that held it holds nothing now, and no other phone held it
        intro same
        change helper = other at same
        subst same
        rcases change.holds held' with ⟨fresh, _⟩ | before
        · exact Nat.ne_of_lt (below phone helper held) fresh
        · rw [owned.apart number phone helper before held, null] at held'
          cases held'
      · exact spared number other held' delete old
    · intro delete member
      rw [deletes] at member
      rcases List.mem_cons.mp member with rfl | old
      · obtain ⟨leg, listed, same, own⟩ := owned.made phone helper held
        exact ⟨leg, change.old leg listed, same, own ▸ action⟩
      · exact kept delete old

theorem Owned.initial (scenario : Scenario) : Owned (initial scenario) := by
  have untouched := Untouched.initial scenario
  constructor
  · simp [untouched.deletes]
  · simp [untouched.deletes]
  · simp [untouched.senders]
  · simp [untouched.senders]
  · simp [untouched.deletes]

theorem Owned.preserved {before next : System} {draws : Draws scenario}
    (founded : WellFormed scenario before ∧ Installed before ∧ Owned before)
    (taken : before.step draws = some next) :
    WellFormed scenario next ∧ Installed next ∧ Owned next := by
  let invariant (s : System) : Prop := Installed s ∧ Owned s
  have holds : WellFormed scenario next ∧ invariant next := by
    refine step_invariant ?_ founded taken
    intro before next queue event draws _ ⟨installed, owned⟩ advances change
    exact ⟨installed.step advances change, owned.step installed change.legs⟩
  exact holds

/-- In every state of every run, whatever calls overlap, no helper was deleted twice
and no phone holds one that was deleted or that belongs to another phone. -/
theorem memory_safe (scenario : Scenario) (inputs : List (Draws scenario)) :
    Throughout step Owned (initial scenario) inputs :=
  (throughout_of_invariant Owned.preserved
    ⟨WellFormed.initial scenario, Installed.initial scenario, Owned.initial scenario⟩).mono
    fun _ holds => holds.2.2

/-! ## Helpers that are lost -/

/-- The helpers that the phones hold. -/
def held (scenario : Scenario) (s : System) : Nat :=
  ∑ phone ∈ Finset.range scenario.phones, (s.voips phone).appOnOff.toList.length

/-- Only what the phone of a step holds changes. -/
theorem held_change (inside : phone < scenario.phones)
    (others : ∀ number, number ≠ phone →
      (t.voips number).appOnOff = (s.voips number).appOnOff) :
    held scenario t + (s.voips phone).appOnOff.toList.length =
      held scenario s + (t.voips phone).appOnOff.toList.length := by
  have member := Finset.mem_range.mpr inside
  have rest : ∑ number ∈ (Finset.range scenario.phones).erase phone,
        (t.voips number).appOnOff.toList.length =
      ∑ number ∈ (Finset.range scenario.phones).erase phone,
        (s.voips number).appOnOff.toList.length :=
    Finset.sum_congr rfl fun number listed => by
      rw [others number (Finset.ne_of_mem_erase listed)]
  rw [held, held, ← Finset.add_sum_erase _ _ member, ← Finset.add_sum_erase _ _ member, rest]
  omega

/-- Helpers that were made and neither deleted nor kept. -/
def lost (scenario : Scenario) (s : System) : Int :=
  s.helpers - s.log.deletes.length - held scenario s

/-- A phone that holds a helper makes another one. -/
def Overwrites (s : System) (draws : Draws scenario) : Prop :=
  s.Upcoming fun event => ¬ NoSender s draws event.action

instance (s : System) (draws : Draws scenario) : Decidable (Overwrites s draws) :=
  inferInstanceAs (Decidable (s.Upcoming _))

theorem lost_step (wellFormed : WellFormed scenario s) (after : WellFormed scenario t)
    (advances : EventQueue.Advances s.queue event queue)
    (change : Transition scenario s queue draws event t) :
    lost scenario t = lost scenario s + if Overwrites s draws then 1 else 0 := by
  have overwrites : Overwrites s draws ↔ ¬ NoSender s draws event.action := upcoming_iff advances
  simp only [overwrites, lost]
  cases change.legs with
  | installed leg action vacant app made hangUp fresh legOpen legs stops deletes apps helpers
      assigned others =>
      have inside := after.actors leg.cuelga legOpen
      rw [hangUp] at inside
      change leg.phone < scenario.phones at inside
      have changed := held_change inside fun number different => (others number different).1
      rw [assigned.1, Option.toList_some, List.length_singleton] at changed
      simp only [vacant, helpers, deletes]
      cases kept : (s.voips leg.phone).appOnOff with
      | none =>
          rw [kept, Option.toList_none, List.length_nil] at changed
          simp only [not_true, if_false]
          omega
      | some helper =>
          rw [kept, Option.toList_some, List.length_singleton] at changed
          simp only [reduceCtorEq, not_false_eq_true, if_true]
          omega
  | released phone action legs stops deletes apps helpers null container others =>
      have inside := wellFormed.actors event advances.member
      rw [action] at inside
      change phone < scenario.phones at inside
      have changed := held_change inside fun number different => (others number different).1
      rw [null, Option.toList_none, List.length_nil] at changed
      rw [helpers, deletes, List.length_append, List.length_map]
      simp only [action, NoSender, not_true, if_false]
      omega
  | other action vacant legs stops deletes apps helpers kept =>
      have changed : held scenario t = held scenario s :=
        Finset.sum_congr rfl fun number _ => by rw [(kept number).1]
      simp only [changed, helpers, deletes, vacant, not_true, if_false]
      omega

theorem lost_initial (scenario : Scenario) : lost scenario (initial scenario) = 0 := by
  have untouched := Untouched.initial scenario
  have helpers : ∀ count, (constructed scenario count).helpers = 0 := by
    intro count
    induction count with
    | zero => rfl
    | succ count ih => exact ih
  have none : held scenario (initial scenario) = 0 :=
    Finset.sum_eq_zero fun number _ => by simp [untouched.senders]
  rw [lost, none, untouched.deletes, initial, helpers]
  rfl

/-- The helpers that are never deleted are exactly those that were overwritten: what
was made is deleted, held, or was lost in a step that set up or answered a call at a
phone that held one. -/
theorem lost_eq (scenario : Scenario) (inputs : List (Draws scenario)) (s : System)
    (completed : run step (initial scenario) inputs = some s) :
    (s.helpers : Int) = s.log.deletes.length + held scenario s +
      tally step Overwrites (initial scenario) inputs := by
  have counts : ∀ {before : System} {draws : Draws scenario} {next : System},
      WellFormed scenario before → before.step draws = some next →
        lost scenario next = lost scenario before + if Overwrites before draws then 1 else 0 := by
    intro before draws next wellFormed taken
    obtain ⟨event, queue, advances, change⟩ := step_cases wellFormed taken
    exact lost_step wellFormed (wellFormed.step taken) advances change
  have counted : lost scenario s = lost scenario (initial scenario) +
      tally step Overwrites (initial scenario) inputs :=
    eq_add_tally (fun founded taken => WellFormed.step founded taken) counts
      (WellFormed.initial scenario) completed
  rw [lost_initial, lost] at counted
  omega

/-- A phone that calls itself loses the helper it called with. -/
theorem lost_callsItself : ∃ s, run step (initial twoPhones) callsItself = some s ∧
    (s.helpers : Int) = s.log.deletes.length + held twoPhones s + 1 := by
  obtain ⟨s, completed, _⟩ : ∃ s, run step (initial twoPhones) callsItself = some s ∧
      s.helpers = s.helpers := exists_run (by decide +kernel)
  have counted := lost_eq twoPhones callsItself s completed
  rw [show tally step Overwrites (initial twoPhones) callsItself = 1 by decide +kernel] at counted
  exact ⟨s, completed, counted⟩

end Simvoip.System
