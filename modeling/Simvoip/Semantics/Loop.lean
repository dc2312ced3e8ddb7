import Mathlib.Logic.Function.Iterate

namespace Simvoip.Semantics

universe u

/-! # Loops with fuel

A loop that ends gives the same result with any fuel that is enough for it, and a
loop that does not end gives none with any.
-/

section

variable {σ : Type u} (test : σ → Prop) [DecidablePred test] (body : σ → σ)

def loop : Nat → σ → Option σ
  | 0, _ => none
  | fuel + 1, state => if test state then loop fuel (body state) else some state

variable {test body} {state first second : σ}

theorem loop_done (ended : ¬ test state) (fuel : Nat) :
    loop test body (fuel + 1) state = some state :=
  if_neg ended

theorem loop_turns (turns fuel : Nat) (tested : ∀ turn < turns, test (body^[turn] state)) :
    loop test body (fuel + turns) state = loop test body fuel (body^[turns] state) := by
  induction turns generalizing state with
  | zero => rfl
  | succ turns ih =>
      have now : test state := tested 0 (Nat.succ_pos turns)
      have later : ∀ turn < turns, test (body^[turn] (body state)) := by
        intro turn inside
        exact tested (turn + 1) (Nat.succ_lt_succ inside)
      rw [← Nat.add_assoc, loop, if_pos now, ih later, Function.iterate_succ_apply]

theorem loop_never (invariant : σ → Prop) (tested : ∀ state, invariant state → test state)
    (preserved : ∀ state, invariant state → invariant (body state)) (initial : invariant state)
    (fuel : Nat) : loop test body fuel state = none := by
  induction fuel generalizing state with
  | zero => rfl
  | succ fuel ih =>
      rw [loop, if_pos (tested state initial)]
      exact ih (preserved state initial)

theorem loop_unique {fuel fuel' : Nat} (one : loop test body fuel state = some first)
    (other : loop test body fuel' state = some second) : first = second := by
  induction fuel generalizing state fuel' with
  | zero => cases one
  | succ fuel ih =>
      cases fuel' with
      | zero => cases other
      | succ fuel' =>
          rw [loop] at one other
          split at one <;> rename_i holds
          · rw [if_pos holds] at other
            exact ih one other
          · rw [if_neg holds] at other
            exact Option.some.inj (one.symm.trans other)

end

end Simvoip.Semantics
