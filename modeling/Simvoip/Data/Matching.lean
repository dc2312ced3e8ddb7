import Mathlib.Data.List.Basic
import Mathlib.Data.List.Induction
import Mathlib.Tactic.Common

namespace Simvoip.Data

universe u v w

/-! # Sends and receptions matched by key

A reception matches the most recent send of its key, unless there was a reception
of that key since.
-/

inductive Transfer (κ : Type u) (β : Type v) (π : Type w) where
  | sent (key : κ) (value : β)
  | received (key : κ) (value : π)

namespace Transfer

variable {κ : Type u} {β : Type v} {π : Type w}

def key : Transfer κ β π → κ
  | .sent key _ => key
  | .received key _ => key

/-- The last transfer of the key is a send of this value. -/
def Outstanding (history : List (Transfer κ β π)) (key : κ) (value : β) : Prop :=
  ∃ before after, history = before ++ .sent key value :: after ∧
    ∀ transfer ∈ after, transfer.key ≠ key

variable [DecidableEq κ]

/-- What a history leaves outstanding, read back from its last transfer. -/
def outstanding (history : List (Transfer κ β π)) (key : κ) : Option β :=
  match history.reverse.find? (·.key = key) with
  | some (.sent _ value) => some value
  | _ => none

/-- The matches of a continuation, each with the values of its send and of its
reception. -/
def matchingFrom (earlier : List (Transfer κ β π)) : List (Transfer κ β π) → List (β × π)
  | [] => []
  | .sent key value :: later => matchingFrom (earlier ++ [.sent key value]) later
  | .received key value :: later =>
      ((outstanding earlier key).map (·, value)).toList ++
        matchingFrom (earlier ++ [.received key value]) later

def matching (history : List (Transfer κ β π)) : List (β × π) := matchingFrom [] history

variable {candidate : κ} {value : β} {history : List (Transfer κ β π)}

theorem outstanding_sent (history : List (Transfer κ β π)) (key : κ) (value : β) :
    outstanding (history ++ [.sent key value]) candidate =
      if candidate = key then some value else outstanding history candidate := by
  by_cases same : candidate = key
  · subst same
    simp [outstanding, Transfer.key]
  · have other : key ≠ candidate := fun equal => same equal.symm
    simp [outstanding, Transfer.key, same, other]

theorem outstanding_received (history : List (Transfer κ β π)) (key : κ) (value : π) :
    outstanding (history ++ [.received key value]) candidate =
      if candidate = key then none else outstanding history candidate := by
  by_cases same : candidate = key
  · subst same
    simp [outstanding, Transfer.key]
  · have other : key ≠ candidate := fun equal => same equal.symm
    simp [outstanding, Transfer.key, same, other]

theorem outstanding_iff : outstanding history candidate = some value ↔
    Outstanding history candidate value := by
  constructor
  · intro found
    unfold outstanding at found
    split at found
    · rename_i last
      cases found
      obtain ⟨named, after, before, split, others⟩ := List.find?_eq_some_iff_append.mp last
      have same := of_decide_eq_true named
      cases same
      refine ⟨before.reverse, after.reverse, ?_, ?_⟩
      · rw [← List.reverse_reverse history, split, List.reverse_append, List.reverse_cons,
          List.append_assoc]
        rfl
      · intro transfer member
        simpa using others transfer (List.mem_reverse.mp member)
    · cases found
  · intro ⟨before, after, split, others⟩
    have last : history.reverse.find? (·.key = candidate) = some (.sent candidate value) := by
      refine List.find?_eq_some_iff_append.mpr ⟨by simp [Transfer.key], after.reverse,
        before.reverse, by simp [split], ?_⟩
      intro transfer member
      simpa using others transfer (List.mem_reverse.mp member)
    simp only [outstanding, last]

theorem matchingFrom_append (earlier first second : List (Transfer κ β π)) :
    matchingFrom earlier (first ++ second) =
      matchingFrom earlier first ++ matchingFrom (earlier ++ first) second := by
  induction first generalizing earlier with
  | nil => simp [matchingFrom]
  | cons transfer first ih =>
      cases transfer with
      | sent key value => simp [matchingFrom, ih]
      | received key value => simp [matchingFrom, ih]

theorem matching_sent (history : List (Transfer κ β π)) (key : κ) (value : β) :
    matching (history ++ [.sent key value]) = matching history := by
  rw [matching, matchingFrom_append]
  exact List.append_nil _

theorem matching_received (history : List (Transfer κ β π)) (key : κ) (value : π) :
    matching (history ++ [.received key value]) =
      matching history ++ ((outstanding history key).map (·, value)).toList := by
  rw [matching, matchingFrom_append]
  exact congrArg (matching history ++ ·) (List.append_nil _)

theorem matching_prefix (earlier later : List (Transfer κ β π)) :
    matching earlier <+: matching (earlier ++ later) := by
  rw [matching, matching, matchingFrom_append]
  exact List.prefix_append _ _

theorem sent_of_outstanding (found : outstanding history candidate = some value) :
    .sent candidate value ∈ history := by
  obtain ⟨before, after, rfl, _⟩ := outstanding_iff.mp found
  simp

/-- Each match is of a reception and of what was outstanding before it. -/
theorem received_of_matching {result : π} (member : (value, result) ∈ matching history) :
    ∃ before key after, history = before ++ .received key result :: after ∧
      outstanding before key = some value := by
  induction history using List.reverseRecOn with
  | nil => cases member
  | append_singleton history transfer ih =>
      have earlier : (value, result) ∈ matching history →
          ∃ before key after, history ++ [transfer] = before ++ .received key result :: after ∧
            outstanding before key = some value := by
        intro listed
        obtain ⟨before, key, after, rfl, found⟩ := ih listed
        exact ⟨before, key, after ++ [transfer], by simp, found⟩
      cases transfer with
      | sent key sending =>
          rw [matching_sent] at member
          exact earlier member
      | received key receiving =>
          rw [matching_received, List.mem_append, Option.mem_toList,
            Option.map_eq_some_iff] at member
          rcases member with listed | ⟨sending, found, same⟩
          · exact earlier listed
          · cases same
            exact ⟨history, key, [], rfl, found⟩

end Transfer

end Simvoip.Data
