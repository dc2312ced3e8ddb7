import Mathlib.Data.List.Induction
import Mathlib.Tactic.Common

namespace Simvoip.Semantics

universe u

/-! # What happened since

An input may make something happen, judged with the inputs before it, and other
inputs undo it.
-/

/-- Something happened, and nothing has cleared it since. -/
def Since {ι : Type u} (happens : List ι → ι → Prop) (clears : ι → Prop) (inputs : List ι) : Prop :=
  ∃ earlier input later, inputs = earlier ++ input :: later ∧ happens earlier input ∧
    ∀ other ∈ later, ¬ clears other

variable {ι : Type u} {happens : List ι → ι → Prop} {clears : ι → Prop} {inputs : List ι}
  {input : ι}

theorem not_since_nil : ¬ Since happens clears [] := by
  rintro ⟨earlier, input, later, split, _⟩
  simp at split

theorem since_concat_iff : Since happens clears (inputs ++ [input]) ↔
    happens inputs input ∨ ¬ clears input ∧ Since happens clears inputs := by
  constructor
  · rintro ⟨earlier, first, later, split, happened, kept⟩
    induction later using List.reverseRecOn with
    | nil =>
        obtain ⟨rfl, rfl⟩ := List.append_singleton_inj.mp split
        exact .inl happened
    | append_singleton later last _ =>
        rw [← List.cons_append, ← List.append_assoc] at split
        obtain ⟨rfl, rfl⟩ := List.append_singleton_inj.mp split
        refine .inr ⟨kept input (by simp), earlier, first, later, rfl, happened, ?_⟩
        exact fun other member => kept other (List.mem_append_left _ member)
  · rintro (happened | ⟨kept, earlier, first, later, rfl, happened, still⟩)
    · exact ⟨inputs, input, [], rfl, happened, by simp⟩
    · refine ⟨earlier, first, later ++ [input], by simp, happened, ?_⟩
      intro other member
      rcases List.mem_append.mp member with old | new
      · exact still other old
      · rw [List.mem_singleton.mp new]
        exact kept

/-- A fact of the state after each run is a fact of the history when it holds of no
state at the start, and each step makes it hold exactly where it happens. -/
theorem since_iff {property : List ι → Prop} (start : ¬ property [])
    (step : ∀ inputs input, property (inputs ++ [input]) ↔
      happens inputs input ∨ ¬ clears input ∧ property inputs) :
    property inputs ↔ Since happens clears inputs := by
  induction inputs using List.reverseRecOn with
  | nil => exact iff_of_false start not_since_nil
  | append_singleton inputs input ih => rw [step, since_concat_iff, ih]

end Simvoip.Semantics
