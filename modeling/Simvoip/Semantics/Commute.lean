import Mathlib.Data.List.Perm.Basic
import Mathlib.Logic.Relation
import Mathlib.Tactic.Common

namespace Simvoip.Semantics

universe u v

/-! # Inputs in another order

Neighbouring inputs that are independent may be swapped.  Two lists of the same inputs
differ only by such swaps when any two inputs that depend on each other stand in the
same order in both.
-/

section

variable {ι : Type u} {independent : ι → ι → Prop}

def Swapped (independent : ι → ι → Prop) (first second : List ι) : Prop :=
  ∃ before input other after, independent input other ∧
    first = before ++ input :: other :: after ∧ second = before ++ other :: input :: after

def Reordered (independent : ι → ι → Prop) : List ι → List ι → Prop :=
  Relation.ReflTransGen (Swapped independent)

theorem Reordered.cons {first second : List ι} (input : ι)
    (reordered : Reordered independent first second) :
    Reordered independent (input :: first) (input :: second) := by
  induction reordered with
  | refl => exact .refl
  | tail _ swapped ih =>
      obtain ⟨before, one, other, after, apart, rfl, rfl⟩ := swapped
      exact ih.tail ⟨input :: before, one, other, after, apart, rfl, rfl⟩

/-- An input may be moved in front of inputs that are independent of it. -/
theorem reordered_middle {input : ι} (before after : List ι)
    (apart : ∀ other ∈ before, independent other input) :
    Reordered independent (before ++ input :: after) (input :: (before ++ after)) := by
  induction before with
  | nil => exact .refl
  | cons other before ih =>
      have moved := ih fun next member => apart next (List.mem_cons_of_mem _ member)
      refine (moved.cons other).tail ⟨[], other, input, before ++ after, ?_, rfl, rfl⟩
      exact apart other List.mem_cons_self

variable [DecidableEq ι] {input : ι} {before after first : List ι}

/-- Inputs that stand in front of another one in a single of two lists are independent
of it. -/
theorem independent_of_ordered
    (ordered : ∀ one other, ¬ independent one other →
      (input :: first).filter (fun x => x = one ∨ x = other) =
        (before ++ input :: after).filter fun x => x = one ∨ x = other)
    (absent : input ∉ before) : ∀ other ∈ before, independent input other := by
  intro other member
  by_contra dependent
  -- the first of the two is `input` in one list and `other` in the other
  have heads := ordered input other dependent
  rw [List.filter_cons_of_pos (by simp), List.filter_append] at heads
  have listed : other ∈ before.filter fun x => x = input ∨ x = other :=
    List.mem_filter.mpr ⟨member, by simp⟩
  cases kept : before.filter (fun x => x = input ∨ x = other) with
  | nil =>
      rw [kept] at listed
      cases listed
  | cons head rest =>
      rw [kept, List.cons_append, List.cons.injEq] at heads
      have inside : head ∈ before.filter fun x => x = input ∨ x = other := by
        rw [kept]
        exact List.mem_cons_self
      rw [← heads.1] at inside
      exact absent (List.mem_filter.mp inside).1

/-- Without an input that nothing in front of it depends on, two inputs still stand in
the same order. -/
theorem ordered_without {one other : ι}
    (both : (input :: first).filter (fun x => x = one ∨ x = other) =
      (before ++ input :: after).filter fun x => x = one ∨ x = other)
    (alone : input = one ∨ input = other → ∀ x ∈ before, ¬ (x = one ∨ x = other)) :
    first.filter (fun x => x = one ∨ x = other) =
      (before ++ after).filter fun x => x = one ∨ x = other := by
  rw [List.filter_append] at both ⊢
  by_cases chosen : input = one ∨ input = other
  · have none : before.filter (fun x => x = one ∨ x = other) = [] :=
      List.filter_eq_nil_iff.mpr fun x member => by simpa using alone chosen x member
    rw [none, List.nil_append] at both ⊢
    rw [List.filter_cons_of_pos (by simpa using chosen),
      List.filter_cons_of_pos (by simpa using chosen)] at both
    exact (List.cons.inj both).2
  · rw [List.filter_cons_of_neg (by simpa using chosen),
      List.filter_cons_of_neg (by simpa using chosen)] at both
    exact both

/-- Two lists with the same inputs, in which dependent inputs stand in the same order,
are reorderings of each other. -/
theorem reordered_of_projections (independent_symm : ∀ {input other : ι},
      independent input other → independent other input) {first second : List ι}
    (same : first.Perm second)
    (ordered : ∀ input other, ¬ independent input other →
      first.filter (fun x => x = input ∨ x = other) =
        second.filter fun x => x = input ∨ x = other) :
    Reordered independent second first := by
  induction first generalizing second with
  | nil =>
      rw [same.nil_eq]
      exact .refl
  | cons input first ih =>
      obtain ⟨before, after, rfl, absent⟩ :=
        List.eq_append_cons_of_mem (same.subset List.mem_cons_self)
      have apart : ∀ other ∈ before, independent input other :=
        independent_of_ordered ordered absent
      have front := reordered_middle before after fun other member =>
        independent_symm (apart other member)
      refine front.trans (Reordered.cons input (ih ?_ ?_))
      · exact (same.trans List.perm_middle).cons_inv
      · intro one other dependent
        refine ordered_without (ordered one other dependent) fun chosen x member => ?_
        have free := apart x member
        rintro (rfl | rfl)
        · rcases chosen with rfl | rfl
          · exact absent member
          · exact dependent (independent_symm free)
        · rcases chosen with rfl | rfl
          · exact dependent free
          · exact absent member

end

/-- Independent inputs that commute in every state may come in any order. -/
theorem foldl_eq_of_reordered {σ : Type u} {ι : Type v} {handle : σ → ι → σ}
    {independent : ι → ι → Prop} {invariant : σ → Prop}
    (preserved : ∀ {state : σ} {input : ι}, invariant state → invariant (handle state input))
    (commutes : ∀ {state : σ} {input other : ι}, invariant state → independent input other →
      handle (handle state input) other = handle (handle state other) input)
    {state : σ} (initial : invariant state) {first second : List ι}
    (reordered : Reordered independent first second) :
    first.foldl handle state = second.foldl handle state := by
  induction reordered with
  | refl => rfl
  | tail _ swapped ih =>
      obtain ⟨before, input, other, after, apart, rfl, rfl⟩ := swapped
      have kept : ∀ (inputs : List ι) {state : σ}, invariant state →
          invariant (inputs.foldl handle state) := by
        intro inputs
        induction inputs with
        | nil => exact fun holds => holds
        | cons input rest ih => exact fun holds => ih (preserved holds)
      rw [ih, List.foldl_append, List.foldl_append, List.foldl_cons, List.foldl_cons,
        List.foldl_cons, List.foldl_cons, commutes (kept before initial) apart]

end Simvoip.Semantics
