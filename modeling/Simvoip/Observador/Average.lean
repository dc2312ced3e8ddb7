import Mathlib.Data.List.Induction
import Mathlib.Algebra.BigOperators.Group.List.Basic
import Mathlib.Algebra.Order.BigOperators.Group.List
import Mathlib.Tactic.FieldSimp
import Mathlib.Tactic.Linarith
import Mathlib.Tactic.Ring
import Mathlib.Tactic.Positivity
import Simvoip.Observador

namespace Simvoip.Average

/-! # What an average says of its samples -/

variable {samples more : List ℚ} {sample : ℚ}

def sampleMean (samples : List ℚ) : ℚ := samples.sum / samples.length

/-- A new calculator that was given these samples, in this order. -/
def ofSamples (samples : List ℚ) : Average := samples.foldl update new

@[simp]
theorem ofSamples_nil : ofSamples [] = new := rfl

theorem ofSamples_append : ofSamples (samples ++ more) = more.foldl update (ofSamples samples) :=
  List.foldl_append

theorem ofSamples_concat : ofSamples (samples ++ [sample]) = (ofSamples samples).update sample :=
  ofSamples_append

@[simp]
theorem size_ofSamples : (ofSamples samples).size = samples.length := by
  induction samples using List.reverseRecOn with
  | nil => rfl
  | append_singleton samples sample ih =>
      rw [ofSamples_concat, update, ih, List.length_append, List.length_singleton]

theorem running_mean (total sample : ℚ) {count : Nat} (positive : count ≠ 0) :
    total / count + (sample - total / count) / ((count + 1 : Nat) : ℚ) =
      (total + sample) / ((count + 1 : Nat) : ℚ) := by
  have divisor : (count : ℚ) ≠ 0 := Nat.cast_ne_zero.mpr positive
  have grown : (count + 1 : ℚ) ≠ 0 := by positivity
  push_cast
  field_simp
  ring

theorem mean_ofSamples : (ofSamples samples).mean =
    if samples = [] then none else some (sampleMean samples) := by
  induction samples using List.reverseRecOn with
  | nil => rfl
  | append_singleton samples sample ih =>
      rw [ofSamples_concat, update, size_ofSamples, ih, if_neg (List.concat_ne_nil sample samples)]
      cases samples with
      | nil => simp [sampleMean]
      | cons first rest =>
          have several : (first :: rest).length + 1 ≠ 1 := by simp
          rw [if_neg several, if_neg (List.cons_ne_nil first rest), Option.map_some, sampleMean,
            running_mean _ _ (by simp), sampleMean, List.sum_append, List.sum_singleton,
            List.length_append, List.length_singleton]

theorem eq_of_parts {average other : Average} (size : average.size = other.size)
    (maximum : average.maximum = other.maximum) (mean : average.mean = other.mean) :
    average = other := by
  cases average
  cases other
  simp_all

/-- A mean comes with at least one sample. -/
def Sound (average : Average) : Prop := average.mean.isSome ↔ 0 < average.size

theorem sound_new : Sound new := by
  simp [Sound, new]

theorem Sound.update {average : Average} (sound : average.Sound) (sample : ℚ) :
    (average.update sample).Sound := by
  apply iff_of_true
  · rw [Average.update]
    by_cases first : average.size = 0
    · simp [first]
    · have some := sound.mpr (Nat.pos_of_ne_zero first)
      simpa [first] using some
  · exact Nat.succ_pos _

theorem sampleMean_eq_zero (zero : ∀ sample ∈ samples, sample = 0) : sampleMean samples = 0 := by
  rw [sampleMean, List.sum_eq_zero zero, zero_div]

/-- An average tells how many samples it was given and what they add up to. -/
theorem length_sum_of_ofSamples_eq (same : ofSamples samples = ofSamples more) :
    samples.length = more.length ∧ samples.sum = more.sum := by
  have length : samples.length = more.length := by
    rw [← size_ofSamples, same, size_ofSamples]
  refine ⟨length, ?_⟩
  have means := congrArg mean same
  rw [mean_ofSamples, mean_ofSamples] at means
  cases samples with
  | nil => rw [List.length_eq_zero_iff.mp length.symm]
  | cons first rest =>
      cases more with
      | nil => cases length
      | cons other others =>
          rw [if_neg (List.cons_ne_nil first rest), if_neg (List.cons_ne_nil other others),
            Option.some.injEq, sampleMean, sampleMean, length] at means
          have divisor : ((other :: others).length : ℚ) ≠ 0 := Nat.cast_ne_zero.mpr (by simp)
          exact (div_left_inj' divisor).mp means

theorem sampleMean_nonneg (nonneg : ∀ sample ∈ samples, 0 ≤ sample) : 0 ≤ sampleMean samples :=
  div_nonneg (List.sum_nonneg nonneg) (Nat.cast_nonneg _)

theorem sampleMean_le {bound : ℚ} (several : samples ≠ [])
    (below : ∀ sample ∈ samples, sample ≤ bound) : sampleMean samples ≤ bound := by
  have positive : (0 : ℚ) < samples.length := Nat.cast_pos.mpr (List.length_pos_iff.mpr several)
  have total := List.sum_le_card_nsmul samples bound below
  rw [nsmul_eq_mul] at total
  rw [sampleMean, div_le_iff₀ positive, mul_comm]
  exact total

theorem le_sampleMean {bound : ℚ} (several : samples ≠ [])
    (above : ∀ sample ∈ samples, bound ≤ sample) : bound ≤ sampleMean samples := by
  have positive : (0 : ℚ) < samples.length := Nat.cast_pos.mpr (List.length_pos_iff.mpr several)
  have total := List.card_nsmul_le_sum samples bound above
  rw [nsmul_eq_mul] at total
  rw [sampleMean, le_div_iff₀ positive, mul_comm]
  exact total

/-- Further samples leave a mean as it is only when they have that mean too. -/
theorem mean_ofSamples_perm_iff {all : List ℚ} (parts : all.Perm (more ++ samples)) :
    (ofSamples all).mean = (ofSamples samples).mean ↔
      more = [] ∨ samples ≠ [] ∧ sampleMean more = sampleMean samples := by
  have sum : all.sum = more.sum + samples.sum := parts.sum_eq.trans List.sum_append
  have length : all.length = more.length + samples.length :=
    parts.length_eq.trans List.length_append
  have empty : all = [] ↔ more ++ samples = [] := by
    rw [← List.length_eq_zero_iff, parts.length_eq, List.length_eq_zero_iff]
  have mean : sampleMean all =
      (more.sum + samples.sum) / ((more.length + samples.length : Nat) : ℚ) := by
    rw [sampleMean, sum, length]
  simp only [mean_ofSamples, empty, mean]
  cases more with
  | nil => simp [sampleMean]
  | cons first rest =>
      cases samples with
      | nil => simp
      | cons other others =>
          simp only [List.cons_append, List.cons_ne_nil, if_false, false_or, ne_eq,
            not_false_eq_true, true_and, Option.some.injEq]
          have one : ((first :: rest).length : ℚ) ≠ 0 := Nat.cast_ne_zero.mpr (by simp)
          have two : ((other :: others).length : ℚ) ≠ 0 := Nat.cast_ne_zero.mpr (by simp)
          have both : (((first :: rest).length + (other :: others).length : Nat) : ℚ) ≠ 0 :=
            Nat.cast_ne_zero.mpr (by simp)
          rw [sampleMean, sampleMean, div_eq_div_iff both two, div_eq_div_iff one two]
          push_cast
          constructor
          · intro same
            linarith
          · intro same
            linarith

theorem maximum_ofSamples_le {bound : ℚ} : (ofSamples samples).maximum ≤ bound ↔
    0 ≤ bound ∧ ∀ sample ∈ samples, sample ≤ bound := by
  induction samples using List.reverseRecOn with
  | nil => simp [new]
  | append_singleton samples sample ih =>
      rw [ofSamples_concat, update, max_le_iff, ih]
      simp only [List.mem_append, List.mem_singleton, or_imp, forall_and, forall_eq, and_assoc]

theorem le_maximum_ofSamples {bound : ℚ} : bound ≤ (ofSamples samples).maximum ↔
    bound ≤ 0 ∨ ∃ sample ∈ samples, bound ≤ sample := by
  induction samples using List.reverseRecOn with
  | nil => simp [new]
  | append_singleton samples sample ih =>
      rw [ofSamples_concat, update, le_max_iff, ih]
      simp only [List.mem_append, List.mem_singleton, or_and_right, exists_or, exists_eq_left,
        or_assoc]

end Simvoip.Average
