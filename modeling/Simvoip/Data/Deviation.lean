import Mathlib.Algebra.BigOperators.Group.List.Basic
import Mathlib.Algebra.BigOperators.Ring.List
import Mathlib.Tactic.FieldSimp
import Mathlib.Tactic.Ring

namespace Simvoip.Data

universe u

/-! # Means and deviations of samples

The sum of the squared deviations can be kept as samples come in, one after the
other, from the mean before and the mean after each of them.
-/

section

variable {K : Type u} [Field K]

def sampleAverage (samples : List K) : K := samples.sum / (samples.length : K)

/-- The squared distances of the samples from their mean, added up. -/
def deviation (samples : List K) : K :=
  (samples.map fun sample => (sample - sampleAverage samples) ^ 2).sum

/-- An estimate of the variance without bias. -/
def sampleVariance (samples : List K) : K := deviation samples / ((samples.length : K) - 1)

variable {samples others : List K} {sample : K}

theorem sum_squares_around (samples : List K) (center : K) :
    (samples.map fun sample => (sample - center) ^ 2).sum =
      (samples.map fun sample => sample ^ 2).sum - 2 * center * samples.sum +
        samples.length * center ^ 2 := by
  induction samples with
  | nil => simp
  | cons first rest ih =>
      simp only [List.map_cons, List.sum_cons, List.length_cons, ih]
      push_cast
      ring

theorem deviation_singleton : deviation [sample] = 0 := by
  simp [deviation, sampleAverage]

variable [CharZero K]

theorem sampleAverage_concat (several : samples ≠ []) :
    sampleAverage (samples ++ [sample]) = sampleAverage samples +
      (sample - sampleAverage samples) / ((samples.length + 1 : Nat) : K) := by
  have divisor : (samples.length : K) ≠ 0 :=
    Nat.cast_ne_zero.mpr fun none => several (List.length_eq_zero_iff.mp none)
  have grown : (samples.length : K) + 1 ≠ 0 := Nat.cast_add_one_ne_zero samples.length
  rw [sampleAverage, sampleAverage, List.sum_append, List.sum_singleton, List.length_append,
    List.length_singleton]
  push_cast
  field_simp
  ring

theorem deviation_eq (several : samples ≠ []) : deviation samples =
    (samples.map fun sample => sample ^ 2).sum - samples.sum ^ 2 / samples.length := by
  have divisor : (samples.length : K) ≠ 0 :=
    Nat.cast_ne_zero.mpr fun none => several (List.length_eq_zero_iff.mp none)
  rw [deviation, sum_squares_around, sampleAverage]
  field_simp
  ring

/-- What a further sample adds is the product of its distances from the mean before it
and from the mean after it. -/
theorem deviation_concat (several : samples ≠ []) :
    deviation (samples ++ [sample]) = deviation samples +
      (sample - sampleAverage samples) * (sample - sampleAverage (samples ++ [sample])) := by
  have divisor : (samples.length : K) ≠ 0 :=
    Nat.cast_ne_zero.mpr fun none => several (List.length_eq_zero_iff.mp none)
  have grown : (samples.length : K) + 1 ≠ 0 := Nat.cast_add_one_ne_zero samples.length
  rw [deviation_eq (by simp), deviation_eq several, sampleAverage, sampleAverage]
  simp only [List.map_append, List.map_singleton, List.sum_append, List.sum_singleton,
    List.length_append, List.length_singleton]
  push_cast
  field_simp
  ring

end

end Simvoip.Data
