import Mathlib.Order.Bounds.Basic
import Simvoip.Data.Deviation
import Simvoip.Observador.Average

namespace Simvoip.Ns3

open Simvoip.Data

/-! # The calculator behind an average

`Average` hands its samples to a calculator that keeps the mean and the variance as
they come in.  A missing value is the `NaN` that it holds before its first sample, or a
minimum or maximum that nothing was stored in yet.  Counts have 32 bits.  No value is
rounded: the order of samples shows in the last digits of `float` and `double`.
-/

structure MinMaxAvgTotalCalculator where
  enabled : Bool
  count : Nat
  total : ℚ
  squareTotal : ℚ
  minimum : Option ℚ
  maximum : Option ℚ
  meanCurr : Option ℚ
  sCurr : Option ℚ
  varianceCurr : Option ℚ
  meanPrev : Option ℚ
  sPrev : Option ℚ
deriving DecidableEq

namespace MinMaxAvgTotalCalculator

def new : MinMaxAvgTotalCalculator where
  enabled := true
  count := 0
  total := 0
  squareTotal := 0
  minimum := none
  maximum := none
  meanCurr := none
  sCurr := none
  varianceCurr := none
  meanPrev := none
  sPrev := none

/-- The extremes and the totals, before the variance is looked at. -/
def tally (c : MinMaxAvgTotalCalculator) (i : ℚ) : MinMaxAvgTotalCalculator :=
  let count := (c.count + 1) % 2 ^ 32
  { c with
    count := count
    total := c.total + i
    squareTotal := c.squareTotal + i * i
    minimum := if count = 1 then some i else c.minimum.map fun least => if i < least then i else least
    maximum := if count = 1 then some i
      else c.maximum.map fun greatest => if greatest < i then i else greatest }

def update (c : MinMaxAvgTotalCalculator) (i : ℚ) : MinMaxAvgTotalCalculator :=
  if c.enabled then
    let c := c.tally i
    if c.count = 1 then
      { c with meanCurr := some i, sCurr := some 0, varianceCurr := some 0 }
    else
      let meanCurr := c.meanCurr.map fun mean => mean + (i - mean) / (c.count : ℚ)
      let sCurr := do
        let s ← c.sCurr
        let before ← c.meanCurr
        let after ← meanCurr
        return s + (i - before) * (i - after)
      { c with
        meanPrev := c.meanCurr
        sPrev := c.sCurr
        meanCurr := meanCurr
        sCurr := sCurr
        varianceCurr := sCurr.map (· / (((c.count + (2 ^ 32 - 1)) % 2 ^ 32 : Nat) : ℚ)) }
  else c

/-- The extremes are left as they were. -/
def reset (c : MinMaxAvgTotalCalculator) : MinMaxAvgTotalCalculator :=
  { c with
    count := 0
    total := 0
    squareTotal := 0
    meanCurr := none
    sCurr := none
    varianceCurr := none
    meanPrev := none
    sPrev := none }

end MinMaxAvgTotalCalculator

/-- `std::numeric_limits<float>::max()`. -/
def floatMax : ℚ := (2 ^ 24 - 1) * 2 ^ 104

structure Average where
  size : Nat
  minimum : ℚ
  maximum : ℚ
  varianceCalculator : MinMaxAvgTotalCalculator
deriving DecidableEq

namespace Average

def new : Average where
  size := 0
  minimum := floatMax
  maximum := 0
  varianceCalculator := .new

def update (average : Average) (x : ℚ) : Average where
  varianceCalculator := average.varianceCalculator.update x
  minimum := min x average.minimum
  maximum := max x average.maximum
  size := (average.size + 1) % 2 ^ 32

def reset (average : Average) : Average where
  varianceCalculator := average.varianceCalculator.reset
  size := 0
  minimum := floatMax
  maximum := 0

def count (average : Average) : Nat := average.size

def avg (average : Average) : Option ℚ := average.varianceCalculator.meanCurr

def mean (average : Average) : Option ℚ := average.avg

def var (average : Average) : Option ℚ := average.varianceCalculator.varianceCurr

def updates (average : Average) (samples : List ℚ) : Average := samples.foldl update average

/-! ## What a calculator knows of its samples -/

variable {samples others : List ℚ} {average : Average} {sample : ℚ}

def extremesOf (samples : List ℚ) : Set ℚ := { sample | sample ∈ samples }

/-- Everything that is read from an average, in exact arithmetic, after these samples. -/
structure Summary (samples : List ℚ) (average : Average) : Prop where
  enabled : average.varianceCalculator.enabled = true
  size : average.size = samples.length
  count : average.varianceCalculator.count = samples.length
  /-- The least of the samples that `float` has. -/
  minimum : IsLeast (insert floatMax (extremesOf samples)) average.minimum
  /-- Never less than zero, as `m_max` starts there. -/
  maximum : IsGreatest (insert 0 (extremesOf samples)) average.maximum
  total : average.varianceCalculator.total = samples.sum
  squareTotal : average.varianceCalculator.squareTotal =
    (samples.map fun sample => sample ^ 2).sum
  extremes : samples ≠ [] → ∃ least greatest,
    average.varianceCalculator.minimum = some least ∧ IsLeast (extremesOf samples) least ∧
      average.varianceCalculator.maximum = some greatest ∧ IsGreatest (extremesOf samples) greatest
  mean : average.mean = if samples = [] then none else some (sampleAverage samples)
  deviation : average.varianceCalculator.sCurr =
    if samples = [] then none else some (deviation samples)
  var : average.var = if samples = [] then none else some (sampleVariance samples)

theorem extremesOf_concat : extremesOf (samples ++ [sample]) = insert sample (extremesOf samples) := by
  ext other
  simp [extremesOf, or_comm]

theorem summary_fresh {average : Average} (enabled : average.varianceCalculator.enabled = true)
    (fresh : { average with varianceCalculator := { average.varianceCalculator with
      minimum := none, maximum := none } } = new) : Summary [] average := by
  obtain ⟨size, minimum, maximum, calculator⟩ := average
  simp only [new, MinMaxAvgTotalCalculator.new, Average.mk.injEq,
    MinMaxAvgTotalCalculator.mk.injEq] at fresh
  obtain ⟨rfl, rfl, rfl, -, counted, totalled, squared, -, -, mean, s, variance, -, -⟩ := fresh
  have none : extremesOf [] = ∅ := by simp [extremesOf]
  constructor
  · exact enabled
  · rfl
  · exact counted
  · simp [none]
  · simp [none]
  · exact totalled
  · exact squared
  · exact absurd rfl
  · exact mean
  · exact s
  · exact variance

theorem summary_new : Summary [] new := summary_fresh rfl rfl

/-- The extremes and the totals after one more sample. -/
theorem Summary.tally (summary : Summary samples average) (fits : samples.length + 1 < 2 ^ 32) :
    let calculator := average.varianceCalculator.tally sample
    calculator.count = samples.length + 1 ∧
      calculator.total = (samples ++ [sample]).sum ∧
      calculator.squareTotal = ((samples ++ [sample]).map fun sample => sample ^ 2).sum ∧
      ∃ least greatest, calculator.minimum = some least ∧
        IsLeast (extremesOf (samples ++ [sample])) least ∧
        calculator.maximum = some greatest ∧
        IsGreatest (extremesOf (samples ++ [sample])) greatest := by
  have counted : (average.varianceCalculator.count + 1) % 2 ^ 32 = samples.length + 1 := by
    rw [summary.count, Nat.mod_eq_of_lt fits]
  refine ⟨counted, ?_, ?_, ?_⟩
  · simp [MinMaxAvgTotalCalculator.tally, summary.total]
  · simp [MinMaxAvgTotalCalculator.tally, summary.squareTotal, pow_two]
  · simp only [MinMaxAvgTotalCalculator.tally, counted, Nat.add_eq_right, extremesOf_concat]
    by_cases first : samples = []
    · subst first
      refine ⟨sample, sample, rfl, ?_, rfl, ?_⟩
      · simp [extremesOf]
      · simp [extremesOf]
    · obtain ⟨least, greatest, minimum, isLeast, maximum, isGreatest⟩ := summary.extremes first
      have several : samples.length ≠ 0 := fun none => first (List.length_eq_zero_iff.mp none)
      rw [if_neg several, if_neg several, minimum, maximum, Option.map_some, Option.map_some]
      refine ⟨_, _, rfl, ?_, rfl, ?_⟩
      · have lesser : (if sample < least then sample else least) = min sample least := by
          rw [min_comm, min_def]
          split <;> split <;> grind
        rw [lesser]
        exact isLeast.insert sample
      · have larger : (if greatest < sample then sample else greatest) = max sample greatest := by
          rw [max_comm, max_def]
          split <;> split <;> grind
        rw [larger]
        exact isGreatest.insert sample

/-- The mean and the variance after one more sample. -/
theorem Summary.moments (summary : Summary samples average) (fits : samples.length + 1 < 2 ^ 32) :
    ∃ meanPrev sPrev, average.varianceCalculator.update sample =
      { average.varianceCalculator.tally sample with
        meanCurr := some (sampleAverage (samples ++ [sample]))
        sCurr := some (Data.deviation (samples ++ [sample]))
        varianceCurr := some (sampleVariance (samples ++ [sample]))
        meanPrev := meanPrev
        sPrev := sPrev } := by
  have counted : (average.varianceCalculator.tally sample).count = samples.length + 1 := by
    simp only [MinMaxAvgTotalCalculator.tally, summary.count, Nat.mod_eq_of_lt fits]
  have mean := summary.mean
  have s := summary.deviation
  rw [MinMaxAvgTotalCalculator.update, if_pos summary.enabled]
  by_cases first : samples = []
  · subst first
    refine ⟨average.varianceCalculator.meanPrev, average.varianceCalculator.sPrev, ?_⟩
    have average : sampleAverage [sample] = sample := by simp [sampleAverage]
    have variance : sampleVariance [sample] = 0 := by simp [sampleVariance, deviation_singleton]
    simp only [counted, List.length_nil, if_true, List.nil_append, average, deviation_singleton,
      variance]
    rfl
  · have more : samples.length + 1 ≠ 1 := fun one =>
      first (List.length_eq_zero_iff.mp (Nat.succ_injective one))
    have less : (samples.length + 1 + (2 ^ 32 - 1)) % 2 ^ 32 = samples.length := by omega
    rw [if_neg first] at mean s
    have before : (average.varianceCalculator.tally sample).meanCurr =
        some (sampleAverage samples) := mean
    have deviated : (average.varianceCalculator.tally sample).sCurr =
        some (Data.deviation samples) := s
    refine ⟨some (sampleAverage samples), some (Data.deviation samples), ?_⟩
    have variance : sampleVariance (samples ++ [sample]) =
        Data.deviation (samples ++ [sample]) / (samples.length : ℚ) := by
      simp [sampleVariance]
    simp only [counted, if_neg more, before, deviated, Option.map_some, less,
      ← sampleAverage_concat first, Option.bind_some, bind, pure, ← deviation_concat first, variance]

theorem Summary.update (summary : Summary samples average) (fits : samples.length + 1 < 2 ^ 32) :
    Summary (samples ++ [sample]) (average.update sample) := by
  obtain ⟨counted, totalled, squared, extremes⟩ := @Summary.tally samples average sample summary fits
  obtain ⟨meanPrev, sPrev, next⟩ := @Summary.moments samples average sample summary fits
  have several : samples ++ [sample] ≠ [] := by simp
  constructor
  · simp only [Average.update, next]
    exact summary.enabled
  · simp only [Average.update, summary.size, Nat.mod_eq_of_lt fits, List.length_append,
      List.length_singleton]
  · simp only [Average.update, next, counted, List.length_append, List.length_singleton]
  · rw [extremesOf_concat, Set.insert_comm]
    exact summary.minimum.insert sample
  · rw [extremesOf_concat, Set.insert_comm]
    exact summary.maximum.insert sample
  · simp only [Average.update, next, totalled]
  · simp only [Average.update, next, squared]
  · intro _
    simp only [Average.update, next]
    exact extremes
  · simp only [Average.mean, avg, Average.update, next, if_neg several]
  · simp only [Average.update, next, if_neg several]
  · simp only [Average.var, Average.update, next, if_neg several]

theorem Summary.updates (summary : Summary [] average) (samples : List ℚ)
    (fits : samples.length < 2 ^ 32) : Summary samples (average.updates samples) := by
  induction samples using List.reverseRecOn with
  | nil => exact summary
  | append_singleton samples sample ih =>
      rw [List.length_append, List.length_singleton] at fits
      rw [Average.updates, List.foldl_append]
      exact (ih (Nat.lt_of_succ_lt fits)).update fits

/-- In exact arithmetic a calculator that was given samples in this order tells their
number, their sum and the sum of their squares, their extremes, their mean and the
unbiased estimate of their variance. -/
theorem summary_updates (samples : List ℚ) (fits : samples.length < 2 ^ 32) :
    Summary samples (Average.new.updates samples) :=
  summary_new.updates samples fits

theorem summary_three : Summary [-1, 2, 5] (Average.new.updates [-1, 2, 5]) :=
  summary_updates [-1, 2, 5] (by decide)

/-- What the observer reads of an average. -/
def observed (average : Average) : Simvoip.Average where
  size := average.size
  maximum := average.maximum
  mean := average.mean

/-- In exact arithmetic the averages of the observer are those of the calculator, seen
from outside. -/
theorem observed_updates (samples : List ℚ) (fits : samples.length < 2 ^ 32) :
    (Average.new.updates samples).observed = Simvoip.Average.ofSamples samples := by
  have summary := summary_new.updates samples fits
  have maximum : (Average.new.updates samples).maximum =
      (Simvoip.Average.ofSamples samples).maximum := by
    refine summary.maximum.unique ⟨?_, ?_⟩
    · rcases Simvoip.Average.le_maximum_ofSamples.mp
        (le_refl (Simvoip.Average.ofSamples samples).maximum) with zero | ⟨sample, member, below⟩
      · have nonneg := (Simvoip.Average.maximum_ofSamples_le.mp
          (le_refl (Simvoip.Average.ofSamples samples).maximum)).1
        exact .inl (le_antisymm zero nonneg)
      · have above := (Simvoip.Average.maximum_ofSamples_le.mp
          (le_refl (Simvoip.Average.ofSamples samples).maximum)).2 sample member
        exact .inr (le_antisymm below above ▸ member)
    · rintro other (rfl | member)
      · exact Simvoip.Average.le_maximum_ofSamples.mpr (.inl le_rfl)
      · exact Simvoip.Average.le_maximum_ofSamples.mpr (.inr ⟨other, member, le_rfl⟩)
  apply Simvoip.Average.eq_of_parts
  · exact summary.size.trans Simvoip.Average.size_ofSamples.symm
  · exact maximum
  · exact summary.mean.trans Simvoip.Average.mean_ofSamples.symm

theorem observed_three : (Average.new.updates [-1, 2, 5]).observed =
    Simvoip.Average.ofSamples [-1, 2, 5] :=
  observed_updates [-1, 2, 5] (by decide)

end Average

end Simvoip.Ns3
