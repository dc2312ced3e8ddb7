import Mathlib.Tactic.Linarith
import Simvoip.Main
import Simvoip.Main.Lectura
import Simvoip.Voip

namespace Simvoip

open Simvoip.Data Simvoip.Semantics

/-! # The rates of the codec

`tasaCodec` has two elements, and the constructor of a phone draws its rate between
them.  `GetValue` is not part of the program.
-/

/-- `tasaCodec[n] = DataRate(...)`, on the memory from the array on. -/
def guardaTasa (DataRate : List Char → UInt64) (n : UInt8) (token : List Char)
    (memoria : Nat → UInt64) : Nat → UInt64 :=
  Function.update memoria n.toNat (DataRate token)

/-- Both elements of the array are constructed as zero. -/
def tasaCodec (memoria : Nat → UInt64) : Nat → UInt64 :=
  Function.update (Function.update memoria 0 0) 1 0

def leeCodec (DataRate : List Char → UInt64) (fuel : Nat) (sTasaCodec : List Char)
    (memoria : Nat → UInt64) : Option (Lectura (Nat → UInt64)) :=
  Lectura.lee (guardaTasa DataRate) fuel sTasaCodec (tasaCodec memoria)

/-- The bounds that the constructor of a phone takes, in 32 bits. -/
def minTasa (tasas : Nat → UInt64) : UInt32 := (tasas 0).toUInt32

def maxTasa (tasas : Nat → UInt64) : UInt32 := (tasas 1).toUInt32

/-- Every phone has a rate that its constructor can draw. -/
def Scenario.Drawn (getValue : UInt32 → UInt32 → Set ℚ) (tasas : Nat → UInt64)
    (scenario : Scenario) : Prop :=
  ∀ phone < scenario.phones, ∃ value ∈ getValue (minTasa tasas) (maxTasa tasas),
    scenario.tasa phone = (Double.toUint value).toNat

/-- After the loop the array holds the two rates of the string, and every phone that is
then constructed has a rate between them. -/
structure CodecReaches (DataRate : List Char → UInt64) (getValue : UInt32 → UInt32 → Set ℚ)
    (memoria : Nat → UInt64) (sTasaCodec : List Char) (a b : UInt64) : Prop where
  array : ∃ fuel lectura, leeCodec DataRate fuel sTasaCodec memoria = some lectura ∧
    ∀ i, lectura.datos i = if i = 0 then a else if i = 1 then b else memoria i
  rates : ∀ fuel lectura, leeCodec DataRate fuel sTasaCodec memoria = some lectura →
    ∀ scenario : Scenario, scenario.Drawn getValue lectura.datos → ∀ phone < scenario.phones,
      a.toNat ≤ ((System.initial scenario).voips phone).tasa ∧
        ((System.initial scenario).voips phone).tasa ≤ b.toNat

theorem tasa_initial (scenario : Scenario) {phone : Nat} (inside : phone < scenario.phones) :
    ((System.initial scenario).voips phone).tasa = scenario.tasa phone := by
  suffices constructed : ∀ count, phone < count →
      ((System.constructed scenario count).voips phone).tasa = scenario.tasa phone from
    constructed scenario.phones inside
  intro count below
  induction count with
  | zero => exact absurd below (Nat.not_lt_zero _)
  | succ count ih =>
      simp only [System.constructed, System.newVoip]
      by_cases same : phone = count
      · subst same
        rw [Function.update_self]
      · rw [Function.update_of_ne same]
        exact ih (by omega)

variable {DataRate : List Char → UInt64} {getValue : UInt32 → UInt32 → Set ℚ}
  {memoria : Nat → UInt64} {ta tb : List Char}

/-- The second rate comes after the only separator, and is never read. -/
theorem leeCodec_eq (plain : ';' ∉ ta) (plain' : ';' ∉ tb) :
    leeCodec DataRate 2 (ta ++ ';' :: tb) memoria =
      some { texto := tb, n := 0, datos := Function.update (tasaCodec memoria) 0 (DataRate ta) } := by
  have each : ∀ token ∈ [ta, tb], ';' ∉ token := by simp [plain, plain']
  have ended := Lectura.lee_intercalate (guardaTasa DataRate) (List.cons_ne_nil ta [tb]) each
    (tasaCodec memoria)
  rw [List.intercalate_cons_cons, List.intercalate_singleton, List.append_assoc] at ended
  exact ended

/-- The array is left with the first rate and the zero it was constructed with. -/
theorem datos_leeCodec (plain : ';' ∉ ta) (plain' : ';' ∉ tb) {fuel : Nat}
    {lectura : Lectura (Nat → UInt64)}
    (completed : leeCodec DataRate fuel (ta ++ ';' :: tb) memoria = some lectura) (i : Nat) :
    lectura.datos i = if i = 0 then DataRate ta else if i = 1 then 0 else memoria i := by
  rw [loop_unique completed (leeCodec_eq plain plain')]
  show Function.update (tasaCodec memoria) 0 (DataRate ta) i = _
  simp only [tasaCodec, Function.update_apply]
  split
  · rfl
  · rfl

/-- A draw between zero and zero is zero. -/
theorem drawn_zero {tasas : Nat → UInt64} {scenario : Scenario}
    (range : ∀ min max, min ≤ max → ∀ value ∈ getValue min max,
      (min.toNat : ℚ) ≤ value ∧ value ≤ (max.toNat : ℚ))
    (zero : tasas 0 = 0) (zero' : tasas 1 = 0) (drawn : scenario.Drawn getValue tasas)
    {phone : Nat} (inside : phone < scenario.phones) : scenario.tasa phone = 0 := by
  obtain ⟨value, possible, rate⟩ := drawn phone inside
  rw [minTasa, maxTasa, zero, zero'] at possible
  obtain ⟨lower, upper⟩ := range _ _ (UInt32.le_refl _) value possible
  have none : value = 0 := le_antisymm upper lower
  rw [rate, none]
  rfl

/-- The interval reaches the array and the phones exactly when it is empty: its upper
end is the zero that the array was constructed with. -/
theorem codec_iff (DataRate : List Char → UInt64) (getValue : UInt32 → UInt32 → Set ℚ)
    (memoria : Nat → UInt64) (ta tb : List Char) (plain : ';' ∉ ta) (plain' : ';' ∉ tb)
    (ordered : DataRate ta ≤ DataRate tb)
    (range : ∀ min max, min ≤ max → ∀ value ∈ getValue min max,
      (min.toNat : ℚ) ≤ value ∧ value ≤ (max.toNat : ℚ)) :
    CodecReaches DataRate getValue memoria (ta ++ ';' :: tb) (DataRate ta) (DataRate tb) ↔
      DataRate tb = 0 := by
  have cells : ∀ {fuel lectura},
      leeCodec DataRate fuel (ta ++ ';' :: tb) memoria = some lectura →
        ∀ i, lectura.datos i = if i = 0 then DataRate ta else if i = 1 then 0 else memoria i :=
    fun completed => datos_leeCodec plain plain' completed
  constructor
  · intro reaches
    obtain ⟨fuel, lectura, completed, array⟩ := reaches.array
    have second := array 1
    rw [cells completed] at second
    exact second.symm
  · intro zero
    have first : DataRate ta = 0 := by
      rw [zero] at ordered
      exact UInt64.le_antisymm ordered UInt64.zero_le
    constructor
    · refine ⟨2, _, leeCodec_eq plain plain', fun i => ?_⟩
      rw [cells (leeCodec_eq plain plain'), zero]
    · intro fuel lectura completed scenario drawn phone inside
      rw [tasa_initial scenario inside, drawn_zero range _ _ drawn inside, first, zero]
      · exact ⟨Nat.le_refl _, Nat.le_refl _⟩
      · rw [cells completed, if_pos rfl, first]
      · rw [cells completed]
        rfl

/-- A draw of a uniform variable, by its position in the range. -/
def uniform (min max : UInt32) : Set ℚ :=
  { value | ∃ u : ℚ, 0 ≤ u ∧ u < 1 ∧ value = min.toNat + u * (max.toNat - min.toNat) }

theorem uniform_range (min max : UInt32) (ordered : min ≤ max) :
    ∀ value ∈ uniform min max, (min.toNat : ℚ) ≤ value ∧ value ≤ (max.toNat : ℚ) := by
  rintro value ⟨u, nonneg, below, rfl⟩
  have width : (0 : ℚ) ≤ max.toNat - min.toNat :=
    sub_nonneg.mpr (Nat.cast_le.mpr (UInt32.le_iff_toNat_le.mp ordered))
  have lower := mul_nonneg nonneg width
  have upper := mul_le_of_le_one_left width below.le
  constructor
  · linarith
  · linarith

/-- The two rates that `main` has by default. -/
def codecRate (token : List Char) : UInt64 := if token = "64kbps".toList then 64000 else 96000

theorem codec_fails : ¬ CodecReaches codecRate uniform (fun _ => 0)
    ("64kbps".toList ++ ';' :: "96kbps".toList) 64000 96000 := by
  intro reaches
  obtain ⟨fuel, lectura, completed, array⟩ := reaches.array
  have second := array 1
  rw [datos_leeCodec (by decide) (by decide) completed] at second
  exact absurd second (by decide)

theorem codec_holds : CodecReaches (fun _ => 0) uniform (fun _ => 0)
    ("0bps".toList ++ ';' :: "0bps".toList) 0 0 :=
  (codec_iff (fun _ => 0) uniform (fun _ => 0) _ _ (by decide) (by decide) (by decide)
    uniform_range).mpr rfl

end Simvoip
