import Mathlib.Order.Monotone.Defs
import Simvoip.Main.Validity

namespace Simvoip.Search

open Simvoip.Data Simvoip.Semantics

variable {D : Type} [Double D] [ExactTest D] {objetivo : D} {s t : Search D} {qos : D}
  {x : UInt32} {velocidades : StdMap UInt8 UInt64} {k : Nat}

/-! # Whether FASE I makes progress

The prediction is in megabits per second, and the distribution divides it by the
speeds in bits per second and then by a million once more.
-/

omit [Double D] [ExactTest D] in
/-- The capacity of a configuration, in bits per second. -/
def bitRate (velocidades : StdMap UInt8 UInt64) (punto : Punto D) : Nat :=
  punto.enlaces.toNat * tasa velocidades punto.velocidad

/-- At the head of FASE I, with the target missed, the next configuration has more
capacity than the one that was measured. -/
def Progress (velocidades : StdMap UInt8 UInt64) (objetivo : D) (s : Search D) : Prop :=
  s.place = .faseI → s.faseI ≠ [] → s.resultado.qos < objetivo →
    bitRate velocidades s.anterior < bitRate velocidades s.resultado

omit [ExactTest D] in
instance (velocidades : StdMap UInt8 UInt64) (objetivo : D) (s : Search D) :
    Decidable (Progress velocidades objetivo s) :=
  inferInstanceAs (Decidable (_ → _ → _ → _))

/-- The speeds of the table grow with their index. -/
def Creciente (velocidades : StdMap UInt8 UInt64) : Prop :=
  ∀ v w : UInt8, v ∈ velocidades → w ∈ velocidades → v < w → tasa velocidades v < tasa velocidades w

def fastest (velocidades : StdMap UInt8 UInt64) : Nat :=
  tasa velocidades (lastIndex velocidades).toUInt8

/-- The links that the distribution of `x` takes at the fastest speed. -/
def neededLinks (velocidades : StdMap UInt8 UInt64) (x : UInt32) : Nat :=
  (x.toNat / fastest velocidades + 999999) / 1000000

/-- The fastest speed does not exceed `x`, and with the links that it takes every
speed within the measured capacity leaves a remainder. -/
def Climbs (objetivo : D) (s : Search D) (_qos : D) : Prop :=
  match s.place with
  | .reparto x => ¬ s.Remains x → s.resultado.qos < objetivo →
      fastest s.velocidades ≤ x.toNat ∧ ∀ velocidad ∈ s.velocidades.keys,
        neededLinks s.velocidades x * tasa s.velocidades velocidad ≤
            bitRate s.velocidades s.anterior →
          neededLinks s.velocidades x * 1000000 < x.toNat / tasa s.velocidades velocidad
  | _ => True

omit [ExactTest D] in
instance (objetivo : D) (s : Search D) (qos : D) : Decidable (Climbs objetivo s qos) :=
  match s with
  | ⟨.reparto _, velocidades, _, _, _, _⟩ =>
      inferInstanceAs (Decidable (_ → _ → _ ∧ ∀ velocidad ∈ velocidades.keys, _))
  | ⟨.faseI, _, _, _, _, _⟩ | ⟨.faseII, _, _, _, _, _⟩ | ⟨.fin, _, _, _, _, _⟩ =>
      inferInstanceAs (Decidable True)

omit [Double D] [ExactTest D] in
theorem Tabla.lastIndex_mem (tabla : Tabla velocidades k) :
    (Search.lastIndex velocidades).toUInt8 ∈ velocidades := by
  have nonempty := tabla.nonempty
  have small := tabla.small
  rw [tabla.keys, UInt64.toNat_toUInt8, tabla.lastIndex]
  omega

omit [Double D] [ExactTest D] in
theorem Creciente.le_fastest (creciente : Creciente velocidades) (tabla : Tabla velocidades k)
    {velocidad : UInt8} (member : velocidad ∈ velocidades) :
    tasa velocidades velocidad ≤ fastest velocidades := by
  have last := tabla.lastIndex_mem
  have inside := (tabla.keys velocidad).mp member
  have small := tabla.small
  by_cases same : velocidad = (lastIndex velocidades).toUInt8
  · rw [fastest, same]
  · refine Nat.le_of_lt (creciente _ _ member last ?_)
    rw [← UInt8.toNat_inj, UInt64.toNat_toUInt8, tabla.lastIndex] at same
    rw [UInt8.lt_iff_toNat_lt, UInt64.toNat_toUInt8, tabla.lastIndex]
    omega

/-- Where a distribution ends with a link, it took the links it needs at the
fastest speed. -/
theorem enlaces_eq (creciente : Creciente velocidades) (tabla : Tabla velocidades k)
    (scanned : Scanned velocidades k s) (place : s.place = .reparto x) (ended : ¬ s.Remains x)
    (linked : 1 ≤ s.resultado.enlaces) :
    s.resultado.enlaces.toNat = neededLinks velocidades x := by
  obtain ⟨rfl, inside, _, _, tried⟩ := scanned
  have cabe := not_not.mp (mt remains_iff.mpr ended)
  have last := tabla.lastIndex_mem
  have positive := tabla.positive s.resultado.velocidad inside
  have fits : x.toNat / fastest s.velocidades ≤ s.resultado.enlaces.toNat * 1000000 := by
    refine Nat.le_trans (Nat.div_le_div_left ?_ positive) cabe
    exact creciente.le_fastest tabla ((tabla.keys _).mpr inside)
  rw [UInt8.le_iff_toNat_le, UInt8.toNat_one] at linked
  -- one link less leaves a remainder at the fastest speed
  have fewer : (s.resultado.enlaces - 1).toNat = s.resultado.enlaces.toNat - 1 := by
    rw [UInt8.toNat_sub_of_le, UInt8.toNat_one]
    rw [UInt8.le_iff_toNat_le, UInt8.toNat_one]
    exact linked
  have remains := tried x place (s.resultado.enlaces - 1) _ ((tabla.keys _).mp last)
    (.inl (by rw [UInt8.lt_iff_toNat_lt, fewer]; omega))
  rw [Cabe, fewer, Nat.not_le] at remains
  change _ < x.toNat / fastest s.velocidades at remains
  rw [neededLinks]
  omega

theorem climbs_iff (creciente : Creciente velocidades) (tabla : Tabla velocidades k)
    (scanned : Scanned velocidades k s) (place : s.place = .reparto x) (ended : ¬ s.Remains x) :
    bitRate velocidades s.anterior < bitRate velocidades s.resultado ↔
      fastest velocidades ≤ x.toNat ∧ ∀ velocidad ∈ velocidades.keys,
        neededLinks velocidades x * tasa velocidades velocidad ≤
            bitRate velocidades s.anterior →
          neededLinks velocidades x * 1000000 < x.toNat / tasa velocidades velocidad := by
  have links := linked_iff tabla scanned place ended
  have needed := enlaces_eq creciente tabla scanned place ended
  obtain ⟨rfl, inside, _, _, tried⟩ := scanned
  have member := (tabla.keys _).mpr inside
  have cabe := not_not.mp (mt remains_iff.mpr ended)
  have slower : 1 ≤ s.resultado.enlaces ↔ fastest s.velocidades ≤ x.toNat := by
    rw [links]
    constructor
    · exact fun every => every _ (Finmap.mem_keys.mpr tabla.lastIndex_mem)
    · exact fun most velocidad present =>
        Nat.le_trans (creciente.le_fastest tabla (Finmap.mem_keys.mp present)) most
  constructor
  · intro more
    have linked : 1 ≤ s.resultado.enlaces := by
      rw [UInt8.le_iff_toNat_le, UInt8.toNat_one, Nat.one_le_iff_ne_zero]
      intro none
      simp [bitRate, none] at more
    refine ⟨slower.mp linked, fun velocidad present within => ?_⟩
    rw [← needed linked] at within ⊢
    -- a speed within the measured capacity comes before the chosen one
    have less := Nat.lt_of_mul_lt_mul_left (Nat.lt_of_le_of_lt within more)
    have before : velocidad < s.resultado.velocidad := by
      by_contra later
      rcases UInt8.le_iff_lt_or_eq.mp (UInt8.not_lt.mp later) with above | same
      · have faster := creciente _ _ member (Finmap.mem_keys.mp present) above
        omega
      · rw [same] at less
        exact Nat.lt_irrefl _ less
    have remains := tried x place s.resultado.enlaces velocidad
      ((tabla.keys _).mp (Finmap.mem_keys.mp present)) (.inr ⟨rfl, before⟩)
    rwa [Cabe, Nat.not_le] at remains
  · intro both
    obtain ⟨most, remainders⟩ := both
    have linked := slower.mpr most
    by_contra fewer
    rw [← needed linked] at remainders
    have remains := remainders s.resultado.velocidad (Finmap.mem_keys.mpr member)
      (Nat.le_of_not_lt fewer)
    rw [Cabe] at cabe
    omega

omit [ExactTest D] in
theorem progress_of_elsewhere (elsewhere : s.place ≠ .faseI) : Progress velocidades objetivo s :=
  fun head => absurd head elsewhere

theorem progress_step_iff (creciente : Creciente velocidades) (tabla : Tabla velocidades k)
    (scanned : Scanned velocidades k s)
    (taken : s.step Punto.measured objetivo qos = some t) :
    Progress velocidades objetivo t ↔ Climbs objetivo s qos := by
  have table := scanned.table
  unfold Search.step at taken
  unfold Climbs
  cases place : s.place with
  | faseI =>
      rw [place] at taken
      dsimp only at taken ⊢
      split at taken <;> simp only [Option.some.injEq] at taken <;> subst taken <;>
        exact iff_of_true (progress_of_elsewhere (by simp [acercamiento])) trivial
  | reparto x =>
      rw [place] at taken
      dsimp only at taken ⊢
      have inside := scanned.velocidad
      rcases reparto_cases (table ▸ tabla) inside taken with ⟨remains, _, rfl⟩ |
        ⟨remains, _, rfl⟩ | ⟨ended, rfl⟩
      · exact iff_of_true (progress_of_elsewhere (by simp [place])) fun ended => absurd remains ended
      · exact iff_of_true (progress_of_elsewhere (by simp [place])) fun ended => absurd remains ended
      · rw [table, ← climbs_iff creciente tabla scanned place ended]
        simp [Progress, ended, scanned.begun x place]
  | faseII =>
      rw [place] at taken
      dsimp only at taken ⊢
      split at taken <;> simp only [Option.some.injEq] at taken <;> subst taken <;>
        exact iff_of_true (progress_of_elsewhere (by simp [descenso, place])) trivial
  | fin =>
      rw [place] at taken
      cases taken

/-- In a run FASE I makes progress exactly when, wherever it misses the target,
its prediction is no less than the fastest speed, and no speed that is within the
measured capacity takes the prediction with the links that the fastest one needs. -/
theorem progress_iff (objetivo : D) (velocidades : StdMap UInt8 UInt64) (k : Nat)
    (tabla : Tabla velocidades k) (creciente : Creciente velocidades) (values : List D)
    (after : Search D)
    (completed : run (step Punto.measured objetivo) (start velocidades) values = some after) :
    Throughout (step Punto.measured objetivo) (Progress velocidades objetivo) (start velocidades)
        values ↔
      Stepwise (step Punto.measured objetivo) (Climbs objetivo) (start velocidades) values :=
  throughout_iff_stepwise (Scanned velocidades k) (Scanned.step tabla)
    (fun scanned _ => progress_step_iff creciente tabla scanned) (Scanned.start tabla)
    (by simp [Progress, start]) completed

/-- Every quality of service that was measured is the one of its capacity. -/
def Follows (velocidades : StdMap UInt8 UInt64) (quality : Nat → D) (s : Search D) : Prop :=
  ∀ punto ∈ s.simulations, punto.qos = quality (bitRate velocidades punto)

omit [Double D] [ExactTest D] in
theorem creciente_insert (speed : UInt64) :
    Creciente ((∅ : StdMap UInt8 UInt64).insert 0 speed) := by
  have only : ∀ v : UInt8, v ∈ (∅ : StdMap UInt8 UInt64).insert 0 speed → v = 0 := by
    intro v member
    exact (Finmap.mem_insert.mp member).resolve_right Finmap.notMem_empty
  intro v w left right less
  rw [only v left, only w right] at less
  exact absurd less (UInt8.lt_irrefl 0)

/-- A quality in proportion to the capacity, which six links of a megabit bring to
the target: half of it is measured with three, and the next configuration has no
capacity. -/
theorem progress_fails :
    Tabla oneSpeed 1 ∧ Creciente oneSpeed ∧ ∃ quality : Nat → ℚ, StrictMono quality ∧
      quality 0 = 0 ∧ 1 ≤ quality (6 * tasa oneSpeed 0) ∧
      ∃ s, run (step Punto.measured (1 : ℚ)) (start oneSpeed) [1 / 2, 0] = some s ∧
        Follows oneSpeed quality s ∧ ¬ Progress oneSpeed 1 s := by
  refine ⟨tabla_insert (by decide), creciente_insert _, fun capacity => capacity / 6000000, ?_,
    by norm_num, ?_, ?_⟩
  · intro lower upper less
    have cast : (lower : ℚ) < upper := by exact_mod_cast less
    exact div_lt_div_of_pos_right cast (by norm_num)
  · have rate : tasa oneSpeed 0 = 1000000 := by decide
    rw [rate]
    norm_num
  · have stuck : ∃ s, run (step Punto.measured (1 : ℚ)) (start oneSpeed) [1 / 2, 0] = some s ∧
        s.simulations = [{ enlaces := 3, velocidad := 0, qos := 1 / 2 }] ∧
          ¬ Progress oneSpeed 1 s := exists_run (by decide +kernel)
    obtain ⟨s, completed, simulations, still⟩ := stuck
    refine ⟨s, completed, ?_, still⟩
    intro punto member
    rw [simulations, List.mem_singleton] at member
    have rate : tasa oneSpeed 0 = 1000000 := by decide
    have links : (3 : UInt8).toNat = 3 := rfl
    subst member
    simp only [bitRate, rate, links]
    norm_num

/-- At one bit per second a prediction of ten million takes ten links. -/
theorem progress_holds :
    Throughout (step Punto.measured (1 : ℚ)) (Progress slowSpeed 1) (start slowSpeed)
      [3 / 10000000000000, 0, 0, 0, 0, 0, 0, 0, 0, 0, 0, 0] := by
  have chosen : ∃ s, run (step Punto.measured (1 : ℚ)) (start slowSpeed)
      [3 / 10000000000000, 0, 0, 0, 0, 0, 0, 0, 0, 0, 0, 0] = some s ∧ s.resultado.enlaces = 10 :=
    exists_run (by decide +kernel)
  obtain ⟨s, completed, _⟩ := chosen
  exact (progress_iff 1 slowSpeed 1 (tabla_insert (by decide)) (creciente_insert _) _ s
    completed).mpr (by decide +kernel)

end Simvoip.Search
