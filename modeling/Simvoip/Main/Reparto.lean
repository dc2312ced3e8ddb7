import Mathlib.Tactic.NormNum
import Simvoip.Main.Places

namespace Simvoip

open Simvoip.Data Simvoip.Semantics

/-- A `double` on which the test of the distribution is exact: a whole quotient of
32 bits divided by a million against a number of links. -/
class ExactTest (D : Type) [Double D] : Prop where
  lt_div_iff : ∀ (enlaces : UInt8) (cociente : UInt64), cociente.toNat < 2 ^ 32 →
    ((Double.ofUint enlaces.toUInt64 : D) < Double.ofUint cociente / Double.ofUint 1000000 ↔
      enlaces.toNat * 1000000 < cociente.toNat)

instance : ExactTest ℚ where
  lt_div_iff enlaces cociente _ := by
    change ((enlaces.toUInt64.toNat : ℚ) < (cociente.toNat : ℚ) / ((1000000 : UInt64).toNat : ℚ)) ↔ _
    have million : ((1000000 : UInt64).toNat : ℚ) = 1000000 := rfl
    rw [million, lt_div_iff₀ (by norm_num), UInt8.toNat_toUInt64]
    exact_mod_cast Iff.rfl

namespace Search

variable {D : Type} [Double D] {objetivo : D} {s t : Search D} {qos : D} {x : UInt32}
  {velocidades : StdMap UInt8 UInt64} {k : Nat} {punto otro : Punto D}

/-! # The distribution of `x`

It tries the configurations by links and then by speed, and stops at the first
one at which nothing of `x` remains.
-/

/-- The speed under an index, as `operator[]` reads it. -/
def tasa (velocidades : StdMap UInt8 UInt64) (velocidad : UInt8) : Nat :=
  (velocidades.index velocidad 0).1.toNat

/-- A table of positive speeds with the indices `0` to `k - 1`. -/
structure Tabla (velocidades : StdMap UInt8 UInt64) (k : Nat) : Prop where
  nonempty : 0 < k
  small : k ≤ 256
  keys : ∀ velocidad : UInt8, velocidad ∈ velocidades ↔ velocidad.toNat < k
  positive : ∀ velocidad : UInt8, velocidad.toNat < k → 0 < tasa velocidades velocidad

/-- Nothing of `x` remains at this configuration. -/
def Cabe (velocidades : StdMap UInt8 UInt64) (x : UInt32) (enlaces velocidad : UInt8) : Prop :=
  x.toNat / tasa velocidades velocidad ≤ enlaces.toNat * 1000000

instance (velocidades : StdMap UInt8 UInt64) (x : UInt32) (enlaces velocidad : UInt8) :
    Decidable (Cabe velocidades x enlaces velocidad) :=
  inferInstanceAs (Decidable (_ ≤ _))

/-- The test of the distribution at a configuration. -/
def Sobra (velocidades : StdMap UInt8 UInt64) (x : UInt32) (punto : Punto D) : Prop :=
  (Double.ofUint punto.enlaces.toUInt64 : D) <
    Double.ofUint (x.toUInt64 / (velocidades.index punto.velocidad 0).1) / Double.ofUint 1000000

instance (velocidades : StdMap UInt8 UInt64) (x : UInt32) (punto : Punto D) :
    Decidable (Sobra velocidades x punto) :=
  inferInstanceAs (Decidable (_ < _))

/-- The first place that leaves nothing of `x`. -/
def reparte (D : Type) [Double D] (velocidades : StdMap UInt8 UInt64) (x : UInt32) : Nat :=
  ((List.range (256 * velocidades.size)).find? fun lugar =>
    ¬ Sobra velocidades x (puntoEn velocidades lugar (Double.ofUint 0 : D))).getD 0

theorem Tabla.size (tabla : Tabla velocidades k) : velocidades.size = k := by
  have image : velocidades.keys.image UInt8.toNat = Finset.range k := by
    ext index
    simp only [Finset.mem_image, Finmap.mem_keys, tabla.keys, Finset.mem_range]
    constructor
    · rintro ⟨velocidad, inside, rfl⟩
      exact inside
    · intro inside
      have small := tabla.small
      refine ⟨UInt8.ofNat index, ?_, ?_⟩ <;>
        simp only [UInt8.toNat_ofNat'] <;> omega
  have injective : Function.Injective UInt8.toNat := fun _ _ => UInt8.toNat_inj.mp
  rw [StdMap.size, ← Finset.card_image_of_injective _ injective, image, Finset.card_range]

theorem Tabla.lastIndex (tabla : Tabla velocidades k) :
    (Search.lastIndex velocidades).toNat = k - 1 := by
  rw [lastIndex_toNat (tabla.size ▸ tabla.nonempty), tabla.size]

theorem Tabla.index (tabla : Tabla velocidades k) {velocidad : UInt8}
    (inside : velocidad.toNat < k) : (velocidades.index velocidad 0).2 = velocidades :=
  StdMap.index_of_mem 0 ((tabla.keys velocidad).mpr inside)

omit [Double D] in
theorem tabla_insert {tasa : UInt64} (positive : tasa ≠ 0) :
    Tabla ((∅ : StdMap UInt8 UInt64).insert 0 tasa) 1 where
  nonempty := Nat.one_pos
  small := by decide
  keys velocidad := by
    rw [Finmap.mem_insert, Nat.lt_one_iff, ← UInt8.toNat_zero, UInt8.toNat_inj]
    simp [Finmap.notMem_empty]
  positive velocidad inside := by
    have zero : velocidad = 0 := UInt8.toNat_inj.mp (Nat.lt_one_iff.mp inside)
    rw [zero, Search.tasa, StdMap.index_of_lookup 0 (Finmap.lookup_insert _), Nat.pos_iff_ne_zero]
    exact fun none => positive (UInt64.toNat_inj.mp none)

theorem sobra_iff [ExactTest D] :
    Sobra velocidades x punto ↔ ¬ Cabe velocidades x punto.enlaces punto.velocidad := by
  have quotient : (x.toUInt64 / (velocidades.index punto.velocidad 0).1).toNat =
      x.toNat / tasa velocidades punto.velocidad := by
    rw [UInt64.toNat_div, UInt32.toNat_toUInt64, tasa]
  have small : (x.toUInt64 / (velocidades.index punto.velocidad 0).1).toNat < 2 ^ 32 := by
    rw [quotient]
    exact Nat.lt_of_le_of_lt (Nat.div_le_self _ _) x.toNat_lt
  rw [Sobra, ExactTest.lt_div_iff _ _ small, quotient, Cabe, Nat.not_le]

theorem remains_iff_sobra : s.Remains x ↔ Sobra s.velocidades x s.resultado :=
  Iff.rfl

theorem remains_iff [ExactTest D] : s.Remains x ↔
    ¬ Cabe s.velocidades x s.resultado.enlaces s.resultado.velocidad :=
  remains_iff_sobra.trans sobra_iff

/-- A speed that divides is in the table. -/
theorem mem_of_index_ne_zero {velocidad : UInt8}
    (divides : (velocidades.index velocidad 0).1 ≠ 0) : velocidad ∈ velocidades := by
  by_contra absent
  rw [StdMap.index_fst, Finmap.lookup_eq_none.mpr absent] at divides
  exact divides rfl

/-- A turn of the distribution finds its speed in the table. -/
theorem turn_cases (inside : s.resultado.velocidad.toNat < s.velocidades.size)
    (taken : s.reparto x = some t) : s.resultado.velocidad ∈ s.velocidades ∧
      (s.Remains x ∧ s.resultado.velocidad.toNat = s.velocidades.size - 1 ∧ t = { s with
          resultado := { s.resultado with enlaces := s.resultado.enlaces + 1, velocidad := 0 } } ∨
        s.Remains x ∧ s.resultado.velocidad.toNat ≠ s.velocidades.size - 1 ∧ t = { s with
          resultado := { s.resultado with velocidad := s.resultado.velocidad + 1 } } ∨
        ¬ s.Remains x ∧ t = { s with place := .faseI }) := by
  have last : s.resultado.velocidad.toUInt64 = Search.lastIndex s.velocidades ↔
      s.resultado.velocidad.toNat = s.velocidades.size - 1 := by
    rw [← UInt64.toNat_inj, UInt8.toNat_toUInt64, lastIndex_toNat (Nat.zero_lt_of_lt inside)]
  simp only [reparto] at taken
  split at taken
  · cases taken
  · rename_i divides
    have present := mem_of_index_ne_zero divides
    refine ⟨present, ?_⟩
    simp only [StdMap.index_of_mem 0 present, last] at taken
    split at taken
    · rename_i remains
      split at taken <;> rename_i place <;> simp only [Option.some.injEq] at taken
      · exact .inl ⟨remains, place, taken.symm⟩
      · exact .inr (.inl ⟨remains, place, taken.symm⟩)
    · rename_i ended
      simp only [Option.some.injEq] at taken
      exact .inr (.inr ⟨ended, taken.symm⟩)

theorem reparto_cases (tabla : Tabla s.velocidades k)
    (inside : s.resultado.velocidad.toNat < k) (taken : s.reparto x = some t) :
    s.Remains x ∧ s.resultado.velocidad.toNat = k - 1 ∧ t = { s with
        resultado := { s.resultado with enlaces := s.resultado.enlaces + 1, velocidad := 0 } } ∨
      s.Remains x ∧ s.resultado.velocidad.toNat ≠ k - 1 ∧ t = { s with
        resultado := { s.resultado with velocidad := s.resultado.velocidad + 1 } } ∨
      ¬ s.Remains x ∧ t = { s with place := .faseI } := by
  rw [← tabla.size] at inside ⊢
  exact (turn_cases inside taken).2

theorem sobra_congr (links : punto.enlaces = otro.enlaces)
    (speed : punto.velocidad = otro.velocidad) :
    Sobra velocidades x punto ↔ Sobra velocidades x otro := by
  rw [Sobra, Sobra, links, speed]

theorem reparte_lt (nonempty : 0 < velocidades.size) :
    reparte D velocidades x < 256 * velocidades.size := by
  unfold reparte
  cases found : (List.range (256 * velocidades.size)).find? fun lugar =>
      ¬ Sobra velocidades x (puntoEn velocidades lugar (Double.ofUint 0 : D)) with
  | none => exact Nat.mul_pos (by decide) nonempty
  | some lugar => exact List.mem_range.mp (List.mem_of_find?_eq_some found)

/-- Something of `x` remains at every place that a distribution has left behind. -/
structure Turning (s : Search D) (x : UInt32) : Prop where
  velocidad : s.resultado.velocidad.toNat < s.velocidades.size
  tried : ∀ lugar < rank s.velocidades s.resultado,
    Sobra s.velocidades x (puntoEn s.velocidades lugar s.resultado.qos)

theorem Turning.start (nonempty : 0 < s.velocidades.size) (links : s.resultado.enlaces = 0)
    (speed : s.resultado.velocidad = 0) : Turning s x where
  velocidad := by
    rw [speed]
    exact nonempty
  tried lugar before := by
    rw [rank, links, speed, UInt8.toNat_zero, Nat.zero_mul] at before
    exact absurd before (Nat.not_lt_zero _)

/-- A turn that goes on passes one place, or goes back to the first. -/
theorem Turning.next (turning : Turning s x) (remains : s.Remains x)
    (table : t.velocidades = s.velocidades)
    (velocidad : t.resultado.velocidad.toNat < s.velocidades.size)
    (further : rank s.velocidades t.resultado ≤ rank s.velocidades s.resultado + 1) :
    Turning t x := by
  refine ⟨table ▸ velocidad, fun lugar before => ?_⟩
  rw [table] at before ⊢
  rcases Nat.lt_succ_iff_lt_or_eq.mp (Nat.lt_of_lt_of_le before further) with earlier | rfl
  · exact (sobra_congr rfl rfl).mp (turning.tried lugar earlier)
  · rw [puntoEn_rank turning.velocidad]
    exact remains_iff_sobra.mp remains

theorem Turning.reparto (turning : Turning s x) (taken : s.reparto x = some t) :
    t.velocidades = s.velocidades ∧ s.resultado.velocidad ∈ s.velocidades ∧
      t.resultado.velocidad.toNat < s.velocidades.size ∧
        (t.place = s.place ∧ Turning t x ∨
          ¬ s.Remains x ∧ t.place = .faseI ∧ t.resultado = s.resultado) := by
  have nonempty := Nat.zero_lt_of_lt turning.velocidad
  have small := size_le s.velocidades
  obtain ⟨present, ⟨remains, last, rfl⟩ | ⟨remains, more, rfl⟩ | ⟨ended, rfl⟩⟩ :=
    turn_cases turning.velocidad taken
  · refine ⟨rfl, present, nonempty, .inl ⟨rfl, turning.next remains rfl nonempty ?_⟩⟩
    have links : (s.resultado.enlaces + 1).toNat ≤ s.resultado.enlaces.toNat + 1 := by
      rw [UInt8.toNat_add, UInt8.toNat_one]
      exact Nat.mod_le _ _
    have fits := Nat.mul_le_mul_right s.velocidades.size links
    rw [Nat.succ_mul] at fits
    simp only [rank, UInt8.toNat_zero]
    omega
  · have faster : (s.resultado.velocidad + 1).toNat = s.resultado.velocidad.toNat + 1 := by
      have inside := turning.velocidad
      rw [UInt8.toNat_add, UInt8.toNat_one]
      omega
    have inside : (s.resultado.velocidad + 1).toNat < s.velocidades.size := by
      have inside := turning.velocidad
      omega
    refine ⟨rfl, present, inside, .inl ⟨rfl, turning.next remains rfl inside ?_⟩⟩
    simp only [rank, faster]
    omega
  · exact ⟨rfl, present, turning.velocidad, .inr ⟨ended, rfl, rfl⟩⟩

/-- Where a distribution ends does not depend on its way. -/
theorem Turning.ended (turning : Turning s x) (ended : ¬ s.Remains x) :
    reparte D s.velocidades x = rank s.velocidades s.resultado := by
  have first : (List.range (256 * s.velocidades.size)).find? (fun lugar =>
      ¬ Sobra s.velocidades x (puntoEn s.velocidades lugar (Double.ofUint 0 : D))) =
        some (rank s.velocidades s.resultado) := by
    rw [List.find?_range_eq_some]
    refine ⟨?_, List.mem_range.mpr (rank_lt turning.velocidad), fun lugar before => ?_⟩
    · rw [puntoEn_rank turning.velocidad]
      exact decide_eq_true ended
    · have remains : Sobra s.velocidades x (puntoEn s.velocidades lugar (Double.ofUint 0)) :=
        (sobra_congr rfl rfl).mp (turning.tried lugar before)
      simp [remains]
  rw [reparte, first, Option.getD_some]

theorem Turning.not_cabe [ExactTest D] (turning : Turning s x) {enlaces velocidad : UInt8}
    (inside : velocidad.toNat < s.velocidades.size)
    (before : Antes enlaces velocidad s.resultado.enlaces s.resultado.velocidad) :
    ¬ Cabe s.velocidades x enlaces velocidad := by
  let punto : Punto D := { s.resultado with enlaces, velocidad }
  have earlier : rank s.velocidades punto < rank s.velocidades s.resultado :=
    rank_lt_of_antes inside before
  have remains := turning.tried _ earlier
  rw [puntoEn_rank inside] at remains
  exact sobra_iff.mp remains

/-- The table never grows, every speed index is one of it, and a distribution comes
after a simulation and has left the configurations behind that leave a remainder. -/
structure Scanned (velocidades : StdMap UInt8 UInt64) (k : Nat) (s : Search D) : Prop where
  table : s.velocidades = velocidades
  velocidad : s.resultado.velocidad.toNat < k
  previa : s.anterior.velocidad.toNat < k
  begun : ∀ x, s.place = .reparto x → s.faseI ≠ []
  tried : ∀ x, s.place = .reparto x → ∀ enlaces velocidad : UInt8, velocidad.toNat < k →
    Antes enlaces velocidad s.resultado.enlaces s.resultado.velocidad →
      ¬ Cabe velocidades x enlaces velocidad

theorem not_antes_zero {enlaces velocidad : UInt8} : ¬ Antes enlaces velocidad 0 0 := by
  rintro (less | ⟨_, less⟩)
  · exact absurd less (UInt8.not_lt.mpr (UInt8.zero_le))
  · exact absurd less (UInt8.not_lt.mpr (UInt8.zero_le))

theorem Scanned.start (tabla : Tabla velocidades k) :
    Scanned velocidades k (start velocidades : Search D) where
  table := rfl
  velocidad := tabla.nonempty
  previa := tabla.nonempty
  begun := by simp [Search.start]
  tried := by simp [Search.start]

omit [Double D] in
theorem Tabla.velocidad_baja (tabla : Tabla velocidades k)
    (inside : punto.velocidad.toNat < k) : (baja velocidades punto).velocidad.toNat < k := by
  rw [← tabla.size] at inside ⊢
  exact Search.velocidad_baja inside

theorem Scanned.turning [ExactTest D] (tabla : Tabla velocidades k)
    (scanned : Scanned velocidades k s) (place : s.place = .reparto x) : Turning s x := by
  obtain ⟨rfl, inside, _, _, tried⟩ := scanned
  rw [← tabla.size] at inside
  refine ⟨inside, fun lugar before => sobra_iff.mpr ?_⟩
  refine tried x place _ _ (tabla.size ▸ velocidad_puntoEn (Nat.zero_lt_of_lt inside)) ?_
  apply antes_of_rank inside
  rw [rank_puntoEn (Nat.lt_trans before (rank_lt inside))]
  exact before

theorem Scanned.step [ExactTest D] (tabla : Tabla velocidades k)
    (scanned : Scanned velocidades k s) (taken : s.step Punto.measured objetivo qos = some t) :
    Scanned velocidades k t := by
  obtain ⟨rfl, velocidad, previa, begun, tried⟩ := id scanned
  unfold Search.step at taken
  split at taken
  · split at taken <;> simp only [Option.some.injEq] at taken <;> subst taken
    · refine ⟨?_, tabla.nonempty, velocidad, by simp [acercamiento], ?_⟩
      · simp only [acercamiento, capacidad, Punto.measured, tabla.index velocidad,
          tabla.index previa]
      · exact fun _ _ _ _ _ before => absurd before not_antes_zero
    · exact ⟨rfl, velocidad, previa, by simp, by simp⟩
  · rename_i x place
    obtain ⟨anterior, _, faseI, _, _⟩ := reparto_spec taken
    obtain ⟨table, _, inside, goes⟩ := (scanned.turning tabla place).reparto taken
    refine ⟨table, tabla.size ▸ inside, by rw [anterior]; exact previa, ?_, ?_⟩
    · rw [faseI]
      exact fun _ _ => begun x place
    · intro y turn enlaces velocidad' inside' before
      rcases goes with ⟨same, turning⟩ | ⟨_, head, _⟩
      · rw [turn, place] at same
        obtain rfl := Place.reparto.inj same
        rw [← table]
        exact turning.not_cabe (by rw [table, tabla.size]; exact inside') before
      · rw [head] at turn
        cases turn
  · split at taken <;> simp only [Option.some.injEq] at taken <;> subst taken
    · have lower := tabla.velocidad_baja velocidad
      rename_i place _
      exact ⟨rfl, lower, lower, by simp [descenso, place], by simp [descenso, place]⟩
    · exact ⟨rfl, velocidad, previa, by simp, by simp⟩
  · cases taken

end Search

def slowSpeed : StdMap UInt8 UInt64 := (∅ : StdMap UInt8 UInt64).insert 0 1

end Simvoip
