import Mathlib.Data.Nat.ModEq
import Simvoip.Main

namespace Simvoip.Search

open Simvoip.Data Simvoip.Semantics

variable {D : Type} {velocidades : StdMap UInt8 UInt64} {punto otro : Punto D} {qos : D}
  {lugar k : Nat}

/-! # The order of the configurations

By links, and then by speed.  The distribution of a prediction goes up in this order,
and FASE II goes down.
-/

/-- The order in which configurations are tried. -/
def Antes (enlaces velocidad enlaces' velocidad' : UInt8) : Prop :=
  enlaces < enlaces' ∨ enlaces = enlaces' ∧ velocidad < velocidad'

/-- How many configurations are smaller. -/
def rank (velocidades : StdMap UInt8 UInt64) (punto : Punto D) : Nat :=
  punto.enlaces.toNat * velocidades.size + punto.velocidad.toNat

/-- The configuration at a place of the order. -/
def puntoEn (velocidades : StdMap UInt8 UInt64) (lugar : Nat) (qos : D) : Punto D where
  enlaces := UInt8.ofNat (lugar / velocidades.size)
  velocidad := UInt8.ofNat (lugar % velocidades.size)
  qos

theorem size_le (velocidades : StdMap UInt8 UInt64) : velocidades.size ≤ 256 := by
  have injective : Function.Injective UInt8.toNat := fun _ _ => UInt8.toNat_inj.mp
  have within : velocidades.keys.image UInt8.toNat ⊆ Finset.range 256 := by
    intro index member
    obtain ⟨velocidad, _, rfl⟩ := Finset.mem_image.mp member
    exact Finset.mem_range.mpr velocidad.toNat_lt
  have bound := Finset.card_le_card within
  rwa [Finset.card_image_of_injective _ injective, Finset.card_range] at bound

/-- The last index of a table that is not empty. -/
theorem lastIndex_toNat (nonempty : 0 < velocidades.size) :
    (Search.lastIndex velocidades).toNat = velocidades.size - 1 := by
  have small := size_le velocidades
  rw [Search.lastIndex, UInt64.toNat_sub_of_le]
  · simp only [UInt64.toNat_ofNat', UInt64.toNat_one]
    omega
  · rw [UInt64.le_iff_toNat_le]
    simp only [UInt64.toNat_ofNat', UInt64.toNat_one]
    omega

theorem lastIndex_toUInt8 (nonempty : 0 < velocidades.size) :
    ((Search.lastIndex velocidades).toUInt8).toNat = velocidades.size - 1 := by
  have small := size_le velocidades
  rw [UInt64.toNat_toUInt8, lastIndex_toNat nonempty]
  omega

theorem velocidad_baja_of_last
    (last : ((Search.lastIndex velocidades).toUInt8).toNat = k - 1)
    (inside : punto.velocidad.toNat < k) : (baja velocidades punto).velocidad.toNat < k := by
  unfold baja
  split
  · simp only [last]
    omega
  · rename_i positive
    have above : 1 ≤ punto.velocidad := by
      rw [UInt8.le_iff_toNat_le, UInt8.toNat_one, Nat.one_le_iff_ne_zero]
      exact fun zero => positive (UInt8.toNat_inj.mp zero)
    simp only [UInt8.toNat_sub_of_le _ _ above]
    omega

theorem velocidad_baja (inside : punto.velocidad.toNat < velocidades.size) :
    (baja velocidades punto).velocidad.toNat < velocidades.size :=
  velocidad_baja_of_last (lastIndex_toUInt8 (Nat.zero_lt_of_lt inside)) inside

/-- Of so many speeds the descent goes through every configuration. -/
theorem counted_baja
    (last : ((lastIndex velocidades).toUInt8).toNat = k - 1) (inside : punto.velocidad.toNat < k)
    (positive : 0 < punto.enlaces.toNat * k + punto.velocidad.toNat) :
    (baja velocidades punto).enlaces.toNat * k + (baja velocidades punto).velocidad.toNat + 1 =
      punto.enlaces.toNat * k + punto.velocidad.toNat := by
  unfold baja
  split <;> rename_i slowest
  · rw [slowest, UInt8.toNat_zero, Nat.add_zero] at positive ⊢
    have linked : 1 ≤ punto.enlaces.toNat := Nat.pos_of_mul_pos_right positive
    have fewer : (punto.enlaces - 1).toNat = punto.enlaces.toNat - 1 :=
      UInt8.toNat_sub_of_le _ _ (UInt8.le_iff_toNat_le.mpr linked)
    obtain ⟨more, links⟩ := Nat.exists_eq_add_of_le linked
    simp only [fewer, last, links, Nat.add_sub_cancel_left, Nat.add_mul, Nat.one_mul]
    omega
  · have above : 1 ≤ punto.velocidad.toNat :=
      Nat.one_le_iff_ne_zero.mpr fun zero => slowest (UInt8.toNat_inj.mp zero)
    have slower : (punto.velocidad - 1).toNat = punto.velocidad.toNat - 1 :=
      UInt8.toNat_sub_of_le _ _ (UInt8.le_iff_toNat_le.mpr above)
    simp only [slower]
    omega

theorem rank_baja (inside : punto.velocidad.toNat < velocidades.size)
    (positive : 0 < rank velocidades punto) :
    rank velocidades (baja velocidades punto) + 1 = rank velocidades punto :=
  counted_baja (lastIndex_toUInt8 (Nat.zero_lt_of_lt inside)) inside positive

/-- Configurations of the table are ordered by their ranks. -/
theorem antes_of_rank (inside : otro.velocidad.toNat < velocidades.size)
    (less : rank velocidades punto < rank velocidades otro) :
    Antes punto.enlaces punto.velocidad otro.enlaces otro.velocidad := by
  unfold rank at less
  unfold Antes
  rw [UInt8.lt_iff_toNat_lt, UInt8.lt_iff_toNat_lt, ← UInt8.toNat_inj]
  rcases Nat.lt_trichotomy punto.enlaces.toNat otro.enlaces.toNat with fewer | same | more
  · exact .inl fewer
  · rw [same] at less
    exact .inr ⟨same, by omega⟩
  · have links := Nat.mul_le_mul_right velocidades.size (Nat.succ_le_of_lt more)
    rw [Nat.succ_mul] at links
    omega

theorem rank_lt_of_antes (inside : punto.velocidad.toNat < velocidades.size)
    (before : Antes punto.enlaces punto.velocidad otro.enlaces otro.velocidad) :
    rank velocidades punto < rank velocidades otro := by
  unfold rank
  rcases before with fewer | ⟨same, slower⟩
  · have links := Nat.mul_le_mul_right velocidades.size
      (Nat.succ_le_of_lt (UInt8.lt_iff_toNat_lt.mp fewer))
    rw [Nat.succ_mul] at links
    omega
  · rw [same]
    exact Nat.add_lt_add_left (UInt8.lt_iff_toNat_lt.mp slower) _

section

variable (inside : punto.velocidad.toNat < velocidades.size)

include inside

theorem rank_lt : rank velocidades punto < 256 * velocidades.size := by
  have links := Nat.mul_le_mul_right velocidades.size (Nat.le_of_lt_succ punto.enlaces.toNat_lt)
  rw [rank]
  omega

theorem rank_div : rank velocidades punto / velocidades.size = punto.enlaces.toNat := by
  rw [rank, Nat.mul_comm, Nat.mul_add_div (Nat.zero_lt_of_lt inside), Nat.div_eq_of_lt inside,
    Nat.add_zero]

theorem rank_mod : rank velocidades punto % velocidades.size = punto.velocidad.toNat := by
  rw [rank, Nat.mul_comm, Nat.mul_add_mod, Nat.mod_eq_of_lt inside]

/-- From the lowest place the descent goes to the highest. -/
theorem rank_baja_modEq :
    rank velocidades (baja velocidades punto) + 1 ≡ rank velocidades punto
      [MOD 256 * velocidades.size] := by
  rcases Nat.eq_zero_or_pos (rank velocidades punto) with lowest | positive
  · have nonempty := Nat.zero_lt_of_lt inside
    obtain ⟨noLinks, slowest⟩ := Nat.add_eq_zero_iff.mp lowest
    have unlinked : punto.enlaces = 0 :=
      UInt8.toNat_inj.mp ((Nat.mul_eq_zero.mp noLinks).resolve_right nonempty.ne')
    have wrapped : rank velocidades (baja velocidades punto) + 1 = 256 * velocidades.size := by
      rw [baja, if_pos (UInt8.toNat_inj.mp slowest), unlinked, rank]
      simp only [lastIndex_toUInt8 nonempty, UInt8.reduceSub, UInt8.reduceToNat]
      omega
    rw [wrapped, lowest]
    exact Nat.modEq_zero_iff_dvd.mpr (dvd_refl _)
  · rw [rank_baja inside positive]

theorem rank_inj (inside' : otro.velocidad.toNat < velocidades.size)
    (same : rank velocidades punto = rank velocidades otro) :
    (punto.enlaces, punto.velocidad) = (otro.enlaces, otro.velocidad) := by
  have links := congrArg (· / velocidades.size) same
  have speed := congrArg (· % velocidades.size) same
  simp only [rank_div inside, rank_div inside'] at links
  simp only [rank_mod inside, rank_mod inside'] at speed
  rw [Prod.mk.injEq]
  exact ⟨UInt8.toNat_inj.mp links, UInt8.toNat_inj.mp speed⟩

end

theorem rank_puntoEn (within : lugar < 256 * velocidades.size) :
    rank velocidades (puntoEn velocidades lugar qos) = lugar := by
  have small := size_le velocidades
  have nonempty : 0 < velocidades.size := Nat.pos_of_ne_zero fun none => by
    rw [none] at within
    exact Nat.not_lt_zero _ within
  have links : lugar / velocidades.size < 256 :=
    Nat.div_lt_of_lt_mul (Nat.mul_comm 256 _ ▸ within)
  have speed := Nat.mod_lt lugar nonempty
  simp only [rank, puntoEn, UInt8.toNat_ofNat']
  rw [Nat.mod_eq_of_lt links, Nat.mod_eq_of_lt (Nat.lt_of_lt_of_le speed small)]
  exact Nat.div_add_mod' lugar velocidades.size

theorem velocidad_puntoEn (nonempty : 0 < velocidades.size) :
    (puntoEn velocidades lugar qos).velocidad.toNat < velocidades.size := by
  have speed := Nat.mod_lt lugar nonempty
  simp only [puntoEn, UInt8.toNat_ofNat']
  exact Nat.lt_of_le_of_lt (Nat.mod_le _ _) speed

theorem puntoEn_rank (inside : punto.velocidad.toNat < velocidades.size) :
    puntoEn velocidades (rank velocidades punto) qos = { punto with qos } := by
  rw [puntoEn, rank_div inside, rank_mod inside, UInt8.ofNat_toNat, UInt8.ofNat_toNat]

end Simvoip.Search
