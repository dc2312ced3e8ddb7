import Simvoip.Main.Places

namespace Simvoip.Search

open Simvoip.Data Simvoip.Semantics

variable {D : Type} {velocidades : StdMap UInt8 UInt64} {punto otro : Punto D}

/-! # Where FASE II lands

It goes down by one place for every simulation, and from the lowest place to the
highest that 8 bits of links can give.  So the place where it stops is known from the
place where it begins and the number of its simulations.
-/

/-- The configuration just below another one in the order of FASE II, if it still
has a link. -/
def debajo (velocidades : StdMap UInt8 UInt64) (punto : Punto D) : Option (UInt8 × UInt8) :=
  if punto.velocidad = 0 then
    if 1 < punto.enlaces then some (punto.enlaces - 1, (lastIndex velocidades).toUInt8) else none
  else if 0 < punto.enlaces then some (punto.enlaces, punto.velocidad - 1) else none

/-- So many places below the first one, with 8 bits of links going round, lies a place up
to a single link at the slowest speed, or one just above a place that was tried. -/
def Lands (velocidades : StdMap UInt8 UInt64) (tried : List (Punto D)) (first steps : Nat) :
    Prop :=
  ∃ place, place + steps ≡ first [MOD 256 * velocidades.size] ∧
    (place ≤ velocidades.size ∨ ∃ punto ∈ tried, place = rank velocidades punto + 1)

section

variable (inside : punto.velocidad.toNat < velocidades.size)

include inside

/-- No smaller configuration has a link from a single link at the slowest speed on. -/
theorem debajo_eq : debajo velocidades punto = if rank velocidades punto ≤ velocidades.size then
    none else some ((baja velocidades punto).enlaces, (baja velocidades punto).velocidad) := by
  have nonempty := Nat.zero_lt_of_lt inside
  unfold debajo baja rank
  split <;> rename_i slowest
  · rw [slowest, UInt8.toNat_zero, Nat.add_zero]
    have fewer : 1 < punto.enlaces ↔
        ¬ punto.enlaces.toNat * velocidades.size ≤ velocidades.size := by
      rw [UInt8.lt_iff_toNat_lt, UInt8.toNat_one, Nat.not_le]
      constructor
      · exact fun more => (Nat.lt_mul_iff_one_lt_left nonempty).mpr more
      · exact fun more => (Nat.lt_mul_iff_one_lt_left nonempty).mp more
    simp only [fewer, ite_not]
  · have positive : 0 < punto.velocidad.toNat :=
      Nat.pos_of_ne_zero fun zero => slowest (UInt8.toNat_inj.mp zero)
    have fewer : 0 < punto.enlaces ↔
        ¬ punto.enlaces.toNat * velocidades.size + punto.velocidad.toNat ≤ velocidades.size := by
      rw [UInt8.lt_iff_toNat_lt, UInt8.toNat_zero, Nat.not_le]
      constructor
      · intro linked
        have links := Nat.mul_le_mul_right velocidades.size (Nat.succ_le_of_lt linked)
        omega
      · intro more
        by_contra none
        rw [Nat.eq_zero_of_not_pos none] at more
        omega
    simp only [fewer, ite_not]

/-- What is below was tried exactly when the descent lands there. -/
theorem lands_iff {tried : List (Punto D)} {first steps : Nat}
    (listed : ∀ punto ∈ tried, punto.velocidad.toNat < velocidades.size)
    (here : rank velocidades punto + steps ≡ first [MOD 256 * velocidades.size]) :
    (∀ configuration, debajo velocidades punto = some configuration →
        ∃ otro ∈ tried, (otro.enlaces, otro.velocidad) = configuration) ↔
      Lands velocidades tried first steps := by
  have bound := rank_lt inside
  have below := velocidad_baja inside
  rw [debajo_eq inside]
  constructor
  · intro found
    refine ⟨rank velocidades punto, here, ?_⟩
    by_cases low : rank velocidades punto ≤ velocidades.size
    · exact .inl low
    · rw [if_neg low] at found
      obtain ⟨otro, member, same⟩ := found _ rfl
      have lowered := rank_baja inside (by omega)
      have equal : rank velocidades otro = rank velocidades (baja velocidades punto) := by
        rw [Prod.mk.injEq] at same
        rw [rank, rank, same.1, same.2]
      exact .inr ⟨otro, member, by omega⟩
  · rintro ⟨place, there, lands⟩ configuration found
    have together : place ≡ rank velocidades punto [MOD 256 * velocidades.size] :=
      Nat.ModEq.add_right_cancel' steps (there.trans here.symm)
    split at found
    · cases found
    · rename_i high
      obtain rfl := Option.some.inj found
      rcases lands with low | ⟨otro, member, above⟩
      · have same := together.eq_of_lt_of_lt (by omega) bound
        omega
      · have within := rank_lt (listed otro member)
        have lowered := rank_baja inside (by omega)
        rcases Nat.lt_or_ge place (256 * velocidades.size) with less | most
        · have same := together.eq_of_lt_of_lt less bound
          exact ⟨otro, member, rank_inj (listed otro member) below (by omega)⟩
        · have whole : place = 256 * velocidades.size := by omega
          have zero := (Nat.modEq_zero_iff_dvd.mpr (whole ▸ dvd_refl _)).symm.trans together
          have same := zero.eq_of_lt_of_lt (by omega) bound
          omega

end

end Simvoip.Search
