import Simvoip.Main.Progress

namespace Simvoip.Search

open Simvoip.Data Simvoip.Semantics

variable {D : Type} [Double D] {objetivo : D} {s t : Search D} {x : UInt32}
  {velocidades : StdMap UInt8 UInt64} {k w : Nat}

/-! # What the distribution leaves

It takes `x` for bits per second, so any speed that could carry `x` megabits in
255 links leaves nothing of it, without a link.
-/

/-- The loop that distributes `x`, by itself. -/
def distribuye (s : Search D) (_ : Unit) : Option (Search D) :=
  match s.place with
  | .reparto x => s.reparto x
  | _ => none

theorem distribuye_some (taken : s.distribuye () = some t) :
    ∃ x, s.place = .reparto x ∧ s.reparto x = some t := by
  unfold distribuye at taken
  split at taken
  · rename_i x place
    exact ⟨x, place, taken⟩
  · cases taken

/-- The turns of the loop are steps of the search. -/
theorem step_of_distribuye (simular : Punto D → D → Punto D) (objetivo qos : D)
    (taken : s.distribuye () = some t) : s.step simular objetivo qos = some t := by
  obtain ⟨x, place, turn⟩ := distribuye_some taken
  rw [step, place]
  exact turn

/-- The configuration carries `x` megabits per second, and none with fewer links or
with as many and a smaller speed index does. -/
structure Cheapest (velocidades : StdMap UInt8 UInt64) (x : UInt32) (punto : Punto D) : Prop where
  carries : x.toNat * 1000000 ≤ bitRate velocidades punto
  links : ∀ enlaces velocidad : UInt8, velocidad ∈ velocidades → enlaces < punto.enlaces →
    enlaces.toNat * tasa velocidades velocidad < x.toNat * 1000000
  speed : ∀ velocidad ∈ velocidades, velocidad < punto.velocidad →
    punto.enlaces.toNat * tasa velocidades velocidad < x.toNat * 1000000

/-- The loop ends, without a division by zero, and leaves the cheapest configuration. -/
def Distributed (x : UInt32) (s : Search D) : Prop :=
  ∃ turns t, run distribuye s (List.replicate turns ()) = some t ∧ t.place = .faseI ∧
    Cheapest s.velocidades x t.resultado

/-- A configuration without links has been tried at all speeds up to its own, and
none of them is faster than `x`, its own perhaps excepted. -/
structure Linkless (velocidades : StdMap UInt8 UInt64) (x : UInt32) (s : Search D) : Prop where
  table : s.velocidades = velocidades
  place : s.place = .reparto x ∨ s.place = .faseI
  none : s.resultado.enlaces = 0
  inside : s.resultado.velocidad ∈ velocidades
  slower : ∀ velocidad < s.resultado.velocidad, tasa velocidades velocidad ≤ x.toNat

/-- Without a link something remains at the speeds that are within `x`. -/
theorem remains_zero [ExactTest D] (none : s.resultado.enlaces = 0)
    (positive : 0 < tasa s.velocidades s.resultado.velocidad) :
    s.Remains x ↔ tasa s.velocidades s.resultado.velocidad ≤ x.toNat := by
  rw [remains_iff, Cabe, none, UInt8.toNat_zero, Nat.zero_mul, Nat.le_zero, Nat.div_eq_zero_iff]
  omega

section

variable [ExactTest D] (tabla : Tabla velocidades k) (fast : x.toNat < fastest velocidades)

include tabla fast

theorem Linkless.step (linkless : Linkless velocidades x s)
    (taken : s.distribuye () = some t) : Linkless velocidades x t ∧
      (t.place = .faseI ∨ t.resultado.velocidad.toNat = s.resultado.velocidad.toNat + 1) := by
  obtain ⟨rfl, head, none, inside, slower⟩ := linkless
  obtain ⟨y, place, turn⟩ := distribuye_some taken
  obtain rfl : x = y := by simpa [place, eq_comm] using head
  have index := (tabla.keys _).mp inside
  have remaining := remains_zero (x := x) none (tabla.positive _ index)
  rcases reparto_cases tabla index turn with ⟨remains, last, rfl⟩ | ⟨remains, more, rfl⟩ |
    ⟨_, rfl⟩
  · -- the last speed of the table is faster than `x`
    have final : s.resultado.velocidad = (lastIndex s.velocidades).toUInt8 := by
      rw [← UInt8.toNat_inj, last, UInt64.toNat_toUInt8, tabla.lastIndex]
      have small := tabla.small
      omega
    have within := remaining.mp remains
    rw [final] at within
    exact absurd fast (Nat.not_lt.mpr within)
  · have small := tabla.small
    have succ : (s.resultado.velocidad + 1).toNat = s.resultado.velocidad.toNat + 1 := by
      rw [UInt8.toNat_add, UInt8.toNat_one]
      omega
    refine ⟨⟨rfl, head, none, (tabla.keys _).mpr ?_, fun velocidad before => ?_⟩, .inr succ⟩
    · rw [succ]
      omega
    · rw [UInt8.lt_iff_toNat_lt, succ] at before
      rcases Nat.lt_succ_iff_lt_or_eq.mp before with earlier | own
      · exact slower velocidad (UInt8.lt_iff_toNat_lt.mpr earlier)
      · rw [UInt8.toNat_inj.mp own]
        exact remaining.mp remains
  · exact ⟨⟨rfl, .inr rfl, none, inside, slower⟩, .inl rfl⟩

/-- Turn by turn the loop goes through the speeds, and ends. -/
theorem Linkless.ends (linkless : Linkless velocidades x s) (place : s.place = .reparto x) :
    ∃ turns t, run distribuye s (List.replicate turns ()) = some t ∧ t.place = .faseI := by
  induction left : k - s.resultado.velocidad.toNat generalizing s with
  | zero =>
      have index := (tabla.keys _).mp linkless.inside
      omega
  | succ left ih =>
      have index := (tabla.keys _).mp linkless.inside
      have positive := tabla.positive _ index
      rw [← linkless.table] at positive
      have divides : (s.velocidades.index s.resultado.velocidad 0).1 ≠ 0 :=
        fun zero => positive.ne' (congrArg UInt64.toNat zero)
      obtain ⟨t, turn⟩ := exists_reparto (x := x) divides
      have taken : s.distribuye () = some t := by
        rw [distribuye, place]
        exact turn
      have once : run distribuye s (List.replicate 1 ()) = some t := by
        simp only [List.replicate_one, Semantics.run, taken]
      obtain ⟨after, ended | further⟩ := linkless.step tabla fast taken
      · exact ⟨1, t, once, ended⟩
      · rcases after.place with head | ended
        · obtain ⟨turns, last, completed, ended⟩ := ih after head (by omega)
          refine ⟨turns + 1, last, ?_, ended⟩
          simpa only [List.replicate_succ, Semantics.run, taken] using completed
        · exact ⟨1, t, once, ended⟩

theorem Linkless.run (linkless : Linkless velocidades x s) {turns : List Unit}
    (completed : Semantics.run distribuye s turns = some t) : Linkless velocidades x t :=
  run_invariant (fun linkless taken => (linkless.step tabla fast taken).1) linkless completed

end

/-- On every table of growing speeds, and for every `x` that 255 links can carry, the
loop ends without a link. -/
theorem distribution_ends [ExactTest D] (tabla : Tabla s.velocidades k) (place : s.place = .reparto x)
    (enlaces : s.resultado.enlaces = 0) (velocidad : s.resultado.velocidad = 0)
    (fast : x.toNat < fastest s.velocidades) :
    (∃ turns t, run distribuye s (List.replicate turns ()) = some t ∧ t.place = .faseI) ∧
      ∀ turns t, run distribuye s (List.replicate turns ()) = some t → t.resultado.enlaces = 0 := by
  have linkless : Linkless s.velocidades x s := by
    refine ⟨rfl, .inl place, enlaces, ?_, ?_⟩
    · rw [velocidad]
      exact (tabla.keys 0).mpr tabla.nonempty
    · rw [velocidad]
      intro other below
      exact absurd below (UInt8.not_lt.mpr UInt8.zero_le)
  exact ⟨linkless.ends tabla fast place,
    fun turns t completed => (linkless.run tabla fast completed).none⟩

/-- Whatever the table and the prediction, as long as some configuration carries it,
the loop does not leave the cheapest one. -/
theorem never_distributed [ExactTest D] (x : UInt32) (s : Search D) (k : Nat)
    (tabla : Tabla s.velocidades k) (creciente : Creciente s.velocidades)
    (place : s.place = .reparto x) (enlaces : s.resultado.enlaces = 0)
    (velocidad : s.resultado.velocidad = 0) (positive : 1 ≤ x)
    (carried : ∃ punto : Punto D, punto.velocidad ∈ s.velocidades ∧
      x.toNat * 1000000 ≤ bitRate s.velocidades punto) : ¬ Distributed x s := by
  have least : 1 ≤ x.toNat := UInt32.le_iff_toNat_le.mp positive
  obtain ⟨punto, member, enough⟩ := carried
  have fast : x.toNat < fastest s.velocidades := by
    have links := punto.enlaces.toNat_lt
    have most : bitRate s.velocidades punto ≤ 255 * fastest s.velocidades :=
      Nat.mul_le_mul (by omega) (creciente.le_fastest tabla member)
    omega
  rintro ⟨turns, t, completed, _, cheapest⟩
  have none := (distribution_ends tabla place enlaces velocidad fast).2 turns t completed
  have carries := cheapest.carries
  rw [bitRate, none, UInt8.toNat_zero, Nat.zero_mul] at carries
  omega

/-- A megabit per second is predicted, which one link carries. -/
def oneMegabit : Search ℚ where
  place := .reparto 1
  velocidades := oneSpeed
  anterior := { enlaces := 3, velocidad := 0, qos := 1 / 2 }
  resultado := { enlaces := 0, velocidad := 0, qos := 1 / 2 }
  faseI := [{ enlaces := 3, velocidad := 0, qos := 1 / 2 }]
  faseII := []

theorem distribution_fails : ¬ Distributed 1 oneMegabit := by
  rintro ⟨turns, t, completed, _, cheapest⟩
  have tabla : Tabla oneMegabit.velocidades 1 := tabla_insert (by decide)
  have none := (distribution_ends tabla rfl rfl rfl (by decide)).2 turns t completed
  have carries := cheapest.carries
  rw [bitRate, none, UInt8.toNat_zero, Nat.zero_mul] at carries
  exact absurd carries (by decide)

/-- Six links would carry six megabits per second. -/
theorem never_distributed_six : ¬ Distributed 6 { oneMegabit with place := .reparto 6 } :=
  never_distributed 6 _ 1 (tabla_insert (by decide)) (creciente_insert _) rfl rfl rfl
    (by decide) ⟨{ enlaces := 6, velocidad := 0, qos := 0 }, by decide, by decide⟩

end Simvoip.Search
