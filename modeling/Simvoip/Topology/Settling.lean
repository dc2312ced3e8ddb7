import Simvoip.Topology.CambiaEnlace

namespace Simvoip.Enlaces

open Simvoip.Semantics

variable {n : UInt8} {metricas : Metricas} {sede : Sede} {fuel : Nat}

/-! # What the chain of changes settles on

The first invocation gives interface 2 the lowest metric of all that it sets, and
every later one finds the metrics as it leaves them.
-/

/-- Up to 254 trunks an invocation ends after one turn for each of them. -/
theorem cambiaEnlace_eq (enlaces : Enlaces) (small : enlaces.programada.interfaz.toNat < 255)
    (enough : enlaces.programada.interfaz.toNat < fuel) :
    cambiaEnlace fuel enlaces = some {
      instante := enlaces.instante + enlaces.programada.salto
      programada := enlaces.programada
      metricas := asignadas enlaces.programada.interfaz enlaces.metricas } := by
  generalize count : enlaces.programada.interfaz = n at small enough
  obtain ⟨spare, rfl⟩ := Nat.exists_eq_add_of_lt enough
  have last : Turned n enlaces.metricas n.toNat _ := Turned.run small (Nat.le_refl n.toNat)
  have ended : loop (fun bucle => bucle.j ≤ n) (vuelta n) (n.toNat + spare + 1)
      { j := 1, metrica := n, metricas := enlaces.metricas } =
        some ((vuelta n)^[n.toNat] { j := 1, metrica := n, metricas := enlaces.metricas }) := by
    rw [show n.toNat + spare + 1 = spare + 1 + n.toNat by omega, loop_turns, loop_done]
    · rw [UInt8.le_iff_toNat_le, last.counter]
      omega
    · intro turn inside
      have now : Turned n enlaces.metricas turn _ := Turned.run small (Nat.le_of_lt inside)
      rw [UInt8.le_iff_toNat_le, now.counter]
      omega
  have metrics := last.metrics
  simp only [cambiaEnlace, count, ended, Option.map_some]
  rw [metrics, ← count]
  rfl

theorem cadena_eq (salto veces : Nat) (small : n.toNat < 255) (enough : n.toNat < fuel) :
    (inicio salto n metricas).cadena fuel (veces + 1) = some {
      instante := (veces + 1) * salto
      programada := { salto, interfaz := n }
      metricas := asignadas n metricas } := by
  induction veces with
  | zero =>
      rw [cadena, cadena, Option.bind_some, cambiaEnlace_eq _ small enough]
      simp [inicio]
  | succ veces ih =>
      rw [cadena, ih, Option.bind_some, cambiaEnlace_eq _ small enough]
      simp only [asignadas_asignadas, ← Nat.succ_mul]

theorem instante_of_cadena {salto veces : Nat} {despues : Enlaces}
    (run : (inicio salto n metricas).cadena fuel veces = some despues) :
    despues.instante = veces * salto ∧ despues.programada = { salto, interfaz := n } := by
  induction veces generalizing despues with
  | zero =>
      cases run
      exact ⟨(Nat.zero_mul salto).symm, rfl⟩
  | succ veces ih =>
      obtain ⟨antes, before, last⟩ := Option.bind_eq_some_iff.mp run
      obtain ⟨instante, programada⟩ := ih before
      obtain ⟨bucle, _, rfl⟩ := Option.map_eq_some_iff.mp last
      simp only [instante, programada, Nat.succ_mul, and_self]

/-- With 255 trunks the first invocation does not end, and there is no second. -/
theorem cadena_never {salto veces : Nat} (largest : n.toNat = 255) :
    (inicio salto n metricas).cadena fuel (veces + 1) = none := by
  induction veces with
  | zero => exact cambiaEnlace_never largest
  | succ veces ih =>
      rw [cadena, ih]
      rfl

/-- Of the interfaces that an invocation sets, the second has the lowest metric. -/
theorem asignadas_two_lt {i : Nat} (several : 2 ≤ n.toNat) (first : 1 ≤ i) (last : i ≤ n.toNat)
    (other : i ≠ 2) : asignadas n metricas sede 2 < asignadas n metricas sede i := by
  have bounded := n.toNat_lt
  have second : asignadas n metricas sede 2 = 0 := if_pos ⟨by omega, several⟩
  have given : asignadas n metricas sede i = asignada n i := if_pos ⟨first, last⟩
  rw [second, given, UInt16.lt_iff_toNat_lt, asignada]
  split
  · rw [UInt8.toNat_toUInt16]
    exact Nat.lt_of_lt_of_le Nat.zero_lt_two several
  · rw [UInt16.toNat_ofNat']
    show 0 < (i - 2) % 65536
    omega

/-- However long the chain, with any number of trunks but 255 all its invocations end,
leave what the first one left, and prefer interface 2, and after so many of them the
next is due after as many intervals; with 255 none ends. -/
theorem cadena_settles (salto : Nat) (n : UInt8) (metricas : Metricas) (veces : Nat) :
    ((∃ fuel, ((inicio salto n metricas).cadena fuel (veces + 1)).isSome) ↔ n.toNat ≠ 255) ∧
      ∀ fuel despues, (inicio salto n metricas).cadena fuel (veces + 1) = some despues →
        despues.instante = (veces + 1) * salto ∧ despues.metricas = asignadas n metricas ∧
          (2 ≤ n.toNat → ∀ sede i, 1 ≤ i → i ≤ n.toNat → i ≠ 2 →
            despues.metricas sede 2 < despues.metricas sede i) := by
  have bounded := n.toNat_lt
  constructor
  · constructor
    · intro ends largest
      obtain ⟨fuel, ended⟩ := ends
      rw [cadena_never largest] at ended
      cases ended
    · intro smaller
      exact ⟨n.toNat + 1, by rw [cadena_eq salto veces (by omega) (Nat.lt_succ_self _)]; rfl⟩
  · intro fuel despues ended
    have small : n.toNat < 255 := by
      by_contra large
      rw [cadena_never (by omega)] at ended
      cases ended
    have metrics := (metricas_of_cadena small ended).2
    refine ⟨(instante_of_cadena ended).1, metrics, ?_⟩
    intro several sede i first last other
    rw [metrics]
    exact asignadas_two_lt several first last other

end Simvoip.Enlaces
