import Simvoip.Semantics.Loop
import Simvoip.Topology

namespace Simvoip

open Simvoip.Semantics

/-! # The change of trunk

`cambiaEnlace` sets the metrics of the interfaces `1` to `interfaz` of both
routers, where the links to the phones were assigned before the trunks.
-/

/-- The metric of every interface of the two routers. -/
abbrev Metricas := Sede → Nat → UInt16

/-- `Ipv4::SetMetric`, at a router. -/
def Metricas.set (metricas : Metricas) (sede : Sede) (interfaz : Nat) (metrica : UInt16) :
    Metricas :=
  Function.update metricas sede (Function.update (metricas sede) interfaz metrica)

/-- The arguments of an invocation, apart from the two routers. -/
structure Llamada where
  salto : Nat
  interfaz : UInt8

/-- The local variables of `cambiaEnlace`. -/
structure Bucle where
  j : UInt8
  metrica : UInt8
  metricas : Metricas

/-- The metrics between invocations, and the invocation that is scheduled. -/
structure Enlaces where
  instante : Nat
  programada : Llamada
  metricas : Metricas

namespace Enlaces

/-- A turn of the loop, with its `j++`. -/
def vuelta (interfaz : UInt8) (bucle : Bucle) : Bucle where
  j := bucle.j + 1
  metrica := if interfaz ≤ bucle.metrica + 1 then 0 else bucle.metrica + 1
  metricas := (bucle.metricas.set .uno bucle.j.toNat bucle.metrica.toUInt16).set .dos
    bucle.j.toNat bucle.metrica.toUInt16

/-- There is no result when the loop does not end within the fuel. -/
def cambiaEnlace (fuel : Nat) (enlaces : Enlaces) : Option Enlaces :=
  let llamada := enlaces.programada
  let inicio : Bucle :=
    { j := 1, metrica := llamada.interfaz, metricas := enlaces.metricas }
  (loop (fun bucle => bucle.j ≤ llamada.interfaz) (vuelta llamada.interfaz) fuel inicio).map
    fun bucle => {
      instante := enlaces.instante + llamada.salto
      programada := { salto := llamada.salto, interfaz := llamada.interfaz }
      metricas := bucle.metricas }

/-- What `simular` begins with: the first invocation is a direct call. -/
def inicio (salto : Nat) (enlaces : UInt8) (metricas : Metricas) : Enlaces where
  instante := 0
  programada := { salto, interfaz := enlaces }
  metricas := metricas

/-- The state after so many invocations, each of them scheduled by the one before. -/
def cadena (fuel : Nat) (inicial : Enlaces) : Nat → Option Enlaces
  | 0 => some inicial
  | veces + 1 => (cadena fuel inicial veces).bind (cambiaEnlace fuel)

end Enlaces

/-- The devices of a router in the order in which they get their addresses. -/
def routerDevices (telef enlaces : Nat) (sede : Sede) : List NetDevice :=
  (List.range telef).map (.router sede) ++ (List.range enlaces).map (.troncal · sede)

/-- The number of the interface of a trunk, where interface zero is the loopback. -/
def trunkInterface (telef enlaces : Nat) (sede : Sede) (enlace : Nat) : Nat :=
  (routerDevices telef enlaces sede).idxOf (.troncal enlace sede) + 1

theorem trunkInterface_eq {telef enlaces enlace : Nat} {sede : Sede} (inside : enlace < enlaces) :
    trunkInterface telef enlaces sede enlace = telef + enlace + 1 := by
  have phones : NetDevice.troncal enlace sede ∉ (List.range telef).map (.router sede) := by
    simp
  have distinct : ((List.range enlaces).map (NetDevice.troncal · sede)).Nodup :=
    List.Nodup.map (fun _ _ same => (NetDevice.troncal.inj same).1) List.nodup_range
  have index := distinct.idxOf_getElem enlace (by simpa using inside)
  simp only [List.getElem_map, List.getElem_range] at index
  rw [trunkInterface, routerDevices, List.idxOf_append_of_notMem phones, List.length_map,
    List.length_range, index]

/-- A router of the network has its interfaces in this order. -/
theorem Sizes.interfaces_router (sizes : Sizes) (sede : Sede) :
    (sizes.interfaces (.router sede)).map (·.device) =
      routerDevices (sizes.telef sede) sizes.enlaces sede := by
  have named : ∀ base length devices,
      (assign base length devices).map (·.device) = devices := by
    intro base length devices
    refine List.ext_getElem (by simp [assign]) ?_
    intro index inside inside'
    simp [assign]
  have selected : (sizes.interfaces (.router sede)).map (·.device) =
      (sizes.assigned.map (·.device)).filter (·.node = .router sede) := by
    rw [interfaces, List.filter_map]
    rfl
  have trunks : sizes.rDevices.filter (·.node = .router sede) =
      (List.range sizes.enlaces).map (.troncal · sede) := by
    rw [rDevices, List.filter_flatMap, List.map_eq_flatMap]
    cases sede <;> rfl
  rw [selected, assigned, List.map_append, List.map_append, named, named, named,
    List.filter_append, List.filter_append, trunks]
  cases sede with
  | uno =>
      simp [devices, devicesRouter, devicesTelefonos, routerDevices, NetDevice.node,
        List.filter_map, Function.comp_def]
  | dos =>
      simp [devices, devicesRouter, devicesTelefonos, routerDevices, NetDevice.node,
        List.filter_map, Function.comp_def]

/-- Among the trunk interfaces of a router this one has the strictly lowest metric. -/
def Prefers (telef enlaces : Nat) (metricas : Metricas) (sede : Sede) (enlace : Nat) : Prop :=
  ∀ otro < enlaces, otro ≠ enlace →
    metricas sede (trunkInterface telef enlaces sede enlace) <
      metricas sede (trunkInterface telef enlaces sede otro)

/-- Every invocation ends; in as many invocations as there are trunks each of them
is preferred once, by both routers at the same time; and no other interface has
its metric changed. -/
structure Rotates (telef : Sede → Nat) (salto : Nat) (n : UInt8) (metricas : Metricas) : Prop where
  ends : ∀ veces, ∃ fuel, ((Enlaces.inicio salto n metricas).cadena fuel veces).isSome
  turns : ∀ veces, ∀ enlace < n.toNat, ∃! vez, veces < vez ∧ vez ≤ veces + n.toNat ∧
    ∃ fuel despues, (Enlaces.inicio salto n metricas).cadena fuel vez = some despues ∧
      Prefers (telef .uno) n.toNat despues.metricas .uno enlace
  together : ∀ veces fuel despues,
    (Enlaces.inicio salto n metricas).cadena fuel (veces + 1) = some despues →
      ∀ enlace < n.toNat, Prefers (telef .uno) n.toNat despues.metricas .uno enlace ↔
        Prefers (telef .dos) n.toNat despues.metricas .dos enlace
  others : ∀ veces fuel despues,
    (Enlaces.inicio salto n metricas).cadena fuel veces = some despues →
      ∀ sede interfaz, (∀ enlace < n.toNat, interfaz ≠ trunkInterface (telef sede) n.toNat sede enlace) →
        despues.metricas sede interfaz = metricas sede interfaz

namespace Enlaces

variable {n : UInt8} {turns : Nat} {inicial : Metricas} {bucle : Bucle}

/-- What the loop gives to interface `i`: the first keeps the number of trunks. -/
def asignada (n : UInt8) (i : Nat) : UInt16 :=
  if i = 1 then n.toUInt16 else UInt16.ofNat (i - 2)

/-- The state of the loop after some turns, when the counter cannot wrap. -/
structure Turned (n : UInt8) (inicial : Metricas) (turns : Nat) (bucle : Bucle) : Prop where
  counter : bucle.j.toNat = turns + 1
  metric : bucle.metrica.toNat = if turns = 0 then n.toNat else turns - 1
  metrics : bucle.metricas = fun sede i =>
    if 1 ≤ i ∧ i ≤ turns then asignada n i else inicial sede i

/-- A turn sets the metric of one interface, at both routers. -/
theorem vuelta_metricas (bucle : Bucle) (sede : Sede) (i : Nat) :
    (vuelta n bucle).metricas sede i =
      if i = bucle.j.toNat then bucle.metrica.toUInt16 else bucle.metricas sede i := by
  cases sede with
  | uno => simp [vuelta, Metricas.set, Function.update_apply]
  | dos => simp [vuelta, Metricas.set, Function.update_apply]

theorem Turned.step (small : n.toNat < 255) (inside : turns < n.toNat)
    (before : Turned n inicial turns bucle) :
    Turned n inicial (turns + 1) (vuelta n bucle) := by
  have given : bucle.metrica.toUInt16 = asignada n (turns + 1) := by
    apply UInt16.toNat_inj.mp
    rw [UInt8.toNat_toUInt16, before.metric, asignada]
    cases turns with
    | zero => simp
    | succ turns => simp; omega
  constructor
  · rw [vuelta, UInt8.toNat_add, before.counter]
    simp; omega
  · have moved : (bucle.metrica + 1).toNat = if turns = 0 then n.toNat + 1 else turns := by
      rw [UInt8.toNat_add, before.metric]
      simp
      split <;> omega
    simp only [vuelta, UInt8.le_iff_toNat_le, Nat.succ_ne_zero, if_false, Nat.add_sub_cancel,
      moved, apply_ite UInt8.toNat]
    cases turns with
    | zero =>
        rw [if_pos rfl, if_pos (Nat.le_succ _)]
        rfl
    | succ turns => rw [if_neg (Nat.succ_ne_zero turns), if_neg (by omega)]
  · funext sede i
    rw [vuelta_metricas, before.counter, given, before.metrics]
    by_cases here : i = turns + 1
    · rw [if_pos here, if_pos (by omega), here]
    · have same : (1 ≤ i ∧ i ≤ turns + 1) ↔ (1 ≤ i ∧ i ≤ turns) := by omega
      simp only [here, same, if_false]

theorem Turned.run (small : n.toNat < 255) (inside : turns ≤ n.toNat) :
    Turned n inicial turns
      ((vuelta n)^[turns] { j := 1, metrica := n, metricas := inicial }) := by
  induction turns with
  | zero =>
      constructor
      · rfl
      · rfl
      · funext sede i
        rw [if_neg (by omega)]
        rfl
  | succ turns ih =>
      rw [Function.iterate_succ_apply']
      exact (ih (by omega)).step small (by omega)

/-- The metrics that the loop leaves. -/
def asignadas (n : UInt8) (inicial : Metricas) : Metricas := fun sede i =>
  if 1 ≤ i ∧ i ≤ n.toNat then asignada n i else inicial sede i

theorem asignadas_asignadas : asignadas n (asignadas n inicial) = asignadas n inicial := by
  funext sede i
  simp only [asignadas]
  split
  · rfl
  · rfl

/-- Below the largest 8-bit number the counter of the loop exceeds the bound after
as many turns as there are trunks. -/
theorem loop_asignadas (small : n.toNat < 255) :
    ∃ fuel bucle, loop (fun bucle => bucle.j ≤ n) (vuelta n) fuel
        { j := 1, metrica := n, metricas := inicial } = some bucle ∧
      bucle.metricas = asignadas n inicial := by
  have last : Turned n inicial n.toNat _ := Turned.run small (Nat.le_refl n.toNat)
  refine ⟨1 + n.toNat, _, ?_, last.metrics⟩
  rw [loop_turns, loop_done]
  · rw [UInt8.le_iff_toNat_le, last.counter]
    omega
  · intro turn inside
    have now : Turned n inicial turn _ := Turned.run small (Nat.le_of_lt inside)
    rw [UInt8.le_iff_toNat_le, now.counter]
    omega

theorem cambiaEnlace_metricas {fuel : Nat} {enlaces despues : Enlaces}
    (small : enlaces.programada.interfaz.toNat < 255)
    (ended : cambiaEnlace fuel enlaces = some despues) :
    despues.programada = enlaces.programada ∧
      despues.metricas = asignadas enlaces.programada.interfaz enlaces.metricas := by
  obtain ⟨bucle, result, rfl⟩ := Option.map_eq_some_iff.mp ended
  obtain ⟨enough, bucle', result', metrics⟩ := loop_asignadas small
  rw [loop_unique result result']
  exact ⟨rfl, metrics⟩

/-- Nothing that an invocation leaves tells the next one which trunk is in use. -/
theorem metricas_of_cadena {salto fuel veces : Nat} {despues : Enlaces} (small : n.toNat < 255)
    (run : (inicio salto n inicial).cadena fuel (veces + 1) = some despues) :
    despues.programada = { salto, interfaz := n } ∧
      despues.metricas = asignadas n inicial := by
  induction veces generalizing despues with
  | zero => exact cambiaEnlace_metricas small run
  | succ veces ih =>
      obtain ⟨antes, before, last⟩ := Option.bind_eq_some_iff.mp run
      obtain ⟨programada, metricas⟩ := ih before
      have after := cambiaEnlace_metricas (by rwa [programada]) last
      rw [programada, metricas, asignadas_asignadas] at after
      exact after

/-- With the largest 8-bit number the counter wraps before it can exceed the bound. -/
theorem cambiaEnlace_never {fuel : Nat} {enlaces : Enlaces}
    (largest : enlaces.programada.interfaz.toNat = 255) : cambiaEnlace fuel enlaces = none := by
  have tested : ∀ bucle : Bucle, bucle.j ≤ enlaces.programada.interfaz := by
    intro bucle
    rw [UInt8.le_iff_toNat_le, largest]
    exact Nat.le_of_lt_succ bucle.j.toNat_lt
  refine Option.map_eq_none_iff.mpr (loop_never (fun _ => True) ?_ ?_ trivial fuel)
  · intro bucle _
    exact tested bucle
  · intro _ _
    trivial

/-- The first interface of a router leads to a phone, and its metric is the first
that an invocation sets. -/
theorem phone_metric {telef salto fuel veces : Nat} {despues : Enlaces} (sede : Sede)
    (phones : 1 ≤ telef) (trunks : 1 ≤ n.toNat) (small : n.toNat < 255)
    (run : (inicio salto n inicial).cadena fuel (veces + 1) = some despues) :
    (∀ enlace < n.toNat, 1 ≠ trunkInterface telef n.toNat sede enlace) ∧
      despues.metricas sede 1 = n.toUInt16 := by
  constructor
  · intro enlace inside
    rw [trunkInterface_eq inside]
    omega
  · rw [(metricas_of_cadena small run).2]
    exact if_pos ⟨Nat.le_refl 1, trunks⟩

end Enlaces

/-- Every invocation leaves the same metrics, so that a trunk is preferred after
all of them or after none. -/
theorem never_rotates (telef : Sede → Nat) (salto : Nat) (n : UInt8) (metricas : Metricas)
    (several : 2 ≤ n) : ¬ Rotates telef salto n metricas := by
  intro rotates
  have trunks : 2 ≤ n.toNat := UInt8.le_iff_toNat_le.mp several
  by_cases small : n.toNat < 255
  · obtain ⟨vez, ⟨later, inside, fuel, despues, run, preferred⟩, only⟩ :=
      rotates.turns 0 0 (by omega)
    have again : ∀ otra, 0 < otra → otra ≤ 0 + n.toNat → otra = vez := by
      intro otra otraLater otraInside
      obtain ⟨fuel', ended⟩ := rotates.ends otra
      obtain ⟨despues', run'⟩ := Option.isSome_iff_exists.mp ended
      refine only otra ⟨otraLater, otraInside, fuel', despues', run', ?_⟩
      obtain ⟨veces, rfl⟩ := Nat.exists_eq_add_of_lt later
      obtain ⟨veces', rfl⟩ := Nat.exists_eq_add_of_lt otraLater
      rw [(Enlaces.metricas_of_cadena small run').2]
      rwa [(Enlaces.metricas_of_cadena small run).2] at preferred
    have first := again 1 (by omega) (by omega)
    have second := again 2 (by omega) (by omega)
    omega
  · obtain ⟨fuel, ended⟩ := rotates.ends 1
    have largest : n.toNat = 255 := by
      have := n.toNat_lt
      omega
    have never : (Enlaces.inicio salto n metricas).cadena fuel 1 = none :=
      Enlaces.cambiaEnlace_never largest
    rw [never] at ended
    cases ended

theorem never_rotates_three : ¬ Rotates (fun _ => 2) 100000 3 (fun _ _ => 1) :=
  never_rotates _ _ 3 _ (by decide)

/-- With one phone and two trunks, interface 1 is the link to the phone. -/
theorem rotates_fails : ¬ Rotates (fun _ => 1) 100000 2 (fun _ _ => 1) := by
  intro rotates
  let inicial := Enlaces.inicio 100000 2 (fun _ _ => 1)
  obtain ⟨despues, run⟩ : ∃ despues, inicial.cadena 4 1 = some despues := ⟨_, rfl⟩
  obtain ⟨phone, changed⟩ :=
    Enlaces.phone_metric .uno (Nat.le_refl 1) (by decide) (by decide) run
  have kept := rotates.others 1 4 despues run .uno 1 phone
  rw [changed] at kept
  cases kept

end Simvoip
