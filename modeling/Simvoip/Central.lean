import Simvoip.Data.EventQueue
import Simvoip.Observador

namespace Simvoip

open Simvoip.Data Simvoip.Net

/-! # The telephone exchange

Phones are known by number; a `voip *` is the index of the object in the heap
of phones, and `none` is the null pointer.
-/

/-- Everything the program schedules while phones are running. -/
inductive Action where
  | startApplication (phone : Nat)
  | stopApplication (phone : Nat)
  | llama (phone : Nat)
  | cuelga (phone : Nat)
  | descuelga (phone : Nat) (destino : Address) (duracion : Nat)
  | colgar (llamante : Nat)
deriving DecidableEq

structure Central where
  /-- Calls as assignments from the caller's number to the callee's. -/
  llamadas : StdMap Nat Nat
  telefonos : StdMap Nat Ipv4Address
  objetosVoip : StdMap Nat (Option Nat)
  tel1 : Nat
  tel2 : Nat

namespace Central

def new (tSede1 tSede2 : Nat) : Central where
  llamadas := ∅
  telefonos := ∅
  objetosVoip := ∅
  tel1 := tSede1
  tel2 := tSede2

/-- What `llamar` leaves behind: the components it updates, the address it
returns and the pointer it writes through `objeto_llamado`. -/
structure Reply where
  central : Central
  observador : Observador
  queue : EventQueue Action
  direccion : Ipv4Address
  objeto : Option Nat

def getNumLlamadas (central : Central) : Nat := central.llamadas.size

/-- `llamado` is the number drawn uniformly in `[0, tel1 + tel2)`. -/
def llamar (ns3 : Ns3) (central : Central) (observador : Observador) (queue : EventQueue Action)
    (llamante duracion llamado : Nat) : Reply :=
  if llamado ∈ central.llamadas then
    { central, observador, queue, direccion := 0, objeto := none }
  else
    let central := { central with llamadas := central.llamadas.emplace llamante llamado }
    let objeto := central.objetosVoip.index llamado none
    let direccion := central.telefonos.index llamado ns3.emptyAddress
    { central := { central with objetosVoip := objeto.2, telefonos := direccion.2 }
      observador := observador.actualizarNumLlamadas central.getNumLlamadas
      queue := queue.schedule duracion (.colgar llamante)
      direccion := direccion.1
      objeto := objeto.1 }

def colgar (central : Central) (llamante : Nat) : Central :=
  { central with llamadas := central.llamadas.erase llamante }

def registrar (central : Central) (llamante : Ipv4Address) (objeto : Nat) : Nat × Central :=
  let indice := central.telefonos.size
  (indice, { central with
    telefonos := central.telefonos.emplace central.telefonos.size llamante
    objetosVoip := central.objetosVoip.emplace central.objetosVoip.size (some objeto) })

def Callee (central : Central) (number : Nat) : Prop :=
  ∃ llamante, central.llamadas.lookup llamante = some number

instance (central : Central) (number : Nat) : Decidable (central.Callee number) :=
  decidable_of_iff
    (∃ llamante ∈ central.llamadas.keys, central.llamadas.lookup llamante = some number)
    ⟨fun ⟨llamante, _, found⟩ => ⟨llamante, found⟩, fun ⟨llamante, found⟩ =>
      ⟨llamante, Finmap.mem_keys.mpr (Finmap.mem_of_lookup_eq_some found), found⟩⟩

def Talking (central : Central) (number : Nat) : Prop :=
  number ∈ central.llamadas ∨ central.Callee number

instance (central : Central) (number : Nat) : Decidable (central.Talking number) :=
  inferInstanceAs (Decidable (_ ∨ _))

variable {ns3 : Ns3} {central : Central} {observador : Observador} {queue : EventQueue Action}
  {llamante duracion llamado : Nat}

theorem llamar_busy (busy : llamado ∈ central.llamadas) :
    central.llamar ns3 observador queue llamante duracion llamado =
      { central, observador, queue, direccion := 0, objeto := none } :=
  if_pos busy

theorem llamar_free (free : llamado ∉ central.llamadas) :
    central.llamar ns3 observador queue llamante duracion llamado =
      { central := { central with
          llamadas := central.llamadas.emplace llamante llamado
          objetosVoip := (central.objetosVoip.index llamado none).2
          telefonos := (central.telefonos.index llamado ns3.emptyAddress).2 }
        observador :=
          observador.actualizarNumLlamadas (central.llamadas.emplace llamante llamado).size
        queue := queue.schedule duracion (.colgar llamante)
        direccion := (central.telefonos.index llamado ns3.emptyAddress).1
        objeto := (central.objetosVoip.index llamado none).1 } :=
  if_neg free

end Central

end Simvoip
