import Simvoip.Central

namespace Simvoip

open Simvoip.Data Simvoip.Net

/-! # The phones

Every phone is a `voip` object in a heap, and all of them share one exchange,
one observer and the event queue of the simulator.  Random draws are inputs.
-/

def Action.phone : Action → Nat
  | .startApplication phone => phone
  | .stopApplication phone => phone
  | .llama phone => phone
  | .cuelga phone => phone
  | .descuelga phone _ _ => phone
  | .colgar llamante => llamante

structure Uniforme where
  min : ℚ
  max : ℚ
deriving DecidableEq

def MAXONVOIP : ℚ := 1 / 10
def MINONVOIP : ℚ := 2 / 10
def MAXOFFVOIP : ℚ := 8 / 10
def MINOFFVOIP : ℚ := 9 / 10

def port : Nat := 5006

/-- What an `OnOffHelper` passes on to the application it installs. -/
structure OnOffHelper where
  remote : Address
  rate : Nat
  packetSize : Nat
  onTime : Uniforme
  offTime : Uniforme
deriving DecidableEq

/-- An unset `EventId` is `none`; `appOnOff` is a pointer into the heap of
helpers, null when `none`. -/
structure Voip where
  ocupado : Bool
  tamPaquete : Nat
  proximallamada : Option Nat
  llamadaactual : Option Nat
  cuelga : Option Nat
  duracion : Nat
  IP : Ipv4Address
  tasa : Nat
  node : Nat
  appOnOff : Option Nat
  numeroNodo : Nat
  appc : List Nat
deriving Inhabited

/-- A call that `Llama` set up, with the events it scheduled for it. -/
structure Call where
  llamante : Nat
  llamado : Nat
  duracion : Nat
  instant : Nat
  event : Event Action
  colgar : Event Action
  descuelga : Event Action
deriving DecidableEq

/-- A sender that `Llama` or `Descuelga` installed, with the event it ran in
and the hang-up it scheduled. -/
structure Leg where
  phone : Nat
  node : Nat
  helper : Nat
  sender : OnOffHelper
  app : Nat
  start : Nat
  event : Event Action
  cuelga : Event Action
deriving DecidableEq

structure StopCall where
  app : Nat
  instant : Nat
  event : Event Action
deriving DecidableEq

structure DeleteCall where
  helper : Nat
  event : Event Action
deriving DecidableEq

structure Log where
  calls : List Call
  legs : List Leg
  stops : List StopCall
  deletes : List DeleteCall

/-- `helpers` and `apps` are the next free addresses of their heaps. -/
structure System where
  queue : EventQueue Action
  central : Central
  observador : Observador
  voips : Nat → Voip
  helpers : Nat
  apps : Nat
  log : Log

/-- What `simular` fixes before the phones start.  Addresses come from `Assign`,
which never hands out zero. -/
structure Scenario where
  ns3 : Ns3
  tel1 : Nat
  tel2 : Nat
  tamPkt : Nat
  address : Nat → Ipv4Address
  address_ne_zero : ∀ phone, address phone ≠ 0
  tasa : Nat → Nat
  node : Nat → Nat
  startTime : Nat → Nat
  stopTime : Nat → Nat

namespace Scenario

def phones (scenario : Scenario) : Nat := scenario.tel1 + scenario.tel2

end Scenario

structure Draws (scenario : Scenario) where
  entreLlamadas : Nat
  duracion : Nat
  llamado : Fin scenario.phones

namespace Voip

/-! The assignments that the methods make, one function for each group. -/

def dialling (voip : Voip) (duracion : Nat) : Voip :=
  { voip with ocupado := true, llamadaactual := voip.proximallamada, duracion }

def awaiting (voip : Voip) (uid : Nat) : Voip := { voip with proximallamada := some uid }

def sending (voip : Voip) (helper app : Nat) : Voip :=
  { voip with appOnOff := some helper, appc := [app] }

def hangingUp (voip : Voip) (uid : Nat) : Voip := { voip with cuelga := some uid }

def answering (voip : Voip) (uid : Nat) : Voip := { voip with llamadaactual := some uid }

def idle (voip : Voip) : Voip := { voip with ocupado := false }

def released (voip : Voip) : Voip := { voip with appOnOff := none }

/-- The packet size that `SetConstantRate` sets when it is given a rate alone. -/
def defaultPacketSize : Nat := 512

def emisor (voip : Voip) (remote : Address) (packetSize : Nat) : OnOffHelper where
  remote := remote
  rate := voip.tasa
  packetSize := packetSize
  onTime := { min := MINONVOIP, max := MAXONVOIP }
  offTime := { min := MINOFFVOIP, max := MAXOFFVOIP }

end Voip

namespace System

def updatePhone (s : System) (phone : Nat) (change : Voip → Voip) : System :=
  { s with voips := Function.update s.voips phone (change (s.voips phone)) }

def cancelaLlamada (s : System) (phone : Nat) : System :=
  { s with queue := s.queue.cancel (s.voips phone).proximallamada }

def programaLlamada (s : System) (phone tiempo : Nat) : System :=
  { s with queue := s.queue.schedule tiempo (.llama phone) }.updatePhone phone
    (·.awaiting s.queue.nextUid)

/-- The end that `Llama` and `Descuelga` share: a new helper, `Install`, `Start`
at the present instant, and a `Cuelga` in `m_duracion`. -/
def installSender (s : System) (phone : Nat) (event : Event Action) (sender : OnOffHelper) :
    System :=
  let voip := s.voips phone
  { s with
    queue := s.queue.schedule voip.duracion (.cuelga phone)
    helpers := s.helpers + 1
    apps := s.apps + 1
    log := { s.log with legs :=
      { phone, node := voip.node, helper := s.helpers, sender, app := s.apps
        start := s.queue.now, event
        cuelga := s.queue.scheduled voip.duracion (.cuelga phone) } :: s.log.legs }
    }.updatePhone phone (·.sending s.helpers s.apps)

/-- The success branch of `Llama`, after `Central::llamar` returned. -/
def establishCall (s : System) (phone : Nat) (event colgar : Event Action)
    (llamado objeto : Nat) (direccion : Ipv4Address) : System :=
  let voip := s.voips phone
  let descuelga : Action := .descuelga objeto (.ipv4 voip.IP) voip.duracion
  let s := { s with
    queue := s.queue.schedule 0 descuelga
    log := { s.log with calls :=
      { llamante := voip.numeroNodo, llamado, duracion := voip.duracion, instant := s.queue.now
        event, colgar, descuelga := s.queue.scheduled 0 descuelga } :: s.log.calls } }
  (s.installSender phone event
      (voip.emisor (.inetSocket direccion port) voip.tamPaquete)).updatePhone phone
    (·.hangingUp s.queue.nextUid)

def llama {scenario : Scenario} (s : System) (phone : Nat) (event : Event Action)
    (draws : Draws scenario) : System :=
  let s := s.updatePhone phone (·.dialling draws.duracion)
  let voip := s.voips phone
  let colgar := s.queue.scheduled voip.duracion (.colgar voip.numeroNodo)
  let reply := s.central.llamar scenario.ns3 s.observador s.queue
    voip.numeroNodo voip.duracion draws.llamado
  let s := { s with
    central := reply.central
    observador := reply.observador
    queue := reply.queue }
  match reply.objeto with
  | none => s.programaLlamada phone draws.entreLlamadas
  | some objeto =>
      if reply.direccion = 0 then s.programaLlamada phone draws.entreLlamadas
      else s.establishCall phone event colgar draws.llamado objeto reply.direccion

def cuelga (s : System) (phone : Nat) (event : Event Action) (tiempo : Nat) : System :=
  let voip := s.voips phone
  let s := { s with log := { s.log with
    stops := voip.appc.map (fun app => StopCall.mk app s.queue.now event) ++
      s.log.stops } }
  let s := s.updatePhone phone (·.idle)
  let s := s.programaLlamada phone tiempo
  let s := { s with log := { s.log with
    deletes := voip.appOnOff.toList.map (fun helper => DeleteCall.mk helper event) ++
      s.log.deletes } }
  s.updatePhone phone (·.released)

/-- The duration that comes with the call is only printed, and the packet size stays
as `SetConstantRate` sets it. -/
def descuelga (s : System) (phone : Nat) (event : Event Action) (destino : Address)
    (_duracion : Nat) : System :=
  let s := s.cancelaLlamada phone
  let sender := (s.voips phone).emisor destino Voip.defaultPacketSize
  (s.installSender phone event sender).updatePhone phone (·.answering s.queue.nextUid)

def startApplication (s : System) (phone tiempo : Nat) : System :=
  s.programaLlamada phone tiempo

/-- The whole body is commented out in the source. -/
def stopApplication (s : System) (_phone : Nat) : System := s

def execute {scenario : Scenario} (s : System) (event : Event Action)
    (draws : Draws scenario) : System :=
  match event.action with
  | .startApplication phone => s.startApplication phone draws.entreLlamadas
  | .stopApplication phone => s.stopApplication phone
  | .llama phone => s.llama phone event draws
  | .cuelga phone => s.cuelga phone event draws.entreLlamadas
  | .descuelga phone destino duracion => s.descuelga phone event destino duracion
  | .colgar llamante => { s with central := s.central.colgar llamante }

/-- `Simulator::Run`, one event at a time. -/
def step {scenario : Scenario} (s : System) (draws : Draws scenario) : Option System :=
  match s.queue.advance with
  | none => none
  | some (event, queue) => some ({ s with queue }.execute event draws)

/-- The constructor `voip::voip`, and the start and stop events that ns-3 makes
of `SetStartTime` and `SetStopTime`. -/
def newVoip (scenario : Scenario) (s : System) (phone : Nat) : System :=
  let registered := s.central.registrar (scenario.address phone) phone
  { s with
    central := registered.2
    queue := (s.queue.schedule (scenario.startTime phone) (.startApplication phone)).schedule
      (scenario.stopTime phone) (.stopApplication phone)
    voips := Function.update s.voips phone {
      ocupado := false
      tamPaquete := scenario.tamPkt
      proximallamada := none
      llamadaactual := none
      cuelga := none
      duracion := 0
      IP := scenario.address phone
      tasa := scenario.tasa phone
      node := scenario.node phone
      appOnOff := none
      numeroNodo := registered.1
      appc := [] } }

def constructed (scenario : Scenario) : Nat → System
  | 0 => {
      queue := .empty
      central := .new scenario.tel1 scenario.tel2
      observador := .new
      voips := default
      helpers := 0
      apps := 0
      log := { calls := [], legs := [], stops := [], deletes := [] } }
  | phone + 1 => newVoip scenario (constructed scenario phone) phone

def initial (scenario : Scenario) : System := constructed scenario scenario.phones

end System

/-- One phone at each site, with the addresses and the times of `simular`. -/
def twoPhones : Scenario where
  ns3 := { emptyAddress := 0x66666666#32 }
  tel1 := 1
  tel2 := 1
  tamPkt := 160
  address phone := if phone = 0 then 0x0A010001#32 else 0x0A020001#32
  address_ne_zero := by
    intro phone
    split <;> decide
  tasa _ := 64000
  node phone := if phone = 0 then 2 else 3
  startTime _ := 1000000
  stopTime _ := 10000000

instance twoPhones_neZero : NeZero 2 := ⟨by decide⟩

end Simvoip
