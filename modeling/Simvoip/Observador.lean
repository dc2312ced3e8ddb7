import Mathlib.Data.Rat.Defs
import Mathlib.Algebra.Order.Ring.Rat
import Simvoip.Data.StdMap
import Simvoip.Net.Address

namespace Simvoip

open Simvoip.Data Simvoip.Net

/-! # The observer

Instants are ticks of the simulation clock, and a tick is a microsecond.
Averages are kept in exact arithmetic.
-/

/-- `ns3::Average`, as far as this program reads it.  A missing mean is the
`NaN` that the calculator holds before its first sample. -/
structure Average where
  size : Nat
  maximum : ℚ
  mean : Option ℚ

namespace Average

def new : Average := { size := 0, maximum := 0, mean := none }

def update (average : Average) (sample : ℚ) : Average where
  size := average.size + 1
  maximum := max average.maximum sample
  mean :=
    if average.size + 1 = 1 then some sample
    else average.mean.map fun previous =>
      previous + (sample - previous) / ((average.size + 1 : Nat) : ℚ)

def reset (_ : Average) : Average := new

end Average

/-- `Time::GetMilliSeconds`: integer division, truncating towards zero. -/
def milliSeconds (time : Int) : Int := time.tdiv 1000

structure Paquete where
  uid : Nat
  tipo : Nat
  /-- Destination of the IPv4 header, which only an IPv4 frame has. -/
  destino : Ipv4Address
deriving DecidableEq

def ipv4Protocol : Nat := 0x21

def JITTER : Nat := 100
def RETARDO : Nat := 150
def PORCENTAJE : Nat := 1

structure Observador where
  array : StdMap Nat Nat
  arrayTiempoAnterior : StdMap Ipv4Address Int
  recibidos : Nat
  perdidos : Nat
  enviados : Nat
  jitter : Average
  retardo : Average
  acNumLlamadas : Average
  acumulaTiempo : Int
  tiempoInicial : Int

namespace Observador

def new : Observador where
  array := ∅
  arrayTiempoAnterior := ∅
  recibidos := 0
  perdidos := 0
  enviados := 0
  jitter := .new
  retardo := .new
  acNumLlamadas := .new
  acumulaTiempo := 0
  tiempoInicial := 0

def pktEnviado (o : Observador) (ahora : Nat) (paquete : Paquete) : Observador :=
  let o := if paquete.tipo = ipv4Protocol then
      { o with array := o.array.insert paquete.uid ahora }
    else o
  { o with enviados := o.enviados + 1 }

def pktRecibido (o : Observador) (ahora : Nat) (paquete : Paquete) : Observador :=
  if paquete.tipo = ipv4Protocol then
    match o.array.lookup paquete.uid with
    | none => o
    | some tiempoEnvio =>
        let transit : Int := ahora - tiempoEnvio
        let anterior := o.arrayTiempoAnterior.index paquete.destino 0
        { o with
          retardo := o.retardo.update (milliSeconds transit)
          -- a stored delay of zero is taken for "no packet yet"
          jitter := if anterior.1 = 0 then o.jitter
            else o.jitter.update (milliSeconds (transit - anterior.1))
          recibidos := o.recibidos + 1
          arrayTiempoAnterior := anterior.2.insert paquete.destino transit
          array := o.array.erase paquete.uid }
  else o

/-- What `GetQoS` comes to.  The integer division by the frames sent traps when there
are none, and a mean without samples makes a `NaN` of the sum. -/
inductive Score where
  | trap
  | nan
  | value (qos : ℚ)
deriving DecidableEq

/-- The quality of service, and the observer with its loss counter refreshed. -/
def getQoS (o : Observador) : Score × Observador :=
  let o := { o with perdidos := o.array.size }
  let score :=
    if o.enviados = 0 then .trap
    else
      let porcentaje : ℚ := ((o.perdidos / o.enviados * 100 : Nat) : ℚ)
      match o.jitter.mean, o.retardo.mean with
      | some jitter, some retardo =>
          .value (1 - (porcentaje / PORCENTAJE + jitter / JITTER + retardo / RETARDO) / 3)
      | _, _ => .nan
  (score, o)

def getJitter (o : Observador) : Option ℚ := o.jitter.mean

def getRetardo (o : Observador) : Option ℚ := o.retardo.mean

def reset (o : Observador) : Observador :=
  { o with jitter := o.jitter.reset, retardo := o.retardo.reset }

def actualizarNumLlamadas (o : Observador) (number : Nat) : Observador :=
  { o with acNumLlamadas := o.acNumLlamadas.update number }

def getMaxLlamadas (o : Observador) : ℚ := o.acNumLlamadas.maximum

def getMediaLlamadas (o : Observador) : Option ℚ := o.acNumLlamadas.mean

def empiezaTransmitir (o : Observador) (ahora : Nat) : Observador :=
  { o with tiempoInicial := ahora }

def terminaTransmitir (o : Observador) (ahora : Nat) : Observador :=
  { o with acumulaTiempo := o.acumulaTiempo + (ahora - o.tiempoInicial) }

/-- There is no value when the link was never busy. -/
def getOcupacion (o : Observador) (inicio final : Int) : Option ℚ :=
  if o.acumulaTiempo = 0 then none else some ((final - inicio : Int) / (o.acumulaTiempo : ℚ))

inductive Notice where
  | pktEnviado (ahora : Nat) (paquete : Paquete)
  | pktRecibido (ahora : Nat) (paquete : Paquete)
  | actualizarNumLlamadas (number : Nat)
  | empiezaTransmitir (ahora : Nat)
  | terminaTransmitir (ahora : Nat)
  | reset

def handle (o : Observador) : Notice → Observador
  | .pktEnviado ahora paquete => o.pktEnviado ahora paquete
  | .pktRecibido ahora paquete => o.pktRecibido ahora paquete
  | .actualizarNumLlamadas number => o.actualizarNumLlamadas number
  | .empiezaTransmitir ahora => o.empiezaTransmitir ahora
  | .terminaTransmitir ahora => o.terminaTransmitir ahora
  | .reset => o.reset

end Observador

end Simvoip
