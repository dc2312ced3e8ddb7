import Mathlib.Data.List.Basic
import Mathlib.Tactic.Common
import Simvoip.Net.Forwarding

namespace Simvoip

open Simvoip.Net

/-! # The network that `simular` builds

Two routers with parallel trunk links, and the phones of each site on links of
their own to the router of that site.
-/

inductive Sede where
  | uno
  | dos
deriving DecidableEq

inductive Node where
  | router (sede : Sede)
  | terminal (sede : Sede) (j : Nat)
deriving DecidableEq

def Node.sede : Node → Sede
  | .router sede => sede
  | .terminal sede _ => sede

/-- Each link has two devices: one at each router, or one at a phone and one at
the router of its site. -/
inductive NetDevice where
  | troncal (enlace : Nat) (sede : Sede)
  | telefono (sede : Sede) (j : Nat)
  | router (sede : Sede) (j : Nat)
deriving DecidableEq

namespace NetDevice

def node : NetDevice → Node
  | .troncal _ sede => .router sede
  | .telefono sede j => .terminal sede j
  | .router sede _ => .router sede

def peer : NetDevice → NetDevice
  | .troncal enlace .uno => .troncal enlace .dos
  | .troncal enlace .dos => .troncal enlace .uno
  | .telefono sede j => .router sede j
  | .router sede j => .telefono sede j

end NetDevice

/-- The numbers of phones of the sites and of trunk links. -/
structure Sizes where
  telef : Sede → Nat
  enlaces : Nat

/-- Numbers of phones and of trunk links whose addresses fit their subnets. -/
structure Dimensions extends Sizes where
  telef_pos : ∀ sede, 1 ≤ telef sede
  enlaces_pos : 1 ≤ enlaces
  telef_fits : ∀ sede, 2 * telef sede ≤ 65534
  enlaces_fits : 2 * enlaces ≤ 254

structure Interface where
  device : NetDevice
  address : Ipv4Address
  length : Nat
deriving DecidableEq

/-- `Ipv4AddressHelper::Assign` on the hosts of a network, from host 1 on. -/
def assign (base : Ipv4Address) (length : Nat) (devices : List NetDevice) : List Interface :=
  devices.mapIdx fun i device =>
    { device, address := base + BitVec.ofNat 32 (i + 1), length }

namespace Sizes

variable (sizes : Sizes)

def rDevices : List NetDevice :=
  (List.range sizes.enlaces).flatMap fun j => [.troncal j .uno, .troncal j .dos]

def devicesTelefonos (sede : Sede) : List NetDevice :=
  (List.range (sizes.telef sede)).map (.telefono sede)

def devicesRouter (sede : Sede) : List NetDevice :=
  (List.range (sizes.telef sede)).map (.router sede)

/-- The devices of a site in the order of their container, the router's first. -/
def devices (sede : Sede) : List NetDevice :=
  sizes.devicesRouter sede ++ sizes.devicesTelefonos sede

def terminales (sede : Sede) : List Node :=
  (List.range (sizes.telef sede)).map (.terminal sede) ++ [.router sede]

def assigned : List Interface :=
  assign 0x0A010000#32 16 (sizes.devices .uno) ++
    assign 0x0A020000#32 16 (sizes.devices .dos) ++
    assign 0x0A030000#32 24 sizes.rDevices

def interfaces (node : Node) : List Interface :=
  sizes.assigned.filter (·.device.node = node)

/-- Interface number zero is the loopback. -/
def interface? (node : Node) : Nat → Option Interface
  | 0 => none
  | index + 1 => (sizes.interfaces node)[index]?

/-- The calls of `SetDefaultRoute`, loop by loop.  The last loop is headed for the
second router, but takes the table of `R.Get(0)`. -/
def defaultRoutes : List (Node × Route) :=
  (sizes.terminales .uno).mapIdx (fun c node =>
      (node, .default (0x0A010000#32 + BitVec.ofNat 32 (c + 1)) 1)) ++
    (sizes.terminales .dos).mapIdx (fun c node =>
      (node, .default (0x0A020000#32 + BitVec.ofNat 32 (c + 1)) 1)) ++
    (List.range sizes.enlaces).map (fun c =>
      (.router .uno, .default (0x0A030000#32 + BitVec.ofNat 32 (c + 1)) (c + 1))) ++
    (List.range sizes.enlaces).map (fun c =>
      (.router .uno,
        .default (0x0A030000#32 + BitVec.ofNat 32 (c + 1 + sizes.enlaces)) (c + 1)))

def table (node : Node) : List Route :=
  (sizes.interfaces node).mapIdx (fun i interface =>
      .connected interface.address interface.length (i + 1)) ++
    (sizes.defaultRoutes.filter (·.1 = node)).map (·.2)

/-- On a point-to-point link a packet comes out at the other end, whatever the
gateway. -/
def net : Network Node Ipv4Address where
  Owns node address := ∃ interface ∈ sizes.interfaces node, interface.address = address
  Hop node address next := ∃ route, Route.Best (sizes.table node) address route ∧
    ∃ interface, sizes.interface? node route.outlet = some interface ∧
      next = interface.device.peer.node

def Connected : Prop :=
  ∀ (sede sede' : Sede) (j j' : Nat), j < sizes.telef sede → j' < sizes.telef sede' →
    (sede, j) ≠ (sede', j') → ∀ interface ∈ sizes.assigned,
      interface.device = .telefono sede' j' →
      Arrives sizes.net interface.address (.terminal sede' j') [] (.terminal sede j)

end Sizes

end Simvoip
