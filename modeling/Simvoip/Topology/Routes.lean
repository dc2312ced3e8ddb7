import Simvoip.Topology.Addresses
import Simvoip.Topology.CambiaEnlace

namespace Simvoip.Sizes

open Simvoip.Net

variable {sizes : Sizes} {node : Node} {sede : Sede}

/-! # Default routes

Both loops for the routers fill the table of the first one, and number their
interfaces as if the trunks came before the phones.
-/

/-- The gateway is the far end of the link that the route leaves through. -/
def Usable (sizes : Sizes) (node : Node) (route : Route) : Prop :=
  ∃ interface, sizes.interface? node route.outlet = some interface ∧
    ∃ far ∈ sizes.assigned, far.device = interface.device.peer ∧ route.gateway = some far.address

def AllUsable (sizes : Sizes) : Prop :=
  ∀ node route, (node, route) ∈ sizes.defaultRoutes → sizes.Usable node route

/-- The default routes of a node that leave through this device. -/
def routesThrough (sizes : Sizes) (node : Node) (device : NetDevice) : Nat :=
  sizes.defaultRoutes.countP fun entry =>
    entry.1 = node ∧ (sizes.interface? node entry.2.outlet).map (·.device) = some device

/-- The router has one default route over every trunk, and none to a phone. -/
structure CrossesTrunks (sizes : Sizes) (sede : Sede) : Prop where
  trunks : ∀ enlace < sizes.enlaces,
    sizes.routesThrough (.router sede) (.troncal enlace sede) = 1
  phones : ∀ j < sizes.telef sede, sizes.routesThrough (.router sede) (.router sede j) = 0

theorem device_router (sizes : Sizes) (sede : Sede) (index : Nat) :
    (sizes.interface? (.router sede) (index + 1)).map (·.device) =
      (routerDevices (sizes.telef sede) sizes.enlaces sede)[index]? := by
  rw [← interfaces_router, List.getElem?_map, interface?]

/-- The first interface of a router belongs to its link to the first phone. -/
theorem device_first (populated : 0 < sizes.telef sede) :
    (sizes.interface? (.router sede) 1).map (·.device) = some (.router sede 0) := by
  rw [device_router, routerDevices, List.getElem?_append_left (by simpa using populated)]
  simp [populated]

/-- The loops for the phones leave every node through its first interface. -/
theorem outlet_terminales {network : Ipv4Address} {entry : Node × Route} {nodes : List Node}
    (member : entry ∈ nodes.mapIdx fun c node =>
      (node, .default (network + BitVec.ofNat 32 (c + 1)) 1)) : entry.2.outlet = 1 := by
  obtain ⟨index, inside, rfl⟩ := List.mem_mapIdx.mp member
  rfl

theorem terminales_silent (populated : 0 < sizes.telef sede) (enlace : Nat)
    {network : Ipv4Address} {nodes : List Node} :
    (nodes.mapIdx fun c node =>
        (node, Route.default (network + BitVec.ofNat 32 (c + 1)) 1)).countP
      (fun entry => entry.1 = Node.router sede ∧
        (sizes.interface? (.router sede) entry.2.outlet).map (·.device) =
          some (.troncal enlace sede)) = 0 := by
  rw [List.countP_eq_zero]
  intro entry member through
  simp only [outlet_terminales member, device_first populated, decide_eq_true_eq] at through
  cases through.2

/-- Both loops for the routers number the same interfaces of the same router, so
no trunk gets an odd number of routes. -/
theorem routesThrough_troncal (populated : 0 < sizes.telef sede) (enlace : Nat) :
    Even (sizes.routesThrough (.router sede) (.troncal enlace sede)) := by
  have loops : ∀ gateway : Nat → Ipv4Address,
      ((List.range sizes.enlaces).map fun c =>
          (Node.router .uno, Route.default (gateway c) (c + 1))).countP
        (fun entry => entry.1 = Node.router sede ∧
          (sizes.interface? (.router sede) entry.2.outlet).map (·.device) =
            some (.troncal enlace sede)) =
      (List.range sizes.enlaces).countP fun c => Node.router .uno = Node.router sede ∧
        (sizes.interface? (.router sede) (c + 1)).map (·.device) =
          some (.troncal enlace sede) := by
    intro gateway
    rw [List.countP_map]
    rfl
  rw [routesThrough, defaultRoutes, List.countP_append, List.countP_append, List.countP_append,
    terminales_silent populated, terminales_silent populated, loops, loops]
  rw [Nat.zero_add]
  exact Even.add_self _

/-- The loop for the phones of a site ends with its router. -/
theorem routesThrough_router (populated : 0 < sizes.telef sede) :
    0 < sizes.routesThrough (.router sede) (.router sede 0) := by
  have last : ∀ network : Ipv4Address,
      (Node.router sede, Route.default (network + BitVec.ofNat 32 (sizes.telef sede + 1)) 1) ∈
        (sizes.terminales sede).mapIdx fun c node =>
          (node, .default (network + BitVec.ofNat 32 (c + 1)) 1) := by
    intro network
    have inside : sizes.telef sede < (sizes.terminales sede).length := by simp [terminales]
    refine List.mem_mapIdx.mpr ⟨sizes.telef sede, inside, ?_⟩
    simp [terminales]
  apply List.countP_pos_iff.mpr
  refine ⟨(.router sede, .default (red sede + BitVec.ofNat 32 (sizes.telef sede + 1)) 1), ?_, ?_⟩
  · simp only [defaultRoutes, List.mem_append]
    cases sede with
    | uno => exact .inl (.inl (.inl (last _)))
    | dos => exact .inl (.inl (.inr (last _)))
  · exact decide_eq_true ⟨rfl, device_first populated⟩

/-- The route of a phone is right: it names the router's end of the phone's link. -/
theorem usable_terminal {j : Nat} (inside : j < sizes.telef sede) :
    sizes.Usable (.terminal sede j) (.default (red sede + BitVec.ofNat 32 (j + 1)) 1) := by
  obtain ⟨own, assigned, device⟩ := exists_telefono sede inside
  obtain ⟨far, member, peer⟩ := exists_router sede inside
  have listed : own ∈ sizes.interfaces (.terminal sede j) :=
    List.mem_filter.mpr ⟨assigned, by simp [device, NetDevice.node]⟩
  have nonempty := List.length_pos_of_mem listed
  have first := device_of_terminal (List.getElem_mem nonempty)
  refine ⟨_, List.getElem?_eq_getElem nonempty, far, member, ?_, ?_⟩
  · rw [first, peer]
    rfl
  · rw [address_router member peer]
    rfl

/-- The first route of the first router names an address of the trunks, and leaves
to its first phone. -/
theorem not_allUsable (populated : 0 < sizes.telef .uno) (bounded : sizes.telef .uno < 65536)
    (linked : 0 < sizes.enlaces) : ¬ sizes.AllUsable := by
  intro usable
  have listed : (Node.router .uno, Route.default (0x0A030000#32 + BitVec.ofNat 32 (0 + 1)) 1) ∈
      sizes.defaultRoutes := by
    simp only [defaultRoutes, List.mem_append, List.mem_map]
    exact .inl (.inr ⟨0, List.mem_range.mpr linked, rfl⟩)
  obtain ⟨interface, found, far, member, peer, gateway⟩ := usable _ _ listed
  have device := device_first populated
  rw [show sizes.interface? (.router .uno) 1 = some interface from found, Option.map_some,
    Option.some.injEq] at device
  rw [device] at peer
  have address := address_telefono member peer
  rw [Route.default, Option.some.injEq, address] at gateway
  have value := congrArg BitVec.toNat gateway
  simp only [red, BitVec.toNat_add, BitVec.toNat_ofNat] at value
  omega

/-- The sizes that `simular` is given, in the widths of its arguments. -/
def simular (telef1 telef2 : UInt16) (enlaces : UInt8) : Sizes where
  telef
    | .uno => telef1.toNat
    | .dos => telef2.toNat
  enlaces := enlaces.toNat

theorem telef_simular (telef1 telef2 : UInt16) (enlaces : UInt8) (sede : Sede) :
    (simular telef1 telef2 enlaces).telef sede < 65536 := by
  cases sede with
  | uno => exact telef1.toNat_lt
  | dos => exact telef2.toNat_lt

/-- Whatever the sizes, some default route names a gateway that is not at the end
of its link, and neither router has one route over each trunk and none to a phone. -/
theorem never_routed (telef1 telef2 : UInt16) (enlaces : UInt8) (phones1 : 1 ≤ telef1)
    (phones2 : 1 ≤ telef2) (trunks : 1 ≤ enlaces) :
    ¬ (simular telef1 telef2 enlaces).AllUsable ∧
      ∀ sede, ¬ (simular telef1 telef2 enlaces).CrossesTrunks sede := by
  have linked : 0 < (simular telef1 telef2 enlaces).enlaces := by
    exact UInt8.le_iff_toNat_le.mp trunks
  have populated : ∀ sede, 0 < (simular telef1 telef2 enlaces).telef sede := by
    intro sede
    cases sede with
    | uno => exact UInt16.le_iff_toNat_le.mp phones1
    | dos => exact UInt16.le_iff_toNat_le.mp phones2
  constructor
  · exact not_allUsable (populated .uno) (telef_simular _ _ _ _) linked
  · intro sede crosses
    have odd := routesThrough_troncal (populated sede) 0
    rw [crosses.trunks 0 linked] at odd
    exact absurd odd (by decide)

theorem smallest_not_routed :
    ¬ ((simular 1 1 1).AllUsable ∧ ∀ sede, (simular 1 1 1).CrossesTrunks sede) := by
  intro ⟨_, crosses⟩
  have phones := (crosses .dos).phones 0 (by decide)
  exact absurd phones (routesThrough_router (by decide)).ne'

theorem never_routed_two : ¬ (simular 2 1 2).AllUsable ∧
    ∀ sede, ¬ (simular 2 1 2).CrossesTrunks sede :=
  never_routed 2 1 2 (by decide) (by decide) (by decide)

end Simvoip.Sizes
