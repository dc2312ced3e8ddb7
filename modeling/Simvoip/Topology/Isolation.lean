import Simvoip.Topology.Addresses

namespace Simvoip.Dimensions

open Simvoip.Net Sizes

variable {dimensions : Dimensions} {interface : Interface} {node next : Node}
  {address : Ipv4Address}

/-! # Site two cannot leave site two

Its router was given no default route over a trunk, and the one it has, among
those of the phones, leads back to its first phone.
-/

/-- The interfaces of site two lie in its own network or in that of the trunks. -/
theorem interface_dos (member : interface ∈ dimensions.interfaces node)
    (site : node.sede = .dos) :
    interface.length = 16 ∧ 0x0A020000 ≤ interface.address.toNat ∧
        interface.address.toNat < 0x0A030000 ∨
      interface.length = 24 ∧ 0x0A030000 ≤ interface.address.toNat ∧
        interface.address.toNat < 0x0A030100 := by
  obtain ⟨assigned, own⟩ := List.mem_filter.mp member
  simp only [decide_eq_true_eq] at own
  simp only [Sizes.assigned, List.mem_append] at assigned
  rcases assigned with (one | two) | trunk
  · obtain ⟨_, device, _⟩ := mem_assign one
    have other := sede_of_mem_devices device
    rw [own, site] at other
    cases other
  · obtain ⟨length, _, host, _, bound, value⟩ := mem_assign two
    rw [length_devices] at bound
    have fits := dimensions.telef_fits .dos
    left
    rw [value, BitVec.toNat_add, BitVec.toNat_ofNat, BitVec.toNat_ofNat]
    omega
  · obtain ⟨length, _, host, _, bound, value⟩ := mem_assign trunk
    rw [length_rDevices] at bound
    have fits := dimensions.enlaces_fits
    right
    rw [value, BitVec.toNat_add, BitVec.toNat_ofNat, BitVec.toNat_ofNat]
    omega

theorem address_uno {j : Nat} (member : interface ∈ dimensions.assigned)
    (device : interface.device = .telefono .uno j) :
    0x0A010000 ≤ interface.address.toNat ∧ interface.address.toNat < 0x0A020000 := by
  simp only [Sizes.assigned, List.mem_append] at member
  rcases member with (one | two) | trunk
  · obtain ⟨_, _, host, _, bound, value⟩ := mem_assign one
    rw [length_devices] at bound
    have fits := dimensions.telef_fits .uno
    rw [value, BitVec.toNat_add, BitVec.toNat_ofNat, BitVec.toNat_ofNat]
    omega
  · obtain ⟨_, listed, _⟩ := mem_assign two
    have other := sede_of_mem_devices listed
    rw [device] at other
    cases other
  · obtain ⟨_, listed, _⟩ := mem_assign trunk
    rw [device] at listed
    simp [rDevices] at listed

theorem network_ne (member : interface ∈ dimensions.interfaces node) (site : node.sede = .dos)
    (low : 0x0A010000 ≤ address.toNat) (high : address.toNat < 0x0A020000) :
    network address interface.length ≠ network interface.address interface.length := by
  intro same
  have value := congrArg BitVec.toNat same
  simp only [network, BitVec.toNat_ushiftRight, Nat.shiftRight_eq_div_pow] at value
  rcases interface_dos member site with ⟨length, lower, upper⟩ | ⟨length, lower, upper⟩
  · rw [length] at value
    omega
  · rw [length] at value
    omega

/-- The only default route of a node of site two goes out of its first interface. -/
theorem outlet_of_defaultRoutes {route : Route} (member : (node, route) ∈ dimensions.defaultRoutes)
    (site : node.sede = .dos) : route.outlet = 1 := by
  simp only [defaultRoutes, List.mem_append, List.mem_map] at member
  rcases member with ((one | two) | ⟨c, _, same⟩) | ⟨c, _, same⟩
  · obtain ⟨index, inside, same⟩ := List.mem_mapIdx.mp one
    have listed := List.getElem_mem inside
    obtain ⟨rfl, rfl⟩ := Prod.mk.inj same
    rfl
  · obtain ⟨index, inside, same⟩ := List.mem_mapIdx.mp two
    obtain ⟨rfl, rfl⟩ := Prod.mk.inj same
    rfl
  · obtain ⟨rfl, rfl⟩ := Prod.mk.inj same
    cases site
  · obtain ⟨rfl, rfl⟩ := Prod.mk.inj same
    cases site

/-- The first interface of the second router is its link to the first phone. -/
theorem first_interface_router (dimensions : Dimensions) :
    ((dimensions.interfaces (.router .dos))[0]?).map (·.device) = some (.router .dos 0) := by
  have none : (assign 0x0A010000#32 16 (dimensions.devices .uno)).filter
      (·.device.node = .router .dos) = [] := by
    rw [List.filter_eq_nil_iff]
    intro interface member own
    simp only [decide_eq_true_eq] at own
    have other := sede_of_mem_devices (mem_assign member).2.1
    rw [own] at other
    cases other
  obtain ⟨rest, devices⟩ : ∃ rest, dimensions.devices .dos = .router .dos 0 :: rest := by
    obtain ⟨more, count⟩ := Nat.exists_eq_add_of_le (dimensions.telef_pos .dos)
    rw [Nat.add_comm] at count
    simp [Sizes.devices, devicesRouter, count, List.range_succ_eq_map]
  rw [interfaces, assigned, List.filter_append, List.filter_append, none, devices]
  simp [assign, List.mapIdx_cons, NetDevice.node]

theorem first_hop_dos (site : node.sede = .dos)
    (first : dimensions.interface? node 1 = some interface) :
    interface.device.peer.node.sede = .dos := by
  simp only [interface?] at first
  cases node with
  | router sede =>
      cases site
      have device := first_interface_router dimensions
      rw [first, Option.map_some, Option.some.injEq] at device
      rw [device]
      rfl
  | terminal sede j =>
      cases site
      rw [device_of_terminal (List.mem_of_getElem? first)]
      rfl

theorem hop_dos (low : 0x0A010000 ≤ address.toNat) (high : address.toNat < 0x0A020000)
    (site : node.sede = .dos) (hop : dimensions.net.Hop node address next) :
    next.sede = .dos := by
  obtain ⟨route, ⟨listed, matching, _⟩, interface, outlet, rfl⟩ := hop
  rcases List.mem_append.mp listed with connected | default
  · obtain ⟨index, inside, rfl⟩ := List.mem_mapIdx.mp connected
    have same := Route.matches_connected.mp matching
    exact absurd same (network_ne (List.getElem_mem inside) site low high)
  · obtain ⟨⟨owner, route'⟩, member, rfl⟩ := List.mem_map.mp default
    obtain ⟨inList, own⟩ := List.mem_filter.mp member
    simp only [decide_eq_true_eq] at own
    subst own
    have one := outlet_of_defaultRoutes inList site
    rw [one] at outlet
    exact first_hop_dos site outlet

/-- A packet from site two never arrives at a phone of site one. -/
theorem isolated {j : Nat} (site : node.sede = .dos) (member : interface ∈ dimensions.assigned)
    (device : interface.device = .telefono .uno j) {target : Node} {visited : List Node} :
    ¬ Arrives dimensions.net interface.address target visited node := by
  obtain ⟨low, high⟩ := address_uno member device
  have inside : node ∈ {node : Node | node.sede = .dos} := site
  refine not_arrives_of_trap _ ?_ ?_ inside
  · exact fun node site next hop => hop_dos low high site hop
  · intro node site ⟨own, listed, same⟩
    have located := interface_dos listed site
    rw [same] at located
    omega

theorem disconnected (dimensions : Dimensions) : ¬ dimensions.Connected := by
  intro connected
  obtain ⟨interface, member, device⟩ := exists_telefono .uno (dimensions.telef_pos .uno)
  have arrives := connected .dos .uno 0 0 (dimensions.telef_pos .dos) (dimensions.telef_pos .uno)
    (by simp) interface member device
  exact isolated rfl member device arrives

/-- Whatever the numbers of phones and links, the sites are not connected: no
phone of site two reaches any phone of site one. -/
theorem never_connected (dimensions : Dimensions) :
    ¬ dimensions.Connected ∧
      ∀ (j j' : Nat), ∀ interface ∈ dimensions.assigned, interface.device = .telefono .uno j' →
        ¬ Arrives dimensions.net interface.address (.terminal .uno j') [] (.terminal .dos j) :=
  ⟨disconnected dimensions, fun _ _ _ member device => isolated rfl member device⟩

def smallest : Dimensions where
  telef _ := 1
  enlaces := 1
  telef_pos := by simp
  enlaces_pos := by simp
  telef_fits := by simp
  enlaces_fits := by simp

theorem smallest_not_connected : ¬ smallest.Connected := disconnected smallest

end Simvoip.Dimensions
