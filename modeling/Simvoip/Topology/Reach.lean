import Simvoip.Net.Reach
import Simvoip.Topology.Isolation
import Simvoip.Topology.Routes

namespace Simvoip.Sizes

open Simvoip.Net

variable {sizes : Sizes} {node next : Node} {sede sede' : Sede} {j : Nat} {route : Route}
  {address : Ipv4Address} {interface : Interface}

/-! # Where packets go

A router has one route for each of its links to the phones, all equally good for
every address of its site.
-/

/-! ## The tables -/

theorem mem_of_interface? {number : Nat} (found : sizes.interface? node number = some interface) :
    interface ∈ sizes.interfaces node := by
  cases number with
  | zero => cases found
  | succ index => exact List.mem_of_getElem? found

theorem node_of_mem_interfaces (member : interface ∈ sizes.interfaces node) :
    interface.device.node = node := by
  simpa using (List.mem_filter.mp member).2

theorem mem_table : route ∈ sizes.table node ↔
    (∃ number interface, sizes.interface? node number = some interface ∧
      route = .connected interface.address interface.length number) ∨
    (node, route) ∈ sizes.defaultRoutes := by
  rw [table, List.mem_append]
  constructor
  · rintro (connected | default)
    · obtain ⟨index, inside, rfl⟩ := List.mem_mapIdx.mp connected
      exact .inl ⟨index + 1, _, List.getElem?_eq_getElem inside, rfl⟩
    · obtain ⟨⟨owner, route⟩, member, rfl⟩ := List.mem_map.mp default
      obtain ⟨listed, own⟩ := List.mem_filter.mp member
      simp only [decide_eq_true_eq] at own
      exact .inr (own ▸ listed)
  · rintro (⟨number, interface, found, rfl⟩ | listed)
    · cases number with
      | zero => cases found
      | succ index =>
          obtain ⟨inside, rfl⟩ := List.getElem?_eq_some_iff.mp found
          exact .inl (List.mem_mapIdx.mpr ⟨index, inside, rfl⟩)
    · exact .inr (List.mem_map.mpr ⟨_, List.mem_filter.mpr ⟨listed, by simp⟩, rfl⟩)

/-- Default routes match everything, and only those of the first router may leave
through another interface than the first. -/
theorem of_defaultRoutes (listed : (node, route) ∈ sizes.defaultRoutes) :
    route.length = 0 ∧ route.metric = 0 ∧ (∀ address, route.Matches address) ∧
      (route.outlet = 1 ∨ node = .router .uno ∧ ∃ c < sizes.enlaces, route.outlet = c + 1) := by
  have zero : ∀ gateway outlet address, (Route.default gateway outlet).Matches address := by
    intro gateway outlet address
    have small : ∀ other : Ipv4Address, network other 0 = 0#32 := by
      intro other
      apply BitVec.eq_of_toNat_eq
      rw [network, BitVec.toNat_ushiftRight, Nat.shiftRight_eq_div_pow]
      exact Nat.div_eq_of_lt other.isLt
    exact (small address).trans (small 0).symm
  simp only [defaultRoutes, List.mem_append, List.mem_map, List.mem_range] at listed
  rcases listed with ((one | two) | ⟨c, inside, same⟩) | ⟨c, inside, same⟩
  · obtain ⟨index, _, same⟩ := List.mem_mapIdx.mp one
    obtain ⟨_, rfl⟩ := Prod.mk.inj same
    exact ⟨rfl, rfl, zero _ _, .inl rfl⟩
  · obtain ⟨index, _, same⟩ := List.mem_mapIdx.mp two
    obtain ⟨_, rfl⟩ := Prod.mk.inj same
    exact ⟨rfl, rfl, zero _ _, .inl rfl⟩
  · obtain ⟨rfl, rfl⟩ := Prod.mk.inj same
    exact ⟨rfl, rfl, zero _ _, .inr ⟨rfl, c, inside, rfl⟩⟩
  · obtain ⟨rfl, rfl⟩ := Prod.mk.inj same
    exact ⟨rfl, rfl, zero _ _, .inr ⟨rfl, c, inside, rfl⟩⟩

theorem defaultRoutes_terminales {c : Nat} (found : (sizes.terminales sede)[c]? = some node) :
    (node, .default (red sede + BitVec.ofNat 32 (c + 1)) 1) ∈ sizes.defaultRoutes := by
  obtain ⟨inside, rfl⟩ := List.getElem?_eq_some_iff.mp found
  have listed : ((sizes.terminales sede)[c],
      Route.default (red sede + BitVec.ofNat 32 (c + 1)) 1) ∈
        (sizes.terminales sede).mapIdx fun c node =>
          (node, .default (red sede + BitVec.ofNat 32 (c + 1)) 1) :=
    List.mem_mapIdx.mpr ⟨c, inside, rfl⟩
  simp only [defaultRoutes, List.mem_append]
  cases sede with
  | uno => exact .inl (.inl (.inl listed))
  | dos => exact .inl (.inl (.inr listed))

theorem default_terminal (inside : j < sizes.telef sede) :
    (.terminal sede j, .default (red sede + BitVec.ofNat 32 (j + 1)) 1) ∈ sizes.defaultRoutes := by
  apply defaultRoutes_terminales
  rw [terminales, List.getElem?_append_left (by simpa using inside)]
  simp [inside]

theorem default_router (sizes : Sizes) (sede : Sede) :
    (.router sede, .default (red sede + BitVec.ofNat 32 (sizes.telef sede + 1)) 1) ∈
      sizes.defaultRoutes := by
  apply defaultRoutes_terminales
  simp [terminales]

theorem defaults_uno {c : Nat} (inside : c < sizes.enlaces) :
    (.router .uno, .default (0x0A030000#32 + BitVec.ofNat 32 (c + 1)) (c + 1)) ∈
      sizes.defaultRoutes := by
  simp only [defaultRoutes, List.mem_append, List.mem_map, List.mem_range]
  exact .inl (.inr ⟨c, inside, rfl⟩)

/-! ## The links -/

/-- A link leads to a router or stays in its site. -/
theorem hop_near (hop : sizes.net.Hop node address next) :
    next.sede = node.sede ∨ ∃ sede, next = .router sede := by
  obtain ⟨route, _, interface, found, rfl⟩ := hop
  have own := node_of_mem_interfaces (mem_of_interface? found)
  rw [← own]
  cases interface.device with
  | troncal enlace sede =>
      cases sede with
      | uno => exact .inr ⟨.dos, rfl⟩
      | dos => exact .inr ⟨.uno, rfl⟩
  | telefono sede j => exact .inl rfl
  | router sede j => exact .inl rfl

/-- Only the router of its site has a link to a phone. -/
theorem router_of_peer {number : Nat} (found : sizes.interface? node number = some interface)
    (peer : interface.device.peer.node = .terminal sede j) :
    node = .router sede ∧ j < sizes.telef sede := by
  have listed := mem_of_interface? found
  have own := node_of_mem_interfaces listed
  cases device : interface.device with
  | troncal enlace site =>
      rw [device] at peer
      cases site with
      | uno => cases peer
      | dos => cases peer
  | telefono site other =>
      rw [device] at peer
      cases peer
  | router site other =>
      rw [device] at peer own
      cases peer
      cases own
      have member : NetDevice.router sede j ∈
          routerDevices (sizes.telef sede) sizes.enlaces sede := by
        rw [← interfaces_router]
        exact List.mem_map.mpr ⟨interface, listed, device⟩
      exact ⟨rfl, by simpa [routerDevices] using member⟩

theorem router_of_terminal_hop (hop : sizes.net.Hop (.terminal sede j) address next) :
    next = .router sede := by
  obtain ⟨route, _, interface, found, rfl⟩ := hop
  rw [device_of_terminal (mem_of_interface? found)]
  rfl

/-- A phone hands everything to its router. -/
theorem hop_terminal_iff (inside : j < sizes.telef sede) :
    sizes.net.Hop (.terminal sede j) address next ↔ next = .router sede := by
  constructor
  · exact router_of_terminal_hop
  · rintro rfl
    have default := default_terminal inside
    obtain ⟨route, best⟩ := Route.exists_best (mem_table.mpr (.inr default))
      ((of_defaultRoutes default).2.2.1 address)
    have leaves : ∃ interface, sizes.interface? (.terminal sede j) route.outlet =
        some interface := by
      rcases mem_table.mp best.1 with ⟨number, interface, found, rfl⟩ | listed
      · exact ⟨interface, found⟩
      · rcases (of_defaultRoutes listed).2.2.2 with first | ⟨other, _⟩
        · obtain ⟨interface, found, _⟩ := usable_terminal inside
          exact ⟨interface, first ▸ found⟩
        · cases other
    obtain ⟨interface, found⟩ := leaves
    refine ⟨route, best, interface, found, ?_⟩
    rw [device_of_terminal (mem_of_interface? found)]
    rfl

/-- The router's end of a link belongs to the router. -/
theorem owns_router (member : interface ∈ sizes.assigned)
    (device : interface.device = .router sede j) :
    sizes.net.Owns (.router sede) interface.address :=
  ⟨interface, List.mem_filter.mpr ⟨member, by simp [device, NetDevice.node]⟩, rfl⟩

/-- What a phone sends to its router stops there. -/
theorem arrives_router (inside : j < sizes.telef sede)
    (foreign : ¬ sizes.net.Owns (.terminal sede j) address)
    (owns : sizes.net.Owns (.router sede) address) :
    Arrives sizes.net address (.router sede) [] (.terminal sede j) := by
  refine .forward foreign ⟨_, (hop_terminal_iff inside).mpr rfl⟩ ?_ ?_
  · intro next hop
    rw [router_of_terminal_hop hop]
    simp
  · intro next hop
    rw [router_of_terminal_hop hop]
    exact .deliver owns

/-! ## Addresses of a site -/

/-- The address lies in the network of the site. -/
def InSite (sede : Sede) (address : Ipv4Address) : Prop :=
  network address 16 = network (red sede) 16

theorem network_eq_iff {other : Ipv4Address} {length : Nat} :
    network address length = network other length ↔
      address.toNat / 2 ^ (32 - length) = other.toNat / 2 ^ (32 - length) := by
  rw [← BitVec.toNat_inj]
  simp only [network, BitVec.toNat_ushiftRight, Nat.shiftRight_eq_div_pow]

theorem inSite_iff : InSite sede address ↔
    address.toNat / 65536 = (red sede).toNat / 65536 := network_eq_iff

theorem InSite.unique (inside : InSite sede address) (inside' : InSite sede' address) :
    sede = sede' := by
  have same := inside.symm.trans inside'
  cases sede with
  | uno =>
      cases sede' with
      | uno => rfl
      | dos => exact absurd same (by decide)
  | dos =>
      cases sede' with
      | uno => exact absurd same (by decide)
      | dos => rfl

end Simvoip.Sizes

namespace Simvoip.Dimensions

open Simvoip.Net Sizes

variable {dimensions : Dimensions} {node next : Node} {sede sede' : Sede} {j : Nat}
  {route : Route} {address : Ipv4Address} {interface : Interface}

theorem inSite_host {host : Nat} (fits : host ≤ 2 * dimensions.telef sede) :
    InSite sede (red sede + BitVec.ofNat 32 host) := by
  have most := dimensions.telef_fits sede
  rw [inSite_iff, toNat_host (by omega)]
  cases sede with
  | uno =>
      show (0x0A010000 + host) / 65536 = 0x0A010000 / 65536
      omega
  | dos =>
      show (0x0A020000 + host) / 65536 = 0x0A020000 / 65536
      omega

/-- An interface is the end of a phone's link, in the network of its site, or of a
trunk. -/
theorem inSite_or_troncal (member : interface ∈ dimensions.interfaces node) :
    interface.length = 16 ∧ InSite node.sede interface.address ∧
        (∀ enlace sede, interface.device ≠ .troncal enlace sede) ∨
      interface.length = 24 ∧ interface.address.toNat / 256 = 0x0A0300 ∧
        ∃ enlace sede, interface.device = .troncal enlace sede := by
  have own := node_of_mem_interfaces member
  rcases mem_assigned (List.mem_filter.mp member).1 with ⟨site, assigned⟩ | trunk
  · obtain ⟨length, listed, host, _, bound, value⟩ := mem_assign assigned
    have located := sede_of_mem_devices listed
    rw [length_devices] at bound
    rw [own] at located
    left
    rw [value, located]
    refine ⟨length, inSite_host bound, ?_⟩
    intro enlace sede device
    rw [device] at listed
    simp [devices, devicesRouter, devicesTelefonos] at listed
  · obtain ⟨length, listed, host, _, bound, value⟩ := mem_assign trunk
    rw [length_rDevices] at bound
    have fits := dimensions.enlaces_fits
    right
    refine ⟨length, ?_, ?_⟩
    · rw [value, BitVec.toNat_add, BitVec.toNat_ofNat, BitVec.toNat_ofNat]
      omega
    · simp only [rDevices, List.mem_flatMap, List.mem_cons, List.not_mem_nil, or_false] at listed
      obtain ⟨enlace, _, device | device⟩ := listed
      · exact ⟨enlace, .uno, device⟩
      · exact ⟨enlace, .dos, device⟩

/-- A link matches the addresses of its own site, and a trunk those of no site. -/
theorem matches_interface_iff (member : interface ∈ dimensions.interfaces node) {number : Nat}
    (located : InSite sede address) :
    (Route.connected interface.address interface.length number).Matches address ↔
      sede = node.sede ∧ interface.length = 16 := by
  rw [Route.matches_connected, network_eq_iff]
  rcases inSite_or_troncal member with ⟨length, inside, _⟩ | ⟨length, trunk, _⟩
  · rw [length]
    constructor
    · intro same
      exact ⟨located.unique (inSite_iff.mpr (same.trans (inSite_iff.mp inside))), rfl⟩
    · rintro ⟨rfl, _⟩
      exact (inSite_iff.mp located).trans (inSite_iff.mp inside).symm
  · rw [length]
    refine iff_of_false ?_ (by simp)
    intro same
    have fine : address.toNat / 256 = 0x0A0300 := same.trans trunk
    have place := inSite_iff.mp located
    have coarse : address.toNat / 65536 = 0x0A03 := by omega
    rw [place] at coarse
    cases sede with
    | uno => exact absurd coarse (by decide)
    | dos => exact absurd coarse (by decide)

/-! ## The hops of a router -/

/-- The interfaces to the phones come first. -/
theorem exists_link (inside : j < dimensions.telef sede) :
    ∃ interface, dimensions.interface? (.router sede) (j + 1) = some interface ∧
      interface.device = .router sede j ∧ interface.length = 16 := by
  have link := device_router dimensions.toSizes sede j
  rw [routerDevices, List.getElem?_append_left (by simpa using inside)] at link
  simp only [List.getElem?_map, List.getElem?_range inside, Option.map_some] at link
  obtain ⟨interface, found, device⟩ := Option.map_eq_some_iff.mp link
  refine ⟨interface, found, device, ?_⟩
  rcases inSite_or_troncal (mem_of_interface? found) with ⟨length, _⟩ | ⟨_, _, _, _, trunk⟩
  · exact length
  · rw [device] at trunk
    cases trunk

/-- An address of its own site leaves a router through the link of any phone. -/
theorem best_own_iff (located : InSite sede address) :
    Route.Best (dimensions.table (.router sede)) address route ↔
      ∃ number interface, dimensions.interface? (.router sede) number = some interface ∧
        interface.length = 16 ∧
          route = .connected interface.address interface.length number := by
  have longest : ∀ other ∈ dimensions.table (.router sede), other.Matches address →
      other.length = 16 ∨ other.length = 0 := by
    intro other listed matching
    rcases mem_table.mp listed with ⟨number, interface, found, rfl⟩ | default
    · exact .inl ((matches_interface_iff (mem_of_interface? found) located).mp matching).2
    · exact .inr (of_defaultRoutes default).1
  constructor
  · rintro ⟨listed, matching, best⟩
    rcases mem_table.mp listed with ⟨number, interface, found, rfl⟩ | default
    · have fits := (matches_interface_iff (mem_of_interface? found) located).mp matching
      exact ⟨number, interface, found, fits.2, rfl⟩
    · obtain ⟨interface, found, _, length⟩ := exists_link (dimensions.telef_pos sede)
      have longer := (best _ (mem_table.mpr (.inl ⟨1, interface, found, rfl⟩))
        ((matches_interface_iff (mem_of_interface? found) located).mpr ⟨rfl, length⟩)).1
      rw [(of_defaultRoutes default).1] at longer
      exact absurd (length.symm.trans_le longer) (by decide)
  · rintro ⟨number, interface, found, length, rfl⟩
    refine ⟨mem_table.mpr (.inl ⟨number, interface, found, rfl⟩),
      (matches_interface_iff (mem_of_interface? found) located).mpr ⟨rfl, length⟩, ?_⟩
    intro other listed matching
    refine ⟨?_, fun _ => (Nat.zero_le _)⟩
    rcases longest other listed matching with same | zero
    · exact (same.trans length.symm).le
    · rw [zero]
      exact Nat.zero_le _

/-- Any other address leaves a router by one of its default routes. -/
theorem best_away_iff (located : InSite sede' address) (away : sede' ≠ sede) :
    Route.Best (dimensions.table (.router sede)) address route ↔
      (.router sede, route) ∈ dimensions.defaultRoutes := by
  have only : ∀ other ∈ dimensions.table (.router sede), other.Matches address →
      (.router sede, other) ∈ dimensions.defaultRoutes := by
    intro other listed matching
    rcases mem_table.mp listed with ⟨number, interface, found, rfl⟩ | default
    · have own := (matches_interface_iff (mem_of_interface? found) located).mp matching
      exact absurd own.1 away
    · exact default
  constructor
  · rintro ⟨listed, matching, _⟩
    exact only route listed matching
  · intro default
    obtain ⟨length, metric, matching, _⟩ := of_defaultRoutes default
    refine ⟨mem_table.mpr (.inr default), matching address, ?_⟩
    intro other listed matching
    obtain ⟨length', metric', _⟩ := of_defaultRoutes (only other listed matching)
    rw [length, length', metric, metric']
    exact ⟨Nat.le_refl _, fun _ => Nat.le_refl _⟩

theorem hop_own_iff (located : InSite sede address) :
    dimensions.net.Hop (.router sede) address next ↔
      ∃ j < dimensions.telef sede, next = .terminal sede j := by
  constructor
  · rintro ⟨route, best, interface, found, rfl⟩
    obtain ⟨number, interface', found', length, rfl⟩ := (best_own_iff located).mp best
    cases Option.some.inj (found.symm.trans found')
    have listed := mem_of_interface? found
    have own := node_of_mem_interfaces listed
    cases device : interface.device with
    | troncal enlace site =>
        rcases inSite_or_troncal listed with ⟨_, _, other⟩ | ⟨length', _⟩
        · exact absurd device (other enlace site)
        · exact absurd (length.symm.trans length') (by decide)
    | telefono site j =>
        rw [device] at own
        cases own
    | router site j =>
        rw [device] at own
        cases own
        have peer : interface.device.peer.node = .terminal sede j := by
          rw [device]
          rfl
        exact ⟨j, (router_of_peer found peer).2, rfl⟩
  · rintro ⟨j, inside, rfl⟩
    obtain ⟨interface, found, device, length⟩ := exists_link inside
    refine ⟨_, (best_own_iff located).mpr ⟨j + 1, interface, found, length, rfl⟩,
      interface, found, ?_⟩
    rw [device]
    rfl

theorem hop_first (located : InSite sede' address) (away : sede' ≠ sede) :
    dimensions.net.Hop (.router sede) address (.terminal sede 0) := by
  obtain ⟨interface, found, device, _⟩ := exists_link (dimensions.telef_pos sede)
  refine ⟨_, (best_away_iff located away).mpr (default_router dimensions.toSizes sede),
    interface, found, ?_⟩
  rw [device]
  rfl

theorem hop_trunk (located : InSite .dos address)
    (linked : dimensions.telef .uno < dimensions.enlaces) :
    dimensions.net.Hop (.router .uno) address (.router .dos) := by
  have trunk := device_router dimensions.toSizes .uno (dimensions.telef .uno)
  rw [routerDevices, List.getElem?_append_right (by simp)] at trunk
  have some : 0 < dimensions.enlaces := dimensions.enlaces_pos
  simp only [List.length_map, List.length_range, Nat.sub_self, List.getElem?_map,
    List.getElem?_range some, Option.map_some] at trunk
  obtain ⟨interface, found, device⟩ := Option.map_eq_some_iff.mp trunk
  refine ⟨_, (best_away_iff located (by decide)).mpr (defaults_uno linked), interface, found, ?_⟩
  rw [device]
  rfl

/-- The routes for the trunks do not get past the phones unless there are more
trunks than phones. -/
theorem hop_confined (located : InSite sede' address) (away : sede' ≠ sede)
    (confined : ¬ (sede = .uno ∧ dimensions.telef .uno < dimensions.enlaces))
    (hop : dimensions.net.Hop (.router sede) address next) : next.sede = sede := by
  obtain ⟨route, best, interface, found, rfl⟩ := hop
  have links : ∃ j < dimensions.telef sede, route.outlet = j + 1 := by
    rcases (of_defaultRoutes ((best_away_iff located away).mp best)).2.2.2 with
      first | ⟨site, c, inside, outlet⟩
    · exact ⟨0, dimensions.telef_pos sede, first⟩
    · cases site
      have few : ¬ dimensions.telef .uno < dimensions.enlaces := fun more => confined ⟨rfl, more⟩
      exact ⟨c, by omega, outlet⟩
  obtain ⟨j, inside, outlet⟩ := links
  obtain ⟨interface', found', device, _⟩ := exists_link inside
  rw [outlet] at found
  cases Option.some.inj (found.symm.trans found')
  rw [device]
  rfl

end Simvoip.Dimensions
