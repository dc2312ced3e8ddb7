import Simvoip.Net.Subnet
import Simvoip.Topology.Routes

namespace Simvoip.Sizes

open Simvoip.Net

/-! # The room for addresses

`main` takes the numbers of phones in 32 bits and hands them over in 16, and every
link takes two addresses.
-/

/-- What `main` makes of the numbers of phones when it calls `simular`. -/
def narrow (tA tB : UInt32) (enlaces : UInt8) : Sizes :=
  simular tA.toUInt16 tB.toUInt16 enlaces

/-- The phones that the command line asks for. -/
def requested (tA tB : UInt32) : Sede → Nat
  | .uno => tA.toNat
  | .dos => tB.toNat

def subred (sede : Sede) : Subnet where
  base := red sede
  length := 16
  aligned := by
    cases sede <;> decide

def troncales : Subnet where
  base := 0x0A030000#32
  length := 24
  aligned := by decide

/-- There are the phones asked for, and addresses and gateways for all links in the
subnets they belong to. -/
structure Addressed (tA tB : UInt32) (enlaces : UInt8) : Prop where
  phones : ∀ sede, ((narrow tA tB enlaces).terminales sede).countP (· ≠ .router sede) =
    requested tA tB sede
  distinct : ((narrow tA tB enlaces).assigned.map (·.address)).Nodup
  sites : ∀ sede, ∀ interface ∈ assign (red sede) 16 ((narrow tA tB enlaces).devices sede),
    (subred sede).Usable interface.address
  trunks : ∀ interface ∈ assign 0x0A030000#32 24 (narrow tA tB enlaces).rDevices,
    troncales.Usable interface.address
  gateways : ∀ sede, ∀ c < ((narrow tA tB enlaces).terminales sede).length,
    (subred sede).Contains (red sede + BitVec.ofNat 32 (c + 1))
  trunkGateways : ∀ c < (narrow tA tB enlaces).enlaces,
    troncales.Contains (0x0A030000#32 + BitVec.ofNat 32 (c + 1)) ∧
      troncales.Contains
        (0x0A030000#32 + BitVec.ofNat 32 (c + 1 + (narrow tA tB enlaces).enlaces))

theorem base_subred (sede : Sede) : (subred sede).base.toNat ≤ 0x0A020000 := by
  cases sede with
  | uno => decide
  | dos => decide

theorem size_subred (sede : Sede) : (subred sede).size = 65536 := rfl

theorem base_troncales : troncales.base.toNat = 0x0A030000 := rfl

theorem size_troncales : troncales.size = 256 := rfl

theorem countP_terminales (sizes : Sizes) (sede : Sede) :
    (sizes.terminales sede).countP (· ≠ .router sede) = sizes.telef sede := by
  rw [terminales, List.countP_append, List.countP_map]
  simp [Function.comp_def]

section

variable {subnet : Subnet} {devices : List NetDevice}

/-- What a subnet hands out has to end before its broadcast address. -/
theorem usable_assign_iff (bounded : subnet.base.toNat + devices.length < 2 ^ 32)
    (roomy : 2 ≤ subnet.size) :
    (∀ interface ∈ assign subnet.base subnet.length devices, subnet.Usable interface.address) ↔
      devices.length + 1 < subnet.size := by
  constructor
  · intro usable
    by_contra full
    have fits := @Subnet.fits subnet
    have inside : subnet.size - 2 < (assign subnet.base subnet.length devices).length := by
      rw [assign, List.length_mapIdx]
      omega
    have last := usable _ (List.getElem_mem inside)
    simp only [assign, List.getElem_mapIdx] at last
    have room := (Subnet.usable_host_iff (by omega)).mp last
    omega
  · intro room interface member
    obtain ⟨_, _, number, _, within, address⟩ := mem_assign member
    rw [address]
    exact (Subnet.usable_host_iff (by omega)).mpr (by omega)

theorem addresses_assign (base : Ipv4Address) (length : Nat) :
    (assign base length devices).map (·.address) =
      (List.range devices.length).map fun i => base + BitVec.ofNat 32 (i + 1) := by
  apply List.ext_getElem
  · simp [assign]
  · simp [assign]

theorem nodup_assign (room : devices.length + 1 < subnet.size) :
    ((assign subnet.base subnet.length devices).map (·.address)).Nodup := by
  have fits := @Subnet.fits subnet
  rw [addresses_assign]
  refine List.Nodup.map_on ?_ List.nodup_range
  intro i inside j inside' same
  rw [List.mem_range] at inside inside'
  have numbers := @Subnet.host_inj subnet _ _ (by omega) (by omega) same
  omega

end

section

variable {tA tB : UInt32} {enlaces : UInt8}

theorem telef_narrow (sede : Sede) :
    (narrow tA tB enlaces).telef sede = requested tA tB sede % 65536 := by
  cases sede with
  | uno => exact UInt32.toNat_toUInt16 tA
  | dos => exact UInt32.toNat_toUInt16 tB

/-- A site of half the hosts is not cut. -/
theorem telef_narrow_of_le {sede : Sede} (most : requested tA tB sede ≤ 32767) :
    (narrow tA tB enlaces).telef sede = requested tA tB sede := by
  rw [telef_narrow, Nat.mod_eq_of_lt (by omega)]

theorem usable_sites_iff (sizes : Sizes) (sede : Sede) (bounded : sizes.telef sede < 65536) :
    (∀ interface ∈ assign (red sede) 16 (sizes.devices sede),
      (subred sede).Usable interface.address) ↔ sizes.telef sede ≤ 32767 := by
  have base := base_subred sede
  have length := @length_devices sizes sede
  have room := @usable_assign_iff (subred sede) (sizes.devices sede) (by omega)
    (by rw [size_subred]; omega)
  rw [length, size_subred] at room
  exact room.trans (by omega)

theorem usable_trunks_iff (sizes : Sizes) (bounded : sizes.enlaces < 256) :
    (∀ interface ∈ assign 0x0A030000#32 24 sizes.rDevices, troncales.Usable interface.address) ↔
      sizes.enlaces ≤ 127 := by
  have length := @length_rDevices sizes
  have room := @usable_assign_iff troncales sizes.rDevices (by rw [length, base_troncales]; omega)
    (by rw [size_troncales]; omega)
  rw [length, size_troncales] at room
  exact room.trans (by omega)

end

/-- A gateway is an address of a router, and there are half as many as addresses. -/
theorem contains_gateway (sizes : Sizes) {sede : Sede} (most : sizes.telef sede ≤ 32767) {c : Nat}
    (inside : c < (sizes.terminales sede).length) :
    (subred sede).Contains (red sede + BitVec.ofNat 32 (c + 1)) := by
  have base := base_subred sede
  have size := size_subred sede
  rw [terminales, List.length_append, List.length_map, List.length_range,
    List.length_singleton] at inside
  exact (@Subnet.contains_host_iff (subred sede) _ (by omega)).mpr (by omega)

theorem contains_trunkGateway {number : Nat} (small : number < 256) :
    troncales.Contains (0x0A030000#32 + BitVec.ofNat 32 number) := by
  have base := base_troncales
  have size := size_troncales
  exact (@Subnet.contains_host_iff troncales _ (by omega)).mpr (by omega)

/-- The addresses of the three subnets are distinct when they all have room. -/
theorem nodup_assigned (sizes : Sizes) (phones : ∀ sede, sizes.telef sede ≤ 32767)
    (trunks : sizes.enlaces ≤ 127) : (sizes.assigned.map (·.address)).Nodup := by
  have sites : ∀ sede, (sizes.devices sede).length + 1 < (subred sede).size := by
    intro sede
    have most := phones sede
    rw [length_devices, size_subred]
    omega
  have trunkRoom : sizes.rDevices.length + 1 < troncales.size := by
    rw [length_rDevices, size_troncales]
    omega
  have inSite : ∀ sede, ∀ interface ∈ assign (red sede) 16 (sizes.devices sede),
      (subred sede).Contains interface.address := fun sede interface member =>
    ((usable_sites_iff sizes sede (Nat.lt_of_le_of_lt (phones sede) (by decide))).mpr
      (phones sede) interface member).1
  have inTrunk : ∀ interface ∈ assign 0x0A030000#32 24 sizes.rDevices,
      troncales.Contains interface.address := fun interface member =>
    ((usable_trunks_iff sizes (by omega)).mpr trunks interface member).1
  have site : ∀ sede, ((assign (red sede) 16 (sizes.devices sede)).map (·.address)).Nodup :=
    fun sede => @nodup_assign (subred sede) _ (sites sede)
  have trunk : ((assign 0x0A030000#32 24 sizes.rDevices).map (·.address)).Nodup :=
    @nodup_assign troncales _ trunkRoom
  rw [assigned, List.map_append, List.map_append, List.nodup_append, List.nodup_append]
  refine ⟨⟨site .uno, site .dos, ?_⟩, trunk, ?_⟩
  · intro one listed two listed'
    obtain ⟨first, member, rfl⟩ := List.mem_map.mp listed
    obtain ⟨second, member', rfl⟩ := List.mem_map.mp listed'
    exact Subnet.disjoint (by decide) (inSite .uno first member) (inSite .dos second member')
  · intro one listed two listed'
    rw [← List.map_append] at listed
    obtain ⟨first, member, rfl⟩ := List.mem_map.mp listed
    obtain ⟨second, member', rfl⟩ := List.mem_map.mp listed'
    rcases List.mem_append.mp member with site | site
    · exact Subnet.disjoint (by decide) (inSite .uno first site) (inTrunk second member')
    · exact Subnet.disjoint (by decide) (inSite .dos first site) (inTrunk second member')

/-- There is room exactly for half the hosts of each subnet, without its first and
last addresses. -/
theorem addressed_iff (tA tB : UInt32) (enlaces : UInt8) :
    Addressed tA tB enlaces ↔ tA ≤ 32767 ∧ tB ≤ 32767 ∧ enlaces ≤ 127 := by
  have bounded := @telef_simular tA.toUInt16 tB.toUInt16 enlaces
  have links := enlaces.toNat_lt
  have few : (narrow tA tB enlaces).enlaces = enlaces.toNat := rfl
  rw [UInt32.le_iff_toNat_le, UInt32.le_iff_toNat_le, UInt8.le_iff_toNat_le]
  change _ ↔ requested tA tB .uno ≤ 32767 ∧ requested tA tB .dos ≤ 32767 ∧
    (narrow tA tB enlaces).enlaces ≤ 127
  constructor
  · intro addressed
    have asked : ∀ sede, requested tA tB sede ≤ 32767 := by
      intro sede
      rw [← addressed.phones, countP_terminales]
      exact (usable_sites_iff _ sede (bounded sede)).mp (addressed.sites sede)
    exact ⟨asked .uno, asked .dos, (usable_trunks_iff _ links).mp addressed.trunks⟩
  · rintro ⟨one, two, trunks⟩
    have asked : ∀ sede, requested tA tB sede ≤ 32767 := by
      intro sede
      cases sede with
      | uno => exact one
      | dos => exact two
    have exactly : ∀ sede, (narrow tA tB enlaces).telef sede = requested tA tB sede :=
      fun sede => telef_narrow_of_le (asked sede)
    have phones : ∀ sede, (narrow tA tB enlaces).telef sede ≤ 32767 := by
      intro sede
      rw [exactly]
      exact asked sede
    exact {
      phones := fun sede => (countP_terminales _ sede).trans (exactly sede)
      distinct := nodup_assigned _ phones trunks
      sites := fun sede => (usable_sites_iff _ sede (bounded sede)).mpr (phones sede)
      trunks := (usable_trunks_iff _ links).mpr trunks
      gateways := fun sede _ inside => contains_gateway _ (phones sede) inside
      trunkGateways := fun _ inside =>
        ⟨contains_trunkGateway (by omega), contains_trunkGateway (by omega)⟩ }

/-- The gateways of the routes are those that the loops count. -/
theorem gateway_of_mem {sizes : Sizes} {node : Node} {route : Route}
    (member : (node, route) ∈ sizes.defaultRoutes) :
    (∃ sede, ∃ c < (sizes.terminales sede).length,
      route.gateway = some (red sede + BitVec.ofNat 32 (c + 1))) ∨
    ∃ c < sizes.enlaces, route.gateway = some (0x0A030000#32 + BitVec.ofNat 32 (c + 1)) ∨
      route.gateway = some (0x0A030000#32 + BitVec.ofNat 32 (c + 1 + sizes.enlaces)) := by
  simp only [defaultRoutes, List.mem_append, List.mem_map, List.mem_range] at member
  rcases member with ((one | two) | ⟨c, inside, same⟩) | ⟨c, inside, same⟩
  · obtain ⟨c, inside, same⟩ := List.mem_mapIdx.mp one
    obtain ⟨rfl, rfl⟩ := Prod.mk.inj same
    exact .inl ⟨.uno, c, inside, rfl⟩
  · obtain ⟨c, inside, same⟩ := List.mem_mapIdx.mp two
    obtain ⟨rfl, rfl⟩ := Prod.mk.inj same
    exact .inl ⟨.dos, c, inside, rfl⟩
  · obtain ⟨rfl, rfl⟩ := Prod.mk.inj same
    exact .inr ⟨c, inside, .inl rfl⟩
  · obtain ⟨rfl, rfl⟩ := Prod.mk.inj same
    exact .inr ⟨c, inside, .inr rfl⟩

theorem Addressed.gateway_contained {tA tB : UInt32} {enlaces : UInt8}
    (addressed : Addressed tA tB enlaces) {node : Node} {route : Route}
    (member : (node, route) ∈ (narrow tA tB enlaces).defaultRoutes) :
    ∃ gateway, route.gateway = some gateway ∧
      ((∃ sede, (subred sede).Contains gateway) ∨ troncales.Contains gateway) := by
  rcases gateway_of_mem member with ⟨sede, c, inside, gateway⟩ | ⟨c, inside, first | second⟩
  · exact ⟨_, gateway, .inl ⟨sede, addressed.gateways sede c inside⟩⟩
  · exact ⟨_, first, .inr (addressed.trunkGateways c inside).1⟩
  · exact ⟨_, second, .inr (addressed.trunkGateways c inside).2⟩

/-- The numbers of phones are cut, a site is given its broadcast address, and so are
the trunks. -/
theorem addressed_fails : ¬ Addressed 65537 1 1 ∧ ¬ Addressed 32768 1 1 ∧ ¬ Addressed 1 1 128 := by
  refine ⟨fun addressed => ?_, fun addressed => ?_, fun addressed => ?_⟩
  · have phones := addressed.phones .uno
    rw [countP_terminales] at phones
    exact absurd phones (by decide)
  · have room := (usable_sites_iff _ .uno (telef_simular _ _ _ _)).mp (addressed.sites .uno)
    exact absurd room (by decide)
  · have room := (usable_trunks_iff _ (by decide)).mp addressed.trunks
    exact absurd room (by decide)

end Simvoip.Sizes
