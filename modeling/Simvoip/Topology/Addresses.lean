import Simvoip.Topology

namespace Simvoip.Sizes

open Simvoip.Net

variable {sizes : Sizes} {interface : Interface} {sede : Sede} {j : Nat}

/-! # What was assigned

The links of a site were given the addresses of all their router ends first, and
only then those of the phones.
-/

theorem mem_assign {base : Ipv4Address} {length : Nat} {devices : List NetDevice}
    (member : interface ∈ assign base length devices) :
    interface.length = length ∧ interface.device ∈ devices ∧
      ∃ host, 1 ≤ host ∧ host ≤ devices.length ∧
        interface.address = base + BitVec.ofNat 32 host := by
  obtain ⟨index, inside, rfl⟩ := List.mem_mapIdx.mp member
  exact ⟨rfl, List.getElem_mem inside, index + 1, by omega, by omega, rfl⟩

theorem sede_of_mem_devices {device : NetDevice}
    (member : device ∈ sizes.devices sede) : device.node.sede = sede := by
  simp only [devices, devicesRouter, devicesTelefonos, List.mem_append, List.mem_map] at member
  rcases member with ⟨j, _, rfl⟩ | ⟨j, _, rfl⟩
  · rfl
  · rfl

theorem length_devices (sede : Sede) :
    (sizes.devices sede).length = 2 * sizes.telef sede := by
  simp only [devices, devicesRouter, devicesTelefonos, List.length_append, List.length_map,
    List.length_range]
  omega

theorem length_rDevices : sizes.rDevices.length = 2 * sizes.enlaces := by
  simp [rDevices, List.length_flatMap, Nat.mul_comm]

theorem exists_assigned {device : NetDevice} (listed : device ∈ sizes.devices sede) :
    ∃ interface ∈ sizes.assigned, interface.device = device := by
  obtain ⟨index, bound, same⟩ := List.getElem_of_mem listed
  cases sede with
  | uno =>
      refine ⟨_, List.mem_append_left _ (List.mem_append_left _ (List.mem_mapIdx.mpr
        ⟨index, bound, rfl⟩)), same⟩
  | dos =>
      refine ⟨_, List.mem_append_left _ (List.mem_append_right _ (List.mem_mapIdx.mpr
        ⟨index, bound, rfl⟩)), same⟩

theorem exists_telefono (sede : Sede) (inside : j < sizes.telef sede) :
    ∃ interface ∈ sizes.assigned, interface.device = .telefono sede j := by
  apply exists_assigned
  exact List.mem_append_right _ (List.mem_map_of_mem (List.mem_range.mpr inside))

theorem exists_router (sede : Sede) (inside : j < sizes.telef sede) :
    ∃ interface ∈ sizes.assigned, interface.device = .router sede j := by
  apply exists_assigned
  exact List.mem_append_left _ (List.mem_map_of_mem (List.mem_range.mpr inside))

/-- A phone has one device, its end of the link to the router. -/
theorem device_of_terminal (member : interface ∈ sizes.interfaces (.terminal sede j)) :
    interface.device = .telefono sede j := by
  have own := (List.mem_filter.mp member).2
  simp only [decide_eq_true_eq] at own
  cases device : interface.device with
  | troncal enlace site => simp [device, NetDevice.node] at own
  | router site other => simp [device, NetDevice.node] at own
  | telefono site other =>
      rw [device] at own
      obtain ⟨rfl, rfl⟩ := Node.terminal.inj own
      rfl

/-- The network of a site. -/
def red : Sede → Ipv4Address
  | .uno => 0x0A010000#32
  | .dos => 0x0A020000#32

theorem toNat_host {host : Nat} (bounded : host < 0x100000) :
    (red sede + BitVec.ofNat 32 host).toNat = (red sede).toNat + host := by
  rw [BitVec.toNat_add, BitVec.toNat_ofNat]
  cases sede with
  | uno =>
      show (0x0A010000 + _) % _ = 0x0A010000 + _
      omega
  | dos =>
      show (0x0A020000 + _) % _ = 0x0A020000 + _
      omega

theorem mem_assigned (member : interface ∈ sizes.assigned) :
    (∃ sede, interface ∈ assign (red sede) 16 (sizes.devices sede)) ∨
      interface ∈ assign 0x0A030000#32 24 sizes.rDevices := by
  simp only [assigned, List.mem_append] at member
  rcases member with (one | two) | trunk
  · exact .inl ⟨.uno, one⟩
  · exact .inl ⟨.dos, two⟩
  · exact .inr trunk

theorem address_router (member : interface ∈ sizes.assigned)
    (device : interface.device = .router sede j) :
    interface.address = red sede + BitVec.ofNat 32 (j + 1) := by
  rcases mem_assigned member with ⟨site, assigned⟩ | trunk
  · obtain ⟨index, inside, rfl⟩ := List.mem_mapIdx.mp assigned
    simp only [devices, devicesRouter, devicesTelefonos, List.getElem_append, List.getElem_map,
      List.getElem_range, List.length_map, List.length_range] at device
    split at device
    · obtain ⟨rfl, rfl⟩ := NetDevice.router.inj device
      rfl
    · cases device
  · have listed := (mem_assign trunk).2.1
    rw [device] at listed
    simp [rDevices] at listed

theorem address_telefono (member : interface ∈ sizes.assigned)
    (device : interface.device = .telefono sede j) :
    interface.address = red sede + BitVec.ofNat 32 (sizes.telef sede + j + 1) := by
  rcases mem_assigned member with ⟨site, assigned⟩ | trunk
  · obtain ⟨index, inside, rfl⟩ := List.mem_mapIdx.mp assigned
    simp only [devices, devicesRouter, devicesTelefonos, List.getElem_append, List.getElem_map,
      List.getElem_range, List.length_map, List.length_range] at device
    split at device
    · cases device
    · rename_i beyond
      obtain ⟨rfl, rfl⟩ := NetDevice.telefono.inj device
      rw [Nat.add_sub_of_le (Nat.le_of_not_lt beyond)]
  · have listed := (mem_assign trunk).2.1
    rw [device] at listed
    simp [rDevices] at listed

end Simvoip.Sizes
