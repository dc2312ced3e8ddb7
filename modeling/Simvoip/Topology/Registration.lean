import Simvoip.Topology.Routes
import Simvoip.Voip.HangUps

namespace Simvoip

open Simvoip.Data Simvoip.Net Simvoip.Semantics

/-! # The phones that `simular` creates

Addresses are taken by position from what `Assign` returned for a site, where the
router's ends of the links come before the phones'.
-/

namespace Sizes

def phones (sizes : Sizes) : Nat := sizes.telef .uno + sizes.telef .dos

/-- The site of a phone and its position there: those of the first site are
created first. -/
def place (sizes : Sizes) (phone : Nat) : Sede × Nat :=
  if phone < sizes.telef .uno then (.uno, phone) else (.dos, phone - sizes.telef .uno)

def terminal (sizes : Sizes) (phone : Nat) : Node :=
  .terminal (sizes.place phone).1 (sizes.place phone).2

/-- `Ipv4InterfaceContainer::GetAddress` on what `Assign` returned for a site. -/
def getAddress (sizes : Sizes) (sede : Sede) (i : Nat) : Ipv4Address :=
  match (assign (red sede) 16 (sizes.devices sede))[i]? with
  | some interface => interface.address
  | none => red sede

theorem getAddress_ne_zero {sizes : Sizes} {sede : Sede}
    (bounded : sizes.telef sede < 65536) (i : Nat) : sizes.getAddress sede i ≠ 0 := by
  have base : (red sede).toNat ≠ 0 := by cases sede <;> decide
  intro zero
  have value : (sizes.getAddress sede i).toNat = 0 := congrArg BitVec.toNat zero
  unfold getAddress at value
  split at value <;> rename_i found
  · obtain ⟨_, _, host, _, within, address⟩ := mem_assign (List.mem_of_getElem? found)
    rw [length_devices] at within
    rw [address, toNat_host (by omega)] at value
    omega
  · exact base value

/-- The first positions of a site are the router's ends of the links. -/
theorem getAddress_eq {sizes : Sizes} {sede : Sede} {j : Nat} (inside : j < sizes.telef sede) :
    sizes.getAddress sede j = red sede + BitVec.ofNat 32 (j + 1) := by
  have length : j < (assign (red sede) 16 (sizes.devices sede)).length := by
    simp [assign, length_devices]
    omega
  simp only [getAddress, List.getElem?_eq_getElem length]
  simp [assign]

theorem place_of_lt {sizes : Sizes} {phone : Nat} (inside : phone < sizes.phones) :
    (sizes.place phone).2 < sizes.telef (sizes.place phone).1 := by
  unfold phones at inside
  unfold place
  split
  · assumption
  · show phone - sizes.telef .uno < sizes.telef .dos
    omega

theorem place_inj (sizes : Sizes) {phone other : Nat}
    (same : sizes.place phone = sizes.place other) : phone = other := by
  unfold place at same
  split at same <;> split at same <;> simp only [Prod.mk.injEq, reduceCtorEq, true_and,
    false_and] at same <;> omega

end Sizes

/-- What `simular` hands to the phones.  The first nodes are the two routers. -/
def Scenario.simular (ns3 : Ns3) (tamPkt : Nat) (tasa : Nat → Nat) (telef1 telef2 : UInt16)
    (enlaces : UInt8) : Scenario where
  ns3 := ns3
  tel1 := telef1.toNat
  tel2 := telef2.toNat
  tamPkt := tamPkt
  address phone :=
    let sizes := Sizes.simular telef1 telef2 enlaces
    sizes.getAddress (sizes.place phone).1 (sizes.place phone).2
  address_ne_zero := by
    intro phone
    apply Sizes.getAddress_ne_zero
    exact Sizes.telef_simular _ _ _ _
  tasa := tasa
  node phone := phone + 2
  startTime _ := 1000000
  stopTime _ := 10000000

namespace System

/-- Every phone has, and the exchange gives out for it, an address of its own node,
which no other phone has. -/
structure RegistersOwn (sizes : Sizes) (s : System) : Prop where
  own : ∀ phone < sizes.phones, ∃ interface ∈ sizes.interfaces (sizes.terminal phone),
    (s.voips phone).IP = interface.address ∧
      s.central.telefonos.lookup phone = some interface.address
  distinct : ∀ phone < sizes.phones, ∀ other < sizes.phones,
    (s.voips phone).IP = (s.voips other).IP → phone = other

section

variable {ns3 : Ns3} {tamPkt phone other : Nat} {tasa : Nat → Nat} {telef1 telef2 : UInt16}
  {enlaces : UInt8} {s : System}

theorem ip_simular
    (wellFormed : WellFormed (.simular ns3 tamPkt tasa telef1 telef2 enlaces) s)
    (inside : phone < (Sizes.simular telef1 telef2 enlaces).phones) :
    let place := (Sizes.simular telef1 telef2 enlaces).place phone
    (s.voips phone).IP = Sizes.red place.1 + BitVec.ofNat 32 (place.2 + 1) := by
  rw [wellFormed.ips phone inside]
  exact Sizes.getAddress_eq (Sizes.place_of_lt inside)

/-- What a phone registers belongs to the router of its site. -/
theorem registers_router
    (wellFormed : WellFormed (.simular ns3 tamPkt tasa telef1 telef2 enlaces) s)
    (inside : phone < (Sizes.simular telef1 telef2 enlaces).phones) :
    let sizes := Sizes.simular telef1 telef2 enlaces
    ∃ interface ∈ sizes.interfaces (.router (sizes.place phone).1),
      interface.device.peer.node = sizes.terminal phone ∧
        (s.voips phone).IP = interface.address := by
  have position := Sizes.place_of_lt inside
  obtain ⟨interface, assigned, device⟩ := Sizes.exists_router _ position
  refine ⟨interface, List.mem_filter.mpr ⟨assigned, ?_⟩, ?_, ?_⟩
  · simp [device, NetDevice.node]
  · rw [device]
    rfl
  · rw [ip_simular wellFormed inside, Sizes.address_router assigned device]

theorem not_own (wellFormed : WellFormed (.simular ns3 tamPkt tasa telef1 telef2 enlaces) s)
    (inside : phone < (Sizes.simular telef1 telef2 enlaces).phones) {interface : Interface}
    (member : interface ∈ (Sizes.simular telef1 telef2 enlaces).interfaces
      (Sizes.terminal (.simular telef1 telef2 enlaces) phone)) :
    (s.voips phone).IP ≠ interface.address := by
  have position := Sizes.place_of_lt inside
  have bounded := Sizes.telef_simular telef1 telef2 enlaces
    ((Sizes.simular telef1 telef2 enlaces).place phone).1
  rw [ip_simular wellFormed inside,
    Sizes.address_telefono (List.mem_filter.mp member).1 (Sizes.device_of_terminal member)]
  intro same
  have value := congrArg BitVec.toNat same
  rw [Sizes.toNat_host (by omega), Sizes.toNat_host (by omega)] at value
  omega

theorem ip_inj (wellFormed : WellFormed (.simular ns3 tamPkt tasa telef1 telef2 enlaces) s)
    (inside : phone < (Sizes.simular telef1 telef2 enlaces).phones)
    (inside' : other < (Sizes.simular telef1 telef2 enlaces).phones)
    (same : (s.voips phone).IP = (s.voips other).IP) : phone = other := by
  rw [ip_simular wellFormed inside, ip_simular wellFormed inside'] at same
  have position := Sizes.place_of_lt inside
  have position' := Sizes.place_of_lt inside'
  have bounded := Sizes.telef_simular telef1 telef2 enlaces
  apply (Sizes.simular telef1 telef2 enlaces).place_inj
  generalize (Sizes.simular telef1 telef2 enlaces).place phone = place at *
  generalize (Sizes.simular telef1 telef2 enlaces).place other = place' at *
  have near := bounded place.1
  have near' := bounded place'.1
  have value := congrArg BitVec.toNat same
  rw [Sizes.toNat_host (by omega), Sizes.toNat_host (by omega)] at value
  -- the networks of the sites lie too far apart for their positions to meet
  obtain ⟨sede, j⟩ := place
  obtain ⟨sede', j'⟩ := place'
  cases sede <;> cases sede' <;> simp only [Sizes.red, BitVec.toNat_ofNat] at value <;>
    simp only [Prod.mk.injEq, true_and, reduceCtorEq, false_and] <;> omega

/-- A phone registers an address of its own only where there are no phones. -/
theorem registers_iff (ns3 : Ns3) (tamPkt : Nat) (tasa : Nat → Nat) (telef1 telef2 : UInt16)
    (enlaces : UInt8) (inputs : List (Draws (.simular ns3 tamPkt tasa telef1 telef2 enlaces)))
    (s : System)
    (completed : run step (initial (.simular ns3 tamPkt tasa telef1 telef2 enlaces)) inputs =
      some s) :
    RegistersOwn (.simular telef1 telef2 enlaces) s ↔ telef1 = 0 ∧ telef2 = 0 := by
  obtain ⟨wellFormed, _⟩ := reachable_tracked completed
  have empty : (Sizes.simular telef1 telef2 enlaces).phones = 0 ↔ telef1 = 0 ∧ telef2 = 0 := by
    simp [Sizes.phones, Sizes.simular, ← UInt16.toNat_inj]
  rw [← empty]
  constructor
  · intro registers
    by_contra some
    have inside := Nat.pos_of_ne_zero some
    obtain ⟨interface, member, ip, _⟩ := registers.own 0 inside
    exact not_own wellFormed inside member ip
  · intro none
    constructor
    · intro phone inside
      omega
    · intro phone inside
      omega

theorem registers_fails : ¬ RegistersOwn (.simular 1 1 1)
    (initial (.simular twoPhones.ns3 160 (fun _ => 64000) 1 1 1)) := by
  intro registers
  obtain ⟨interface, member, ip, _⟩ := registers.own 0 (by decide)
  exact not_own (WellFormed.initial _) (by decide) member ip

theorem registers_none : RegistersOwn (.simular 0 0 1)
    (initial (.simular twoPhones.ns3 160 (fun _ => 64000) 0 0 1)) :=
  (registers_iff _ _ _ 0 0 1 [] _ rfl).mpr ⟨rfl, rfl⟩

end

end System

end Simvoip
