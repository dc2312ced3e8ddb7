import Simvoip.Topology.Reach
import Simvoip.Topology.Registration
import Simvoip.Voip.Settings

namespace Simvoip

open Simvoip.Data Simvoip.Net Simvoip.Semantics

/-! # What the phones of a call hear of each other

A phone registers the router's end of its link, so the packets of a call are for the
routers.
-/

/-- The host that an address names, with or without a port. -/
def Net.Address.host : Address → Ipv4Address
  | .ipv4 address => address
  | .inetSocket address _ => address

theorem Sede.eq_of_ne {sede one other : Sede} (first : one ≠ sede) (second : other ≠ sede) :
    one = other := by
  cases sede <;> cases one <;> cases other <;> first | rfl | contradiction

namespace Sizes

variable {sizes : Sizes} {sede sede' : Sede} {j k : Nat}

theorem owns_getAddress (inside : j < sizes.telef sede) :
    sizes.net.Owns (.router sede) (sizes.getAddress sede j) := by
  obtain ⟨interface, member, device⟩ := exists_router sede inside
  rw [getAddress_eq inside, ← address_router member device]
  exact owns_router member device

theorem not_owns_getAddress (inside : j < sizes.telef sede) (inside' : k < sizes.telef sede)
    (bounded : sizes.telef sede < 65536) :
    ¬ sizes.net.Owns (.terminal sede k) (sizes.getAddress sede j) := by
  rintro ⟨interface, listed, same⟩
  rw [address_telefono (List.mem_filter.mp listed).1 (device_of_terminal listed),
    getAddress_eq inside] at same
  have value := congrArg BitVec.toNat same
  rw [toNat_host (by omega), toNat_host (by omega)] at value
  omega

/-- What is sent to a router comes to the phones of the sender's site at most, and
if that router is the sender's, to no phone but the sender. -/
theorem not_reaches_terminal (inside : j < sizes.telef sede')
    (other : (sede', j) ≠ (sede, k)) :
    ¬ Reaches sizes.net (sizes.getAddress sede' j) (.terminal sede k) (.terminal sede' j) := by
  intro reaches
  have owner := owns_getAddress inside
  by_cases same : sede' = sede
  · have stays : Node.terminal sede' j ∈
        ({.terminal sede k, .router sede} : Set Node) := by
      refine reaches.mem_of_closed _ ?_ (.inl rfl)
      rintro node (rfl | rfl) next step
      · exact .inr (router_of_terminal_hop step.2)
      · exact absurd (same ▸ owner) step.1
    rcases stays with phone | router
    · exact other (Prod.ext_iff.mpr (Node.terminal.inj phone))
    · cases router
  · have stays : Node.terminal sede' j ∈
        {node : Node | node.sede = sede ∨ node = .router sede'} := by
      refine reaches.mem_of_closed _ ?_ (.inl rfl)
      rintro node (near | rfl) next step
      · rcases hop_near step.2 with here | ⟨site, router⟩
        · exact .inl (here.trans near)
        · rw [router]
          by_cases back : site = sede
          · exact .inl back
          · exact .inr (congrArg Node.router (Sede.eq_of_ne back same))
      · exact absurd owner step.1
    rcases stays with near | router
    · exact same near
    · cases router

end Sizes

namespace System

/-- The phone and its peer are the two parties of the call. -/
def Call.Joins (call : Call) (phone peer : Nat) : Prop :=
  phone = call.llamante ∧ peer = call.llamado ∨ phone = call.llamado ∧ peer = call.llamante

/-- A sender sends to what the other party of its call registered. -/
theorem Places.peer {scenario : Scenario} {call : Call} {leg : Leg}
    (places : Places scenario call leg) (caller : call.llamante < scenario.phones)
    (callee : call.llamado < scenario.phones) :
    leg.phone < scenario.phones ∧ ∃ peer < scenario.phones, Call.Joins call leg.phone peer ∧
      leg.sender.remote.host = scenario.address peer := by
  cases places with
  | caller event phone node sender =>
      rw [phone, sender]
      exact ⟨caller, call.llamado, callee, .inl ⟨rfl, rfl⟩, rfl⟩
  | callee event phone node sender =>
      rw [phone, sender]
      exact ⟨callee, call.llamante, caller, .inr ⟨rfl, rfl⟩, rfl⟩

/-- In every state of every run, a phone sends to what the other party of the call
registered at the exchange, and these packets never come to the phone of that party.  If
both phones are at one site they stop at its router, on every path. -/
theorem never_heard (ns3 : Ns3) (tamPkt : Nat) (tasa : Nat → Nat) (telef1 telef2 : UInt16)
    (enlaces : UInt8) (inputs : List (Draws (.simular ns3 tamPkt tasa telef1 telef2 enlaces))) :
    let sizes := Sizes.simular telef1 telef2 enlaces
    Throughout step (fun s => ∀ leg ∈ s.log.legs, ∃ call ∈ s.log.calls,
      ∃ peer < sizes.phones, Call.Joins call leg.phone peer ∧
        s.central.telefonos.lookup peer = some leg.sender.remote.host ∧
        (peer ≠ leg.phone → ¬ Reaches sizes.net leg.sender.remote.host
          (sizes.terminal leg.phone) (sizes.terminal peer)) ∧
        ((sizes.place peer).1 = (sizes.place leg.phone).1 →
          Arrives sizes.net leg.sender.remote.host (.router (sizes.place peer).1) []
            (sizes.terminal leg.phone)))
      (initial (.simular ns3 tamPkt tasa telef1 telef2 enlaces)) inputs := by
  intro sizes
  refine (settled_throughout _ inputs).mono fun s ⟨wellFormed, settled⟩ leg member => ?_
  obtain ⟨call, known, places⟩ := settled.legs leg member
  obtain ⟨caller, callee⟩ := settled.parties call known
  obtain ⟨own, peer, inside, joins, remote⟩ := places.peer caller callee
  have address : leg.sender.remote.host =
      sizes.getAddress (sizes.place peer).1 (sizes.place peer).2 := remote
  have position := @Sizes.place_of_lt sizes peer inside
  have position' := @Sizes.place_of_lt sizes leg.phone own
  refine ⟨call, known, peer, inside, joins, ?_, ?_, ?_⟩
  · rw [remote]
    exact wellFormed.addresses peer inside
  · intro different
    rw [address]
    exact Sizes.not_reaches_terminal position
      fun same => different (sizes.place_inj same)
  · intro together
    rw [address]
    rw [← together] at position'
    have bounded := Sizes.telef_simular telef1 telef2 enlaces (sizes.place peer).1
    have arrives := Sizes.arrives_router position'
      (Sizes.not_owns_getAddress position position' bounded) (Sizes.owns_getAddress position)
    rwa [together] at arrives ⊢

end System

end Simvoip
