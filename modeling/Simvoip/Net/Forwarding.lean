import Mathlib.Data.Set.Defs
import Simvoip.Net.Address

namespace Simvoip.Net

universe u v

/-! # Hop-by-hop forwarding

A network says which addresses a node takes for its own and which nodes a packet
may be handed to next.  Where several next hops are allowed, any may be taken.
-/

structure Network (ν : Type u) (α : Type v) where
  Owns : ν → α → Prop
  Hop : ν → α → ν → Prop

section

variable {ν : Type u} {α : Type v} {net : Network ν α} {address : α} {target : ν}

/-- Whatever hops are taken, a packet comes to its target and visits no node twice. -/
inductive Arrives (net : Network ν α) (address : α) (target : ν) : List ν → ν → Prop where
  | deliver {visited : List ν} (owns : net.Owns target address) :
      Arrives net address target visited target
  | forward {visited : List ν} {node : ν} (foreign : ¬ net.Owns node address)
      (possible : ∃ next, net.Hop node address next)
      (fresh : ∀ next, net.Hop node address next → next ∉ node :: visited)
      (every : ∀ next, net.Hop node address next →
        Arrives net address target (node :: visited) next) :
      Arrives net address target visited node

/-- A packet never arrives from a set of nodes that it cannot leave and whose
members do not own its address. -/
theorem not_arrives_of_trap (trap : Set ν)
    (closed : ∀ node ∈ trap, ∀ next, net.Hop node address next → next ∈ trap)
    (foreign : ∀ node ∈ trap, ¬ net.Owns node address)
    {visited : List ν} {node : ν} (inside : node ∈ trap) :
    ¬ Arrives net address target visited node := by
  intro arrives
  induction arrives with
  | deliver owns => exact foreign _ inside owns
  | forward _ possible _ _ ih =>
      obtain ⟨next, hop⟩ := possible
      exact ih next hop (closed _ inside next hop)

end

/-! ## Routing tables -/

def network (address : Ipv4Address) (length : Nat) : Ipv4Address := address >>> (32 - length)

/-- `Ipv4Address::CombineMask`. -/
def combineMask (address : Ipv4Address) (length : Nat) : Ipv4Address :=
  network address length <<< (32 - length)

theorem network_combineMask (address : Ipv4Address) (length : Nat) :
    network (combineMask address length) length = network address length := by
  have below := address.isLt
  have small : address.toNat / 2 ^ (32 - length) * 2 ^ (32 - length) < 2 ^ 32 :=
    Nat.lt_of_le_of_lt (Nat.div_mul_le_self _ _) below
  apply BitVec.eq_of_toNat_eq
  simp only [network, combineMask, BitVec.toNat_ushiftRight, BitVec.toNat_shiftLeft,
    Nat.shiftRight_eq_div_pow, Nat.shiftLeft_eq]
  rw [Nat.mod_eq_of_lt small, Nat.mul_div_cancel _ (Nat.two_pow_pos _)]

structure Route where
  destination : Ipv4Address
  length : Nat
  gateway : Option Ipv4Address
  outlet : Nat
  metric : Nat
deriving DecidableEq

namespace Route

def Matches (route : Route) (address : Ipv4Address) : Prop :=
  network address route.length = network route.destination route.length

/-- The longest match, and among matches of that length one of least metric. -/
def Best (table : List Route) (address : Ipv4Address) (route : Route) : Prop :=
  route ∈ table ∧ route.Matches address ∧ ∀ other ∈ table, other.Matches address →
    other.length ≤ route.length ∧ (other.length = route.length → route.metric ≤ other.metric)

def connected (address : Ipv4Address) (length outlet : Nat) : Route where
  destination := combineMask address length
  length := length
  gateway := none
  outlet := outlet
  metric := 0

/-- `Ipv4StaticRouting::SetDefaultRoute`. -/
def default (gateway : Ipv4Address) (outlet : Nat) : Route where
  destination := 0
  length := 0
  gateway := some gateway
  outlet := outlet
  metric := 0

theorem matches_connected {address other : Ipv4Address} {length outlet : Nat} :
    (connected other length outlet).Matches address ↔
      network address length = network other length := by
  unfold Matches connected
  rw [network_combineMask]

end Route

end Simvoip.Net
