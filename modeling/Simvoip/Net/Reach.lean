import Mathlib.Data.Finset.Max
import Mathlib.Logic.Relation
import Simvoip.Net.Forwarding

namespace Simvoip.Net

open Relation

universe u v

/-! # What a packet may reach

A node that owns the address takes the packet; any other node hands it on.
-/

section

variable {ν : Type u} {α : Type v} {net : Network ν α} {address : α} {start node next target : ν}

/-- A packet for the address leaves this node for that one. -/
def HandsOn (net : Network ν α) (address : α) (node next : ν) : Prop :=
  ¬ net.Owns node address ∧ net.Hop node address next

/-- Some choice of hops takes a packet from one node to the other. -/
def Reaches (net : Network ν α) (address : α) : ν → ν → Prop :=
  ReflTransGen (HandsOn net address)

theorem Reaches.mem_of_closed (reaches : Reaches net address start node) (trap : Set ν)
    (closed : ∀ node ∈ trap, ∀ next, HandsOn net address node next → next ∈ trap)
    (inside : start ∈ trap) : node ∈ trap := by
  induction reaches with
  | refl => exact inside
  | tail _ step ih => exact closed _ ih _ step

/-- What a node hands on arrives wherever the packet arrived from that node, and does
not come back. -/
theorem Arrives.hop {visited : List ν} (arrives : Arrives net address target visited node)
    (step : HandsOn net address node next) :
    next ∉ node :: visited ∧ Arrives net address target (node :: visited) next := by
  cases arrives with
  | deliver owns => exact absurd owns step.1
  | forward _ _ fresh every => exact ⟨fresh _ step.2, every _ step.2⟩

theorem Arrives.reaches {visited : List ν} (arrives : Arrives net address target visited start)
    (reaches : Reaches net address start node) :
    ∃ past, Arrives net address target past node := by
  induction reaches with
  | refl => exact ⟨visited, arrives⟩
  | tail _ step ih =>
      obtain ⟨past, arrives⟩ := ih
      exact ⟨_, (arrives.hop step).2⟩

theorem Arrives.notMem_of_transGen {visited : List ν}
    (arrives : Arrives net address target visited node)
    (later : TransGen (HandsOn net address) node next) : next ∉ node :: visited := by
  induction later using TransGen.head_induction_on generalizing visited with
  | single step => exact (arrives.hop step).1
  | head step _ ih =>
      have fresh := ih (arrives.hop step).2
      exact fun member => fresh (List.mem_cons_of_mem _ member)

/-- A packet that can come to a circle of hops is not sure to arrive. -/
theorem not_arrives_of_cycle {visited : List ν} (reaches : Reaches net address start node)
    (cycle : TransGen (HandsOn net address) node node) :
    ¬ Arrives net address target visited start := by
  intro arrives
  obtain ⟨past, here⟩ := arrives.reaches reaches
  exact here.notMem_of_transGen cycle List.mem_cons_self

end

/-! ## The choice among equal routes -/

namespace Route

variable {table : List Route} {address : Ipv4Address} {route other : Route}

instance : Decidable (route.Matches address) :=
  inferInstanceAs (Decidable (network address route.length = network route.destination route.length))

instance : Decidable (Best table address route) :=
  inferInstanceAs (Decidable (_ ∈ _ ∧ _ ∧ ∀ other ∈ table, other.Matches address →
    other.length ≤ route.length ∧ (other.length = route.length → route.metric ≤ other.metric)))

/-- Where some route matches, some route is best. -/
theorem exists_best (listed : other ∈ table) (matching : other.Matches address) :
    ∃ route, Best table address route := by
  let candidates := table.toFinset.filter (·.Matches address)
  have candidate : ∀ {route}, route ∈ candidates ↔ route ∈ table ∧ route.Matches address := by
    simp [candidates]
  obtain ⟨longest, found, most⟩ :=
    candidates.exists_max_image length ⟨other, candidate.mpr ⟨listed, matching⟩⟩
  obtain ⟨route, among, least⟩ :=
    (candidates.filter (·.length = longest.length)).exists_min_image metric
      ⟨longest, Finset.mem_filter.mpr ⟨found, rfl⟩⟩
  obtain ⟨own, same⟩ := Finset.mem_filter.mp among
  obtain ⟨member, matched⟩ := candidate.mp own
  refine ⟨route, member, matched, fun other inside matching => ?_⟩
  have rival := candidate.mpr ⟨inside, matching⟩
  constructor
  · rw [same]
    exact most other rival
  · intro equal
    exact least other (Finset.mem_filter.mpr ⟨rival, equal.trans same⟩)

/-- The best routes, in the order of the table. -/
def bestOf (table : List Route) (address : Ipv4Address) : List Route :=
  table.filter fun route => Best table address route

theorem mem_bestOf : route ∈ bestOf table address ↔ Best table address route := by
  rw [bestOf, List.mem_filter, decide_eq_true_eq]
  exact ⟨fun both => both.2, fun best => ⟨best.1, best⟩⟩

end Route

end Simvoip.Net
