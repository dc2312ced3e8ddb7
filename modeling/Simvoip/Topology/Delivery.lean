import Simvoip.Topology.Reach
import Simvoip.Topology.Subnets

namespace Simvoip.Dimensions

open Relation Simvoip.Net Sizes

variable {dimensions : Dimensions} {node next : Node} {sede sede' : Sede} {j : Nat}
  {address : Ipv4Address} {interface : Interface}

/-! # What is delivered

Here the links of a site are those between its phones and its router, and an
interface of a link is at either end.
-/

/-- The interfaces at the links of a site. -/
def links (dimensions : Dimensions) (sede : Sede) : List Interface :=
  assign (red sede) 16 (dimensions.devices sede)

theorem assigned_of_mem_links (member : interface ∈ dimensions.links sede) :
    interface ∈ dimensions.assigned := by
  simp only [Sizes.assigned, List.mem_append]
  cases sede with
  | uno => exact .inl (.inl member)
  | dos => exact .inl (.inr member)

theorem mem_links_of_telefono (member : interface ∈ dimensions.assigned)
    (device : interface.device = .telefono sede j) : interface ∈ dimensions.links sede := by
  rcases mem_assigned member with ⟨site, link⟩ | trunk
  · have located := sede_of_mem_devices (mem_assign link).2.1
    rw [device] at located
    cases located
    exact link
  · have listed := (mem_assign trunk).2.1
    rw [device] at listed
    simp [rDevices] at listed

theorem inSite_of_mem_links (member : interface ∈ dimensions.links sede) :
    InSite sede interface.address := by
  obtain ⟨_, _, host, _, bound, value⟩ := mem_assign member
  rw [length_devices] at bound
  rw [value]
  exact inSite_host bound

/-- The ends of a link are a phone and the router of its site. -/
theorem node_of_mem_links (member : interface ∈ dimensions.links sede) :
    interface.device.node = .router sede ∨
      ∃ j < dimensions.telef sede, interface.device.node = .terminal sede j := by
  obtain ⟨_, listed, _⟩ := mem_assign member
  simp only [devices, devicesRouter, devicesTelefonos, List.mem_append, List.mem_map,
    List.mem_range] at listed
  rcases listed with ⟨j, inside, same⟩ | ⟨j, inside, same⟩
  · rw [← same]
    exact .inl rfl
  · rw [← same]
    exact .inr ⟨j, inside, rfl⟩

/-- An address has one owner. -/
theorem owns_iff (member : interface ∈ dimensions.assigned) :
    dimensions.net.Owns node interface.address ↔ node = interface.device.node := by
  constructor
  · rintro ⟨other, listed, same⟩
    have phones : ∀ sede, dimensions.telef sede ≤ 32767 := by
      intro sede
      have most := dimensions.telef_fits sede
      omega
    have trunks := dimensions.enlaces_fits
    have distinct := nodup_assigned dimensions.toSizes phones (by omega)
    have equal := List.inj_on_of_nodup_map distinct (List.mem_filter.mp listed).1 member same
    rw [← equal]
    exact (node_of_mem_interfaces listed).symm
  · rintro rfl
    exact ⟨interface, List.mem_filter.mpr ⟨member, by simp⟩, rfl⟩

theorem handsOn_iff (member : interface ∈ dimensions.assigned) :
    HandsOn dimensions.net interface.address node next ↔
      node ≠ interface.device.node ∧ dimensions.net.Hop node interface.address next := by
  rw [HandsOn, owns_iff member]

/-! ## Every choice of routes -/

theorem reaches_of_router (member : interface ∈ dimensions.links sede) :
    Reaches dimensions.net interface.address (.router sede) interface.device.node := by
  rcases node_of_mem_links member with router | ⟨j, inside, terminal⟩
  · rw [router]
    exact .refl
  · rw [terminal]
    refine .single ((handsOn_iff (assigned_of_mem_links member)).mpr ⟨?_, ?_⟩)
    · simp [terminal]
    · exact (hop_own_iff (inSite_of_mem_links member)).mpr ⟨j, inside, rfl⟩

theorem reaches_router (inside : j < dimensions.telef sede)
    (member : interface ∈ dimensions.assigned)
    (foreign : Node.terminal sede j ≠ interface.device.node) :
    HandsOn dimensions.net interface.address (.terminal sede j) (.router sede) :=
  (handsOn_iff member).mpr ⟨foreign, (hop_terminal_iff inside).mpr rfl⟩

/-- A packet of a phone can come to an address of a site when the phone belongs to
that site, or when the first site has fewer phones than there are trunks; the second
site can send nothing to the first. -/
theorem reaches_iff (dimensions : Dimensions) {sede sede' : Sede} {j : Nat}
    {interface : Interface} (inside : j < dimensions.telef sede)
    (member : interface ∈ dimensions.links sede') :
    Reaches dimensions.net interface.address (.terminal sede j) interface.device.node ↔
      sede' = sede ∨ sede = .uno ∧ dimensions.telef .uno < dimensions.enlaces := by
  have listed := assigned_of_mem_links member
  have located := inSite_of_mem_links member
  have site := sede_of_mem_devices (mem_assign member).2.1
  constructor
  · intro reaches
    by_contra neither
    obtain ⟨away, confined⟩ := not_or.mp neither
    have stays : interface.device.node ∈ {node : Node | node.sede = sede} := by
      refine reaches.mem_of_closed _ ?_ rfl
      intro node here next step
      cases node with
      | router own =>
          cases here
          exact hop_confined located away confined step.2
      | terminal own k =>
          cases here
          rw [router_of_terminal_hop step.2]
          rfl
    exact away (site.symm.trans stays)
  · intro possible
    by_cases own : Node.terminal sede j = interface.device.node
    · rw [← own]
      exact .refl
    · refine .head (reaches_router inside listed own) ?_
      by_cases same : sede' = sede
      · rw [← same]
        exact reaches_of_router member
      · obtain ⟨rfl, more⟩ := possible.resolve_left same
        cases sede' with
        | uno => exact absurd rfl same
        | dos =>
            have trunk : HandsOn dimensions.net interface.address (.router .uno) (.router .dos) := by
              refine (handsOn_iff listed).mpr ⟨?_, hop_trunk located more⟩
              intro owner
              rw [← owner] at site
              cases site
            exact .head trunk (reaches_of_router member)

/-- With two phones at each site and three trunks the first site reaches the second. -/
theorem reaches_crossed : ∃ dimensions : Dimensions, dimensions.enlaces = 3 ∧
    Reaches dimensions.net 0x0A020003#32 (.terminal .uno 1) (.terminal .dos 0) := by
  let crossed : Dimensions := {
    telef _ := 2
    enlaces := 3
    telef_pos := by simp
    enlaces_pos := by simp
    telef_fits := by simp
    enlaces_fits := by simp }
  exact ⟨crossed, rfl, (@reaches_iff crossed .uno .dos 1
    ⟨.telefono .dos 0, 0x0A020003#32, 16⟩ (by decide) (by decide)).mpr (.inr ⟨rfl, by decide⟩)⟩

/-- What is neither for the phone that sends it nor for its router can be handed back
and forth between this router and a phone. -/
theorem circles (dimensions : Dimensions) {sede sede' : Sede} {j : Nat}
    {interface : Interface} (inside : j < dimensions.telef sede)
    (member : interface ∈ dimensions.links sede')
    (foreign : interface.device.node ≠ .terminal sede j)
    (remote : interface.device.node ≠ .router sede) :
    HandsOn dimensions.net interface.address (.terminal sede j) (.router sede) ∧
      ∃ k < dimensions.telef sede,
        HandsOn dimensions.net interface.address (.router sede) (.terminal sede k) ∧
          HandsOn dimensions.net interface.address (.terminal sede k) (.router sede) := by
  have listed := assigned_of_mem_links member
  have located := inSite_of_mem_links member
  have site := sede_of_mem_devices (mem_assign member).2.1
  refine ⟨reaches_router inside listed (Ne.symm foreign), ?_⟩
  -- the phone that the router may hand the packet to, and that gives it back
  obtain ⟨k, present, foreign', out⟩ : ∃ k < dimensions.telef sede,
      Node.terminal sede k ≠ interface.device.node ∧
        dimensions.net.Hop (.router sede) interface.address (.terminal sede k) := by
    by_cases same : sede' = sede
    · rw [same] at located
      exact ⟨j, inside, Ne.symm foreign, (hop_own_iff located).mpr ⟨j, inside, rfl⟩⟩
    · refine ⟨0, dimensions.telef_pos sede, ?_, hop_first located same⟩
      intro owner
      rw [← owner] at site
      exact same site.symm
  exact ⟨k, present, (handsOn_iff listed).mpr ⟨Ne.symm remote, out⟩,
    reaches_router present listed foreign'⟩

/-- Delivery is sure only to the phone itself and to its own router: anything else can
be handed back and forth between the router and a phone for ever. -/
theorem arrives_iff (dimensions : Dimensions) {sede sede' : Sede} {j : Nat}
    {interface : Interface} (inside : j < dimensions.telef sede)
    (member : interface ∈ dimensions.links sede') :
    (Arrives dimensions.net interface.address interface.device.node [] (.terminal sede j) ↔
      interface.device.node = .terminal sede j ∨ interface.device.node = .router sede) ∧
    (¬ (interface.device.node = .terminal sede j ∨ interface.device.node = .router sede) →
      HandsOn dimensions.net interface.address (.terminal sede j) (.router sede) ∧
        ∃ k < dimensions.telef sede,
          HandsOn dimensions.net interface.address (.router sede) (.terminal sede k) ∧
            HandsOn dimensions.net interface.address (.terminal sede k) (.router sede)) := by
  have listed := assigned_of_mem_links member
  refine ⟨⟨?_, ?_⟩, ?_⟩
  · intro arrives
    by_contra neither
    obtain ⟨foreign, remote⟩ := not_or.mp neither
    obtain ⟨first, k, _, there, back⟩ := dimensions.circles inside member foreign remote
    exact not_arrives_of_cycle (.single first) (.tail (.single there) back) arrives
  · intro near
    by_cases own : interface.device.node = .terminal sede j
    · rw [own]
      exact .deliver ((owns_iff listed).mpr own.symm)
    · have router := near.resolve_left own
      have foreign := (reaches_router inside listed (Ne.symm own)).1
      rw [router]
      exact arrives_router inside foreign ((owns_iff listed).mpr router.symm)
  · intro neither
    obtain ⟨foreign, remote⟩ := not_or.mp neither
    exact dimensions.circles inside member foreign remote

theorem arrives_smallest : ¬ Arrives smallest.net 0x0A020002#32 (.terminal .dos 0) []
    (.terminal .uno 0) := fun arrives =>
  absurd ((@arrives_iff smallest .uno .dos 0 ⟨.telefono .dos 0, 0x0A020002#32, 16⟩ (by decide)
    (by decide)).1.mp arrives) (by decide)

/-! ## One choice of routes -/

/-- The network in which a rule picks the route among the best ones, which it is given
in the order of the table. -/
def ruled (dimensions : Dimensions) (rule : List Route → Option Route) :
    Network Node Ipv4Address where
  Owns := dimensions.net.Owns
  Hop node address next := ∃ route,
    rule (Route.bestOf (dimensions.table node) address) = some route ∧
      ∃ interface, dimensions.interface? node route.outlet = some interface ∧
        next = interface.device.peer.node

section

variable {rule : List Route → Option Route}

/-- For the addresses of its own site a router always picks the same phone. -/
theorem exists_chosen (dimensions : Dimensions)
    (picks : ∀ routes, routes ≠ [] → ∃ route ∈ routes, rule routes = some route) (sede : Sede) :
    ∃ k < dimensions.telef sede, ∀ address, InSite sede address → ∀ next,
      (dimensions.ruled rule).Hop (.router sede) address next ↔ next = .terminal sede k := by
  have located : InSite sede (red sede) := rfl
  have same : ∀ address, InSite sede address →
      Route.bestOf (dimensions.table (.router sede)) address =
        Route.bestOf (dimensions.table (.router sede)) (red sede) := by
    intro address inside
    refine List.filter_congr fun route _ => ?_
    rw [decide_eq_decide, best_own_iff inside, best_own_iff located]
  obtain ⟨link, found, device, length⟩ := exists_link (dimensions.telef_pos sede)
  have best := (best_own_iff located).mpr ⟨1, link, found, length, rfl⟩
  obtain ⟨route, listed, picked⟩ := picks _ (List.ne_nil_of_mem (Route.mem_bestOf.mpr best))
  have picked_best := Route.mem_bestOf.mp listed
  obtain ⟨number, interface, found, _, rfl⟩ := (best_own_iff located).mp picked_best
  obtain ⟨k, inside, phone⟩ :=
    (hop_own_iff located).mp ⟨_, picked_best, interface, found, rfl⟩
  refine ⟨k, inside, fun address inside next => ?_⟩
  constructor
  · rintro ⟨route, picked', interface', found', rfl⟩
    rw [same address inside, picked] at picked'
    cases picked'
    cases Option.some.inj (found.symm.trans found')
    exact phone
  · rintro rfl
    exact ⟨_, (same address inside).symm ▸ picked, interface, found, phone.symm⟩

/-- Whatever rule picks among equal routes, in each site there is one phone that other
nodes can send a packet to, and no other phone ever gets one. -/
theorem one_phone (dimensions : Dimensions) (rule : List Route → Option Route)
    (picks : ∀ routes, routes ≠ [] → ∃ route ∈ routes, rule routes = some route) (sede : Sede) :
    ∃ k < dimensions.telef sede, ∀ j, ∀ interface ∈ dimensions.assigned,
      interface.device = .telefono sede j →
        ((∃ node, node ≠ .terminal sede j ∧
          Reaches (dimensions.ruled rule) interface.address node (.terminal sede j)) ↔ j = k) := by
  obtain ⟨k, inside, chosen⟩ := exists_chosen dimensions picks sede
  refine ⟨k, inside, fun j interface member device => ?_⟩
  have located := inSite_of_mem_links (mem_links_of_telefono member device)
  constructor
  · rintro ⟨node, other, reaches⟩
    by_contra different
    have closed : ∀ node ∈ {node : Node | node ≠ .terminal sede j}, ∀ next,
        HandsOn (dimensions.ruled rule) interface.address node next →
          next ∈ {node : Node | node ≠ .terminal sede j} := by
      rintro node _ next ⟨_, hop⟩ rfl
      have out := hop
      obtain ⟨route, _, link, found, peer⟩ := out
      obtain ⟨rfl, _⟩ := router_of_peer found peer.symm
      have phone := (chosen interface.address located _).mp hop
      exact different (Node.terminal.inj phone).2
    exact reaches.mem_of_closed _ closed other rfl
  · rintro rfl
    refine ⟨.router sede, by simp, .single ⟨?_, ?_⟩⟩
    · intro owner
      have same := (owns_iff member).mp owner
      rw [device] at same
      cases same
    · exact (chosen interface.address located _).mpr rfl

/-- Two phones at each site; of several equal routes the last is taken. -/
theorem one_phone_last : ∃ dimensions : Dimensions, dimensions.telef .dos = 2 ∧
    ∃ k < dimensions.telef .dos, ∀ j, ∀ interface ∈ dimensions.assigned,
      interface.device = .telefono .dos j →
        ((∃ node, node ≠ .terminal .dos j ∧
          Reaches (dimensions.ruled List.getLast?) interface.address node (.terminal .dos j)) ↔
            j = k) := by
  let paired : Dimensions := {
    telef _ := 2
    enlaces := 1
    telef_pos := by simp
    enlaces_pos := by simp
    telef_fits := by simp
    enlaces_fits := by simp }
  have picks : ∀ routes : List Route, routes ≠ [] →
      ∃ route ∈ routes, routes.getLast? = some route := fun _ some =>
    ⟨_, List.getLast_mem some, List.getLast?_eq_getLast_of_ne_nil some⟩
  exact ⟨paired, rfl, one_phone paired List.getLast? picks .dos⟩

end

end Simvoip.Dimensions
