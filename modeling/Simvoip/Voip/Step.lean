import Mathlib.Tactic.Common
import Simvoip.Semantics.Run
import Simvoip.Voip

namespace Simvoip.System

open Simvoip.Data Simvoip.Net Simvoip.Semantics

variable {scenario : Scenario} {s t : System} {queue : EventQueue Action}
  {event : Event Action} {draws : Draws scenario} {phone : Nat}

/-- What holds in every reachable state: numbers, objects and addresses belong
together, only phones of the scenario act, and the slot for the next attempt
never names an event of another kind or of another phone. -/
structure WellFormed (scenario : Scenario) (s : System) : Prop where
  objects : ∀ number < scenario.phones,
    s.central.objetosVoip.lookup number = some (some number)
  addresses : ∀ number < scenario.phones,
    s.central.telefonos.lookup number = some (scenario.address number)
  numbers : ∀ number < scenario.phones, (s.voips number).numeroNodo = number
  ips : ∀ number < scenario.phones, (s.voips number).IP = scenario.address number
  actors : ∀ event ∈ s.queue.pending, event.action.phone < scenario.phones
  slot : ∀ number uid, (s.voips number).proximallamada = some uid →
    uid < s.queue.nextUid ∧
      ∀ event ∈ s.queue.pending, event.uid = uid → event.action = .llama number

def newCall (queue : EventQueue Action) (draws : Draws scenario) (event : Event Action)
    (phone : Nat) : Call where
  llamante := phone
  llamado := draws.llamado
  duracion := draws.duracion
  instant := queue.now
  event := event
  colgar := queue.scheduled draws.duracion (.colgar phone)
  descuelga := (queue.schedule draws.duracion (.colgar phone)).scheduled 0
    (.descuelga draws.llamado (.ipv4 (scenario.address phone)) draws.duracion)

def callEvents (queue : EventQueue Action) (draws : Draws scenario) (phone : Nat) :
    EventQueue Action :=
  ((queue.schedule draws.duracion (.colgar phone)).schedule 0
    (.descuelga draws.llamado (.ipv4 (scenario.address phone)) draws.duracion)).schedule
      draws.duracion (.cuelga phone)

def callerLeg (s : System) (queue : EventQueue Action) (draws : Draws scenario)
    (event : Event Action) (phone : Nat) : Leg where
  phone := phone
  node := (s.voips phone).node
  helper := s.helpers
  sender := (s.voips phone).emisor (.inetSocket (scenario.address draws.llamado) port)
    (s.voips phone).tamPaquete
  app := s.apps
  start := queue.now
  event := event
  cuelga := ((queue.schedule draws.duracion (.colgar phone)).schedule 0
    (.descuelga draws.llamado (.ipv4 (scenario.address phone)) draws.duracion)).scheduled
      draws.duracion (.cuelga phone)

def calleeLeg (s : System) (queue : EventQueue Action) (event : Event Action) (phone : Nat)
    (destino : Address) : Leg where
  phone := phone
  node := (s.voips phone).node
  helper := s.helpers
  sender := (s.voips phone).emisor destino Voip.defaultPacketSize
  app := s.apps
  start := queue.now
  event := event
  cuelga := (queue.cancel (s.voips phone).proximallamada).scheduled (s.voips phone).duracion
    (.cuelga phone)

theorem mem_callEvents (s : System) (event : Event Action) {other : Event Action} :
    other ∈ (callEvents queue draws phone).pending ↔ other ∈ queue.pending ∨
      other = (newCall queue draws event phone).colgar ∨
      other = (newCall queue draws event phone).descuelga ∨
      other = (callerLeg s queue draws event phone).cuelga := by
  simp only [callEvents, EventQueue.mem_schedule, newCall, callerLeg, or_assoc]

/-- Everything one event can do, with the state it leaves. -/
inductive Transition (scenario : Scenario) (s : System) (queue : EventQueue Action)
    (draws : Draws scenario) (event : Event Action) : System → Prop where
  | start (phone : Nat) (action : event.action = .startApplication phone) :
      Transition scenario s queue draws event { s with
        queue := queue.schedule draws.entreLlamadas (.llama phone)
        voips := Function.update s.voips phone ((s.voips phone).awaiting queue.nextUid) }
  | stop (phone : Nat) (action : event.action = .stopApplication phone) :
      Transition scenario s queue draws event { s with queue }
  | busy (phone : Nat) (action : event.action = .llama phone)
      (busy : (draws.llamado : Nat) ∈ s.central.llamadas) :
      Transition scenario s queue draws event { s with
        queue := queue.schedule draws.entreLlamadas (.llama phone)
        voips := Function.update s.voips phone
          (((s.voips phone).dialling draws.duracion).awaiting queue.nextUid) }
  | setUp (phone : Nat) (action : event.action = .llama phone)
      (free : (draws.llamado : Nat) ∉ s.central.llamadas) :
      Transition scenario s queue draws event {
        queue := callEvents queue draws phone
        central := { s.central with
          llamadas := s.central.llamadas.emplace phone draws.llamado }
        observador := s.observador.actualizarNumLlamadas
          (s.central.llamadas.emplace phone draws.llamado).size
        voips := Function.update s.voips phone
          ((((s.voips phone).dialling draws.duracion).sending s.helpers s.apps).hangingUp
            (queue.nextUid + 1 + 1))
        helpers := s.helpers + 1
        apps := s.apps + 1
        log := { s.log with
          calls := newCall queue draws event phone :: s.log.calls
          legs := callerLeg s queue draws event phone :: s.log.legs } }
  | cuelga (phone : Nat) (action : event.action = .cuelga phone) :
      Transition scenario s queue draws event { s with
        queue := queue.schedule draws.entreLlamadas (.llama phone)
        voips := Function.update s.voips phone
          (((s.voips phone).idle.awaiting queue.nextUid).released)
        log := { s.log with
          stops := (s.voips phone).appc.map (fun app => StopCall.mk app queue.now event) ++
            s.log.stops
          deletes := (s.voips phone).appOnOff.toList.map
            (fun helper => DeleteCall.mk helper event) ++ s.log.deletes } }
  | descuelga (phone : Nat) (destino : Address) (duracion : Nat)
      (action : event.action = .descuelga phone destino duracion) :
      Transition scenario s queue draws event { s with
        queue := (queue.cancel (s.voips phone).proximallamada).schedule
          (s.voips phone).duracion (.cuelga phone)
        voips := Function.update s.voips phone
          (((s.voips phone).sending s.helpers s.apps).answering queue.nextUid)
        helpers := s.helpers + 1
        apps := s.apps + 1
        log := { s.log with
          legs := calleeLeg s queue event phone destino :: s.log.legs } }
  | colgar (llamante : Nat) (action : event.action = .colgar llamante) :
      Transition scenario s queue draws event
        { s with queue, central := s.central.colgar llamante }

/-- A field that an update of one object keeps is kept in every object. -/
theorem update_kept {β : Type} (field : Voip → β) {voips : Nat → Voip} {voip : Voip}
    (kept : field voip = field (voips phone)) (number : Nat) :
    field (Function.update voips phone voip number) = field (voips number) := by
  by_cases same : number = phone
  · subst same
    rw [Function.update_self, kept]
  · rw [Function.update_of_ne same]

theorem llama_busy (busy : (draws.llamado : Nat) ∈ s.central.llamadas) :
    s.llama phone event draws =
      (s.updatePhone phone (·.dialling draws.duracion)).programaLlamada
        phone draws.entreLlamadas := by
  simp only [llama, updatePhone, Central.llamar_busy busy]

/-- A callee that calls nobody is taken for free; its object and its address
are those it registered. -/
theorem llama_free (wellFormed : WellFormed scenario s)
    (free : (draws.llamado : Nat) ∉ s.central.llamadas) :
    s.llama phone event draws =
      { s.updatePhone phone (·.dialling draws.duracion) with
        central := { s.central with llamadas :=
          s.central.llamadas.emplace (s.voips phone).numeroNodo draws.llamado }
        observador := s.observador.actualizarNumLlamadas
          (s.central.llamadas.emplace (s.voips phone).numeroNodo draws.llamado).size
        queue := s.queue.schedule draws.duracion (.colgar (s.voips phone).numeroNodo)
        }.establishCall phone event
          (s.queue.scheduled draws.duracion (.colgar (s.voips phone).numeroNodo))
          draws.llamado draws.llamado (scenario.address draws.llamado) := by
  have objeto := StdMap.index_of_lookup none
    (wellFormed.objects draws.llamado draws.llamado.isLt)
  have direccion := StdMap.index_of_lookup scenario.ns3.emptyAddress
    (wellFormed.addresses draws.llamado draws.llamado.isLt)
  simp only [llama, updatePhone, Function.update_self, Voip.dialling, Central.llamar_free free,
    objeto, direccion, if_neg (scenario.address_ne_zero _)]

theorem step_cases (wellFormed : WellFormed scenario s) (taken : s.step draws = some t) :
    ∃ event queue, EventQueue.Advances s.queue event queue ∧
      Transition scenario s queue draws event t := by
  unfold step at taken
  split at taken
  · cases taken
  · rename_i event queue advanced
    simp only [Option.some.injEq] at taken
    subst taken
    have advances := EventQueue.advance_spec advanced
    refine ⟨event, queue, advances, ?_⟩
    have present : WellFormed scenario { s with queue } :=
      { wellFormed with
        actors := fun other member =>
          wellFormed.actors other ((advances.remaining other).mp member).1
        slot := fun number uid slot => by
          obtain ⟨below, kind⟩ := wellFormed.slot number uid slot
          exact ⟨advances.counter ▸ below, fun other member =>
            kind other ((advances.remaining other).mp member).1⟩ }
    have actor := wellFormed.actors event advances.member
    unfold execute
    split
    · rename_i phone action
      exact .start phone action
    · rename_i phone action
      exact .stop phone action
    · rename_i phone action
      rw [action] at actor
      have number : (s.voips phone).numeroNodo = phone := wellFormed.numbers phone actor
      have direccion : (s.voips phone).IP = scenario.address phone :=
        wellFormed.ips phone actor
      by_cases free : (draws.llamado : Nat) ∈ s.central.llamadas
      · rw [llama_busy (s := { s with queue }) free]
        simp only [programaLlamada, updatePhone, Function.update_self, Function.update_idem]
        exact .busy phone action free
      · rw [llama_free present free]
        have change : Transition scenario s queue draws event _ := .setUp phone action free
        simpa only [number, direccion, establishCall, installSender, updatePhone,
          Function.update_self, Voip.dialling, Voip.emisor, Function.update_idem,
          EventQueue.schedule_now, EventQueue.schedule_nextUid, callEvents, newCall, callerLeg]
          using change
    · rename_i phone action
      simp only [cuelga, programaLlamada, updatePhone, Function.update_self, Function.update_idem]
      exact .cuelga phone action
    · rename_i phone destino duracion action
      simp only [descuelga, cancelaLlamada, installSender, updatePhone, Function.update_self,
        Function.update_idem]
      exact .descuelga phone destino duracion action
    · rename_i llamante action
      exact .colgar llamante action

theorem Transition.frame (change : Transition scenario s queue draws event t) :
    t.central.objetosVoip = s.central.objetosVoip ∧
      t.central.telefonos = s.central.telefonos ∧
      ∀ number, (t.voips number).numeroNodo = (s.voips number).numeroNodo ∧
        (t.voips number).IP = (s.voips number).IP ∧
        (t.voips number).tamPaquete = (s.voips number).tamPaquete := by
  cases change with
  | stop | colgar => exact ⟨rfl, rfl, fun _ => ⟨rfl, rfl, rfl⟩⟩
  | start | busy | setUp | cuelga | descuelga =>
      exact ⟨rfl, rfl, fun number => ⟨update_kept Voip.numeroNodo (by rfl) number,
        update_kept Voip.IP (by rfl) number, update_kept Voip.tamPaquete (by rfl) number⟩⟩

theorem Transition.pending (change : Transition scenario s queue draws event t)
    (actor : event.action.phone < scenario.phones) :
    ∀ other ∈ t.queue.pending, other ∈ queue.pending ∨
      queue.nextUid ≤ other.uid ∧ other.action.phone < scenario.phones := by
  intro other member
  cases change with
  | stop | colgar => exact .inl member
  | start phone action | busy phone action busy | cuelga phone action =>
      rw [action] at actor
      rcases EventQueue.mem_schedule.mp member with old | rfl
      · exact .inl old
      · exact .inr ⟨Nat.le_refl _, actor⟩
  | descuelga phone destino duracion action =>
      rw [action] at actor
      rcases EventQueue.mem_schedule.mp member with old | rfl
      · exact .inl (EventQueue.mem_cancel.mp old).1
      · exact .inr ⟨Nat.le_refl _, actor⟩
  | setUp phone action free =>
      rw [action] at actor
      rcases (mem_callEvents s event).mp member with old | rfl | rfl | rfl
      · exact .inl old
      · exact .inr ⟨Nat.le_refl _, actor⟩
      · exact .inr ⟨Nat.le_succ _, draws.llamado.isLt⟩
      · exact .inr ⟨Nat.le_trans (Nat.le_succ _) (Nat.le_succ _), actor⟩

def Accounted (t : System) (event : Event Action) : Prop :=
  match event.action with
  | .llama phone => (t.voips phone).proximallamada = some event.uid
  | .colgar _ => ∃ call ∈ t.log.calls, call.colgar = event
  | .descuelga _ _ _ => ∃ call ∈ t.log.calls, call.descuelga = event
  | .cuelga _ => ∃ leg ∈ t.log.legs, leg.cuelga = event
  | .startApplication _ | .stopApplication _ => False

theorem Transition.accounted (change : Transition scenario s queue draws event t) :
    ∀ other ∈ t.queue.pending, other ∈ queue.pending ∨ Accounted t other := by
  intro other member
  cases change with
  | stop | colgar => exact .inl member
  | start phone | busy phone | cuelga phone =>
      rcases EventQueue.mem_schedule.mp member with old | rfl
      · exact .inl old
      · refine .inr ?_
        simp only [Accounted, EventQueue.scheduled_action, EventQueue.scheduled_uid,
          Function.update_self]
        rfl
  | descuelga phone destino duracion =>
      rcases EventQueue.mem_schedule.mp member with old | rfl
      · exact .inl (EventQueue.mem_cancel.mp old).1
      · exact .inr ⟨_, List.mem_cons_self, rfl⟩
  | setUp phone =>
      rcases (mem_callEvents s event).mp member with old | rfl | rfl | rfl
      · exact .inl old
      · exact .inr ⟨_, List.mem_cons_self, rfl⟩
      · exact .inr ⟨_, List.mem_cons_self, rfl⟩
      · exact .inr ⟨_, List.mem_cons_self, rfl⟩

theorem Transition.nextUid_le (change : Transition scenario s queue draws event t) :
    queue.nextUid ≤ t.queue.nextUid := by
  cases change with
  | stop | colgar => exact Nat.le_refl _
  | start | busy | cuelga | descuelga => exact Nat.le_succ _
  | setUp => exact Nat.le_trans (Nat.le_succ _) (Nat.le_add_right _ 2)

theorem Transition.now (change : Transition scenario s queue draws event t) :
    t.queue.now = queue.now := by
  cases change <;> rfl

theorem Transition.slot (change : Transition scenario s queue draws event t) (number : Nat) :
    (t.voips number).proximallamada = (s.voips number).proximallamada ∨
      (t.voips number).proximallamada = some queue.nextUid ∧
        ∃ tiempo, t.queue = queue.schedule tiempo (.llama number) := by
  cases change with
  | stop | colgar => exact .inl rfl
  | setUp | descuelga => exact .inl (update_kept Voip.proximallamada (by rfl) number)
  | start phone | busy phone | cuelga phone =>
      by_cases same : number = phone
      · subst same
        refine .inr ⟨?_, _, rfl⟩
        simp only [Function.update_self]
        rfl
      · refine .inl ?_
        simp only [Function.update_of_ne same]

theorem WellFormed.step (wellFormed : WellFormed scenario s) (taken : s.step draws = some t) :
    WellFormed scenario t := by
  obtain ⟨event, queue, advances, change⟩ := step_cases wellFormed taken
  have actor := wellFormed.actors event advances.member
  obtain ⟨objects, addresses, constructed⟩ := change.frame
  constructor
  · intro number inside
    rw [objects, wellFormed.objects number inside]
  · intro number inside
    rw [addresses, wellFormed.addresses number inside]
  · intro number inside
    rw [(constructed number).1, wellFormed.numbers number inside]
  · intro number inside
    rw [(constructed number).2.1, wellFormed.ips number inside]
  · intro other member
    rcases change.pending actor other member with old | ⟨_, inside⟩
    · exact wellFormed.actors other ((advances.remaining other).mp old).1
    · exact inside
  · intro number uid slot
    rcases change.slot number with kept | ⟨assigned, tiempo, scheduled⟩
    · rw [kept] at slot
      obtain ⟨below, kind⟩ := wellFormed.slot number uid slot
      rw [← advances.counter] at below
      refine ⟨Nat.lt_of_lt_of_le below change.nextUid_le, fun other member same => ?_⟩
      rcases change.pending actor other member with old | ⟨fresh, _⟩
      · exact kind other ((advances.remaining other).mp old).1 same
      · omega
    · rw [assigned] at slot
      cases slot
      refine ⟨by rw [scheduled]; exact Nat.lt_succ_self _, fun other member same => ?_⟩
      rw [scheduled] at member
      rcases EventQueue.mem_schedule.mp member with old | rfl
      · exact absurd same (Nat.ne_of_lt (queue.fresh other old))
      · rfl

/-- An event that was scheduled earlier stays pending unless it is the attempt
that an answering phone cancels. -/
theorem Transition.kept (change : Transition scenario s queue draws event t)
    {other : Event Action} (known : other.uid < queue.nextUid) :
    other ∈ t.queue.pending ↔ other ∈ queue.pending ∧
      ∀ phone destino duracion, event.action = .descuelga phone destino duracion →
        some other.uid ≠ (s.voips phone).proximallamada := by
  have later : ∀ {scheduled : Event Action}, queue.nextUid ≤ scheduled.uid →
      other ≠ scheduled := by
    intro scheduled fresh same
    rw [same] at known
    omega
  have attempt : ∀ {delay action}, other ≠ queue.scheduled delay action :=
    later (Nat.le_refl _)
  cases change with
  | stop phone action | colgar phone action =>
      simp [action]
  | start phone action | busy phone action busy | cuelga phone action =>
      simp [action, attempt]
  | setUp phone action free =>
      have hangUp : other ≠ (newCall queue draws event phone).colgar := later (Nat.le_refl _)
      have answer : other ≠ (newCall queue draws event phone).descuelga :=
        later (Nat.le_succ _)
      have ending : other ≠ (callerLeg s queue draws event phone).cuelga :=
        later (Nat.le_add_right _ 2)
      simp only [mem_callEvents s event, hangUp, answer, ending, or_false, action]
      simp
  | descuelga phone destino duracion action =>
      have cancelled : ∀ {delay action},
          other ≠ (queue.cancel (s.voips phone).proximallamada).scheduled delay action :=
        later (Nat.le_refl _)
      simp [action, cancelled]

/-- Only attempts are ever cancelled. -/
theorem step_kept (wellFormed : WellFormed scenario s)
    (advances : EventQueue.Advances s.queue event queue)
    (change : Transition scenario s queue draws event t) {other : Event Action}
    (known : other.uid < s.queue.nextUid)
    (lasting : ∀ phone, other.action ≠ .llama phone) :
    other ∈ t.queue.pending ↔ other ∈ s.queue.pending ∧ other ≠ event := by
  rw [change.kept (advances.counter ▸ known), advances.remaining]
  refine ⟨And.left, fun member => ⟨member, fun phone _ _ _ slot => ?_⟩⟩
  exact lasting phone ((wellFormed.slot phone other.uid slot.symm).2 other member.1 rfl)

def Upcoming (s : System) (condition : Event Action → Prop) : Prop :=
  match s.queue.next? with
  | none => True
  | some event => condition event

instance (s : System) (condition : Event Action → Prop) [DecidablePred condition] :
    Decidable (s.Upcoming condition) :=
  match found : s.queue.next? with
  | none => isTrue (by simp [Upcoming, found])
  | some event => decidable_of_iff (condition event) (by simp [Upcoming, found])

theorem upcoming_iff {condition : Event Action → Prop}
    (advances : EventQueue.Advances s.queue event queue) :
    s.Upcoming condition ↔ condition event := by
  simp only [Upcoming, advances.selected]

theorem WellFormed.constructed (scenario : Scenario) (count : Nat) :
    let s := constructed scenario count
    s.central.objetosVoip.size = count ∧ s.central.telefonos.size = count ∧
      (∀ number < count, s.central.objetosVoip.lookup number = some (some number) ∧
        s.central.telefonos.lookup number = some (scenario.address number) ∧
        (s.voips number).numeroNodo = number ∧
        (s.voips number).IP = scenario.address number) ∧
      (∀ number, count ≤ number → number ∉ s.central.objetosVoip ∧
        number ∉ s.central.telefonos) ∧
      (∀ event ∈ s.queue.pending, event.action.phone < count) ∧
      ∀ number, (s.voips number).proximallamada = none := by
  induction count with
  | zero =>
      simp [System.constructed, Central.new, EventQueue.empty, StdMap.size_empty,
        Finmap.notMem_empty]
      rfl
  | succ phone ih =>
      obtain ⟨objects, addresses, registered, absent, actors, slots⟩ := ih
      obtain ⟨noObject, noAddress⟩ := absent phone (Nat.le_refl _)
      simp only [System.constructed, newVoip, Central.registrar, objects, addresses,
        StdMap.emplace_of_notMem _ noObject, StdMap.emplace_of_notMem _ noAddress]
      refine ⟨?_, ?_, ?_, ?_, ?_, ?_⟩
      · rw [StdMap.size_insert_of_notMem _ noObject, objects]
      · rw [StdMap.size_insert_of_notMem _ noAddress, addresses]
      · intro number inside
        by_cases same : number = phone
        · subst same
          simp [Finmap.lookup_insert]
        · have earlier := registered number (by omega)
          simpa [Finmap.lookup_insert_of_ne _ same, Function.update_of_ne same] using earlier
      · intro number beyond
        obtain ⟨object, address⟩ := absent number (by omega)
        simp only [Finmap.mem_insert, not_or]
        exact ⟨⟨by omega, object⟩, by omega, address⟩
      · intro event member
        simp only [EventQueue.mem_schedule] at member
        rcases member with (old | rfl) | rfl
        · exact Nat.lt_succ_of_lt (actors event old)
        · exact Nat.lt_succ_self _
        · exact Nat.lt_succ_self _
      · intro number
        by_cases same : number = phone
        · subst same
          simp
        · rw [Function.update_of_ne same]
          exact slots number

theorem WellFormed.initial (scenario : Scenario) : WellFormed scenario (initial scenario) := by
  obtain ⟨_, _, registered, _, actors, slots⟩ := WellFormed.constructed scenario scenario.phones
  exact {
    objects := fun number inside => (registered number inside).1
    addresses := fun number inside => (registered number inside).2.1
    numbers := fun number inside => (registered number inside).2.2.1
    ips := fun number inside => (registered number inside).2.2.2
    actors := actors
    slot := fun number uid slot => by
      have empty := slots number
      rw [System.initial, empty] at slot
      cases slot }

/-- Before the first event nothing has been called, and only starts and stops are
pending. -/
structure Untouched (s : System) : Prop where
  calls : s.log.calls = []
  legs : s.log.legs = []
  stops : s.log.stops = []
  deletes : s.log.deletes = []
  entries : s.central.llamadas = ∅
  events : ∀ event ∈ s.queue.pending, ∃ phone,
    event.action = .startApplication phone ∨ event.action = .stopApplication phone
  flags : ∀ number, (s.voips number).ocupado = false
  senders : ∀ number, (s.voips number).appOnOff = none ∧ (s.voips number).appc = []

theorem Untouched.initial (scenario : Scenario) : Untouched (initial scenario) := by
  suffices untouched : ∀ count, Untouched (System.constructed scenario count) from
    untouched scenario.phones
  intro count
  induction count with
  | zero =>
      exact ⟨rfl, rfl, rfl, rfl, rfl, by simp [System.constructed, EventQueue.empty],
        fun _ => rfl, fun _ => ⟨rfl, rfl⟩⟩
  | succ phone ih =>
      refine ⟨ih.calls, ih.legs, ih.stops, ih.deletes, ih.entries, ?_, ?_, ?_⟩
      · intro event member
        simp only [System.constructed, newVoip, EventQueue.mem_schedule] at member
        rcases member with (old | rfl) | rfl
        · exact ih.events event old
        · exact ⟨phone, .inl rfl⟩
        · exact ⟨phone, .inr rfl⟩
      all_goals
        intro number
        by_cases same : number = phone
        · subst same
          simp [System.constructed, newVoip]
        · simp only [System.constructed, newVoip, Function.update_of_ne same]
          first | exact ih.flags number | exact ih.senders number

/-- What every transition keeps, with the slots and the registers in order, every
step of a run keeps. -/
theorem step_invariant {invariant : System → Prop}
    (preserved : ∀ {s t : System} {queue : EventQueue Action} {event : Event Action}
      {draws : Draws scenario}, WellFormed scenario s → invariant s →
      EventQueue.Advances s.queue event queue → Transition scenario s queue draws event t →
      invariant t)
    {before next : System} {draws : Draws scenario}
    (founded : WellFormed scenario before ∧ invariant before)
    (taken : before.step draws = some next) : WellFormed scenario next ∧ invariant next := by
  obtain ⟨wellFormed, holds⟩ := founded
  obtain ⟨event, queue, advances, change⟩ := step_cases wellFormed taken
  exact ⟨wellFormed.step taken, preserved wellFormed holds advances change⟩

/-- The invariant rule of the phones: a condition on the next event that is
exactly what keeps a property is exactly what a whole run needs. -/
theorem throughout_iff_upcoming (background : System → Prop) {property : System → Prop}
    {condition : System → Draws scenario → Event Action → Prop}
    (preserved : ∀ {s t : System} {queue : EventQueue Action} {event : Event Action}
      {draws : Draws scenario}, WellFormed scenario s → background s →
      EventQueue.Advances s.queue event queue → Transition scenario s queue draws event t →
      background t)
    (exactly : ∀ {s t : System} {queue : EventQueue Action} {event : Event Action}
      {draws : Draws scenario}, WellFormed scenario s → background s → property s →
      EventQueue.Advances s.queue event queue → Transition scenario s queue draws event t →
      (property t ↔ condition s draws event))
    (founded : background (System.initial scenario)) (first : property (System.initial scenario))
    {inputs : List (Draws scenario)} {after : System}
    (completed : run System.step (System.initial scenario) inputs = some after) :
    Throughout System.step property (System.initial scenario) inputs ↔
      Stepwise System.step (fun s draws => s.Upcoming (condition s draws))
        (System.initial scenario) inputs := by
  refine throughout_iff_stepwise (fun s => WellFormed scenario s ∧ background s)
    (step_invariant preserved) ?_ ⟨WellFormed.initial scenario, founded⟩ first completed
  intro before draws next ⟨wellFormed, holds⟩ property taken
  obtain ⟨event, queue, advances, change⟩ := step_cases wellFormed taken
  rw [upcoming_iff advances]
  exact exactly wellFormed holds property advances change

end Simvoip.System
