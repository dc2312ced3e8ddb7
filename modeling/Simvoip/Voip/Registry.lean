import Simvoip.Voip.Step

namespace Simvoip.System

open Simvoip.Data Simvoip.Net Simvoip.Semantics

variable {scenario : Scenario} {s t : System} {queue : EventQueue Action}
  {event : Event Action} {draws : Draws scenario} {phone : Nat}

/-! # Numbers, objects and addresses

All phones register before the first event, and a look-up of a number that was
drawn later never misses.
-/

/-- The number that `registrar` returned when the constructor of `object` called it. -/
def registeredNumber (scenario : Scenario) (object : Nat) : Nat :=
  ((constructed scenario object).central.registrar (scenario.address object) object).1

/-- Exactly the phones of the scenario are registered. -/
structure Registered (scenario : Scenario) (s : System) : Prop where
  telefonos : ∀ number, number ∈ s.central.telefonos ↔ number < scenario.phones
  objetos : ∀ number, number ∈ s.central.objetosVoip ↔ number < scenario.phones

/-- The object and the address under a number are those of the phone that was
given this number, and a successful `llamar` hands out both of them without
growing a map. -/
structure Numbered (scenario : Scenario) (s : System) : Prop where
  registered : Registered scenario s
  object : ∀ number < scenario.phones, ∃ object < scenario.phones,
    s.central.objetosVoip.lookup number = some (some object) ∧
      registeredNumber scenario object = number ∧ (s.voips object).numeroNodo = number ∧
      s.central.telefonos.lookup number = some (s.voips object).IP
  llamar : ∀ (observador : Observador) (queue : EventQueue Action) (llamante duracion : Nat),
    ∀ llamado < scenario.phones, llamado ∉ s.central.llamadas →
      let reply := s.central.llamar scenario.ns3 observador queue llamante duracion llamado
      (∃ object, reply.objeto = some object ∧ registeredNumber scenario object = llamado ∧
        reply.direccion = scenario.address object ∧ reply.direccion = (s.voips object).IP) ∧
      reply.central.telefonos = s.central.telefonos ∧
        reply.central.objetosVoip = s.central.objetosVoip

theorem registeredNumber_eq (scenario : Scenario) (object : Nat) :
    registeredNumber scenario object = object :=
  (WellFormed.constructed scenario object).2.1

theorem Registered.step (registered : Registered scenario s)
    (change : Transition scenario s queue draws event t) : Registered scenario t := by
  obtain ⟨objects, addresses, _⟩ := change.frame
  constructor
  · rw [addresses]
    exact registered.telefonos
  · rw [objects]
    exact registered.objetos

theorem Registered.initial (scenario : Scenario) : Registered scenario (initial scenario) := by
  obtain ⟨_, _, present, absent, _⟩ := WellFormed.constructed scenario scenario.phones
  constructor
  · intro number
    by_cases inside : number < scenario.phones
    · exact iff_of_true (Finmap.mem_of_lookup_eq_some (present number inside).2.1) inside
    · exact iff_of_false (absent number (Nat.le_of_not_lt inside)).2 inside
  · intro number
    by_cases inside : number < scenario.phones
    · exact iff_of_true (Finmap.mem_of_lookup_eq_some (present number inside).1) inside
    · exact iff_of_false (absent number (Nat.le_of_not_lt inside)).1 inside

theorem Numbered.of_wellFormed (wellFormed : WellFormed scenario s)
    (registered : Registered scenario s) : Numbered scenario s := by
  refine ⟨registered, ?_, ?_⟩
  · intro number inside
    refine ⟨number, inside, wellFormed.objects number inside, registeredNumber_eq scenario number,
      wellFormed.numbers number inside, ?_⟩
    rw [wellFormed.addresses number inside, wellFormed.ips number inside]
  · intro observador queue llamante duracion llamado inside free
    have object := StdMap.index_of_lookup none (wellFormed.objects llamado inside)
    have address := StdMap.index_of_lookup scenario.ns3.emptyAddress
      (wellFormed.addresses llamado inside)
    simp only [Central.llamar_free free, object, address, and_self, and_true]
    exact ⟨llamado, rfl, registeredNumber_eq scenario llamado, rfl,
      (wellFormed.ips llamado inside).symm⟩

/-- Numbers, objects and addresses belong together in every state of every run. -/
theorem numbered (scenario : Scenario) (inputs : List (Draws scenario)) :
    Throughout step (Numbered scenario) (initial scenario) inputs := by
  have invariant : Throughout step (fun s => WellFormed scenario s ∧ Registered scenario s)
      (initial scenario) inputs := by
    refine throughout_of_invariant (step_invariant ?_)
      ⟨WellFormed.initial scenario, Registered.initial scenario⟩
    intro before next queue event draws _ registered _ change
    exact registered.step change
  exact invariant.mono fun s ⟨wellFormed, registered⟩ =>
    Numbered.of_wellFormed wellFormed registered

end Simvoip.System
