import Simvoip.Main.Prediction

namespace Simvoip.Search

open Simvoip.Data Simvoip.Semantics

variable {D : Type} [Double D] {objetivo : D} {s t : Search D} {qos : D}
  {punto otro : Punto D}

/-! # Which quality of service stands beside which configuration

Here `simular` is the function of the source, which never writes the value it
computes into `resultado`.
-/

omit [Double D] in
/-- The value that `GetQoS` had in the latest simulation of a pair. -/
def medida (s : Search D) (punto : Punto D) : Option D :=
  (s.simulations.find? fun otro =>
    otro.enlaces = punto.enlaces ∧ otro.velocidad = punto.velocidad).map (·.qos)

/-- Once something was simulated, the latest simulation of the pair in `anterior` gave the
value beside it, and so for `resultado` wherever the loops of the two phases are tested. -/
structure Matched (s : Search D) : Prop where
  anterior : s.simulations ≠ [] → medida s s.anterior = some s.anterior.qos
  resultado : s.simulations ≠ [] → (∀ x, s.place ≠ .reparto x) →
    medida s s.resultado = some s.resultado.qos

/-- Every simulation measures zero, and three links at the first speed are the first
configuration that leaves nothing of a prediction. -/
def Unmoved (objetivo : D) (s : Search D) (qos : D) : Prop :=
  match s.place with
  | .faseI => s.resultado.qos < objetivo → qos = Double.ofUint 0
  | .reparto x => ¬ s.Remains x → reparte D s.velocidades x = 3 * s.velocidades.size
  | .faseII => objetivo < s.resultado.qos → qos = Double.ofUint 0
  | .fin => True

instance [DecidableEq D] (objetivo : D) (s : Search D) (qos : D) :
    Decidable (Unmoved objetivo s qos) :=
  match s with
  | ⟨.faseI, _, _, _, _, _⟩ => inferInstanceAs (Decidable (_ → _ = _))
  | ⟨.reparto _, _, _, _, _, _⟩ => inferInstanceAs (Decidable (_ → _ = _))
  | ⟨.faseII, _, _, _, _, _⟩ => inferInstanceAs (Decidable (_ → _ = _))
  | ⟨.fin, _, _, _, _, _⟩ => inferInstanceAs (Decidable True)

/-- The pair that the search begins with. -/
def Inicial (punto : Punto D) : Prop := punto.enlaces = 3 ∧ punto.velocidad = 0

/-- The stored values are zero in every state.  As long as they were measured, FASE I
comes back to the pair that the search begins with. -/
structure Returning (s : Search D) : Prop where
  resultado : s.resultado.qos = Double.ofUint 0
  anterior : s.anterior.qos = Double.ofUint 0
  simulated : ∀ punto ∈ s.faseI, Inicial punto
  early : s.place = .faseI ∨ (∃ x, s.place = .reparto x) → s.faseII = []
  head : s.place = .faseI → Inicial s.resultado
  turning : ∀ x, s.place = .reparto x → Turning s x ∧ Inicial s.anterior ∧ s.faseI ≠ []

theorem Returning.start (velocidades : StdMap UInt8 UInt64) :
    Returning (start velocidades : Search D) where
  resultado := rfl
  anterior := rfl
  simulated := by simp [Search.start]
  early _ := rfl
  head _ := ⟨rfl, rfl⟩
  turning := by simp [Search.start]

omit [Double D] in
theorem medida_congr (links : punto.enlaces = otro.enlaces)
    (speed : punto.velocidad = otro.velocidad) : medida s punto = medida s otro := by
  rw [medida, medida, links, speed]

omit [Double D] in
/-- The latest simulation is the latest of its own pair. -/
theorem medida_latest {earlier : List (Punto D)}
    (latest : s.simulations = { punto with qos } :: earlier) : medida s punto = some qos := by
  rw [medida, latest, List.find?_cons_of_pos (by simp), Option.map_some]

omit [Double D] in
theorem exists_of_medida {value : D} (measured : medida s punto = some value) :
    ∃ otro ∈ s.simulations, otro.enlaces = punto.enlaces ∧ otro.velocidad = punto.velocidad := by
  obtain ⟨otro, found, _⟩ := Option.map_eq_some_iff.mp measured
  have same := List.find?_some found
  rw [decide_eq_true_eq] at same
  exact ⟨otro, List.mem_of_find?_eq_some found, same⟩

/-- Where a distribution ends, the pair was simulated exactly when it is the one that
the search begins with. -/
theorem Returning.ended_iff {x : UInt32} (returning : Returning s) (matched : Matched s)
    (place : s.place = .reparto x) :
    medida s s.resultado = some s.resultado.qos ↔ Inicial s.resultado := by
  obtain ⟨_, before, begun⟩ := returning.turning x place
  have empty := returning.early (.inr ⟨x, place⟩)
  constructor
  · intro measured
    obtain ⟨otro, member, links, speed⟩ := exists_of_medida measured
    rw [simulations, empty, List.nil_append] at member
    obtain ⟨three, first⟩ := returning.simulated otro member
    exact ⟨links.symm.trans three, speed.symm.trans first⟩
  · intro back
    have same : medida s s.resultado = medida s s.anterior :=
      medida_congr (back.1.trans before.1.symm) (back.2.trans before.2.symm)
    rw [same, returning.resultado, ← returning.anterior]
    exact matched.anterior (by simp [simulations, begun])

theorem Returning.inicial_iff {x : UInt32} (returning : Returning s)
    (place : s.place = .reparto x) (ended : ¬ s.Remains x) :
    Inicial s.resultado ↔ reparte D s.velocidades x = 3 * s.velocidades.size := by
  obtain ⟨turning, _, _⟩ := returning.turning x place
  let three : Punto D := { s.resultado with enlaces := 3, velocidad := 0 }
  have rank_three : rank s.velocidades three = 3 * s.velocidades.size := rfl
  rw [turning.ended ended, ← rank_three]
  constructor
  · intro ⟨links, speed⟩
    rw [rank, rank, links, speed]
  · intro same
    have nonempty : three.velocidad.toNat < s.velocidades.size :=
      Nat.zero_lt_of_lt turning.velocidad
    have equal := rank_inj turning.velocidad nonempty same
    rw [Prod.mk.injEq] at equal
    exact equal

theorem matched_step_iff (returning : Returning s) (matched : Matched s)
    (taken : s.step simular objetivo qos = some t) : Matched t ↔ Unmoved objetivo s qos := by
  unfold Search.step at taken
  unfold Unmoved
  cases place : s.place with
  | faseI =>
      rw [place] at taken
      dsimp only at taken ⊢
      split at taken <;> rename_i test <;> simp only [Option.some.injEq] at taken <;> subst taken
      · have latest : (s.acercamiento simular objetivo qos).simulations =
            { s.resultado with qos } :: s.faseI := by
          simp [simulations, acercamiento, returning.early (.inl place)]
        have measured := medida_latest latest
        rw [← returning.resultado, ← Option.some_inj, ← measured]
        constructor
        · exact fun after _ => after.anterior (by simp [acercamiento, simulations])
        · exact fun zero => ⟨fun _ => zero test, fun _ head => absurd rfl (head _)⟩
      · refine iff_of_true ⟨matched.anterior, fun simulated _ => ?_⟩
          fun missed => absurd missed test
        exact matched.resultado simulated (by simp [place])
  | reparto x =>
      rw [place] at taken
      dsimp only at taken ⊢
      obtain ⟨anterior, _, faseI, faseII, next⟩ := reparto_spec taken
      have same : t.simulations = s.simulations := by rw [simulations, faseI, faseII, simulations]
      have kept : t.simulations ≠ [] → medida t t.anterior = some t.anterior.qos := by
        rw [medida, same, anterior]
        exact matched.anterior
      rcases next with ⟨remains, still⟩ | ⟨ended, head, resultado⟩
      · refine iff_of_true ⟨kept, fun _ head => ?_⟩ fun ended => absurd remains ended
        exact absurd (still.trans place) (head _)
      · have simulated : t.simulations ≠ [] := by
          rw [same, simulations]
          exact List.append_ne_nil_of_right_ne_nil _ (returning.turning x place).2.2
        have measured : medida t t.resultado = some t.resultado.qos ↔
            reparte D s.velocidades x = 3 * s.velocidades.size := by
          rw [medida, same, resultado, ← returning.inicial_iff place ended,
            ← returning.ended_iff matched place, medida]
        constructor
        · exact fun after _ => measured.mp (after.resultado simulated (by simp [head]))
        · exact fun back => ⟨kept, fun _ _ => measured.mpr (back ended)⟩
  | faseII =>
      rw [place] at taken
      dsimp only at taken ⊢
      split at taken <;> rename_i test <;> simp only [Option.some.injEq] at taken <;> subst taken
      · have latest : (s.descenso simular qos).simulations =
            { baja s.velocidades s.resultado with qos } :: s.simulations := rfl
        have measured := medida_latest latest
        have zero : (baja s.velocidades s.resultado).qos = Double.ofUint 0 := by
          rw [baja_qos, returning.resultado]
        rw [← zero, ← Option.some_inj, ← measured]
        constructor
        · exact fun after _ => after.anterior (by simp [descenso, simulations])
        · exact fun same => ⟨fun _ => same test, fun _ _ => same test⟩
      · refine iff_of_true ⟨matched.anterior, fun simulated _ => ?_⟩
          fun exceeded => absurd exceeded test
        exact matched.resultado simulated (by simp [place])
  | fin =>
      rw [place] at taken
      cases taken

theorem Returning.step (returning : Returning s) (matched : Matched s)
    (taken : s.step simular objetivo qos = some t) (after : Matched t) : Returning t := by
  have unmoved := (matched_step_iff returning matched taken).mp after
  unfold Search.step at taken
  unfold Unmoved at unmoved
  cases place : s.place with
  | faseI =>
      rw [place] at taken
      dsimp only at taken
      split at taken <;> simp only [Option.some.injEq] at taken <;> subst taken
      · have begun := returning.head place
        refine ⟨returning.resultado, returning.resultado, ?_, fun _ => returning.early (.inl place),
          by simp [acercamiento], fun x _ => ⟨.start ?_ rfl rfl, begun, by simp [acercamiento]⟩⟩
        · simp only [acercamiento, List.forall_mem_cons]
          exact ⟨begun, returning.simulated⟩
        · exact StdMap.size_index_pos _ _ _
      · exact { returning with early := by simp, head := by simp, turning := by simp }
  | reparto x =>
      rw [place] at taken unmoved
      dsimp only at taken unmoved
      obtain ⟨anterior, quality, faseI, faseII, _⟩ := reparto_spec taken
      obtain ⟨turning, before, begun⟩ := returning.turning x place
      have empty := returning.early (.inr ⟨x, place⟩)
      obtain ⟨_, _, _, ⟨still, turning⟩ | ⟨ended, head, resultado⟩⟩ := turning.reparto taken
      · refine ⟨quality.trans returning.resultado, by rw [anterior, returning.anterior],
          by rw [faseI]; exact returning.simulated, fun _ => faseII.trans empty, ?_, ?_⟩
        · intro head
          rw [still, place] at head
          cases head
        · intro y turn
          rw [still, place] at turn
          obtain rfl := Place.reparto.inj turn
          rw [anterior, faseI]
          exact ⟨turning, before, begun⟩
      · refine ⟨quality.trans returning.resultado, by rw [anterior, returning.anterior],
          by rw [faseI]; exact returning.simulated, fun _ => faseII.trans empty, ?_, ?_⟩
        · rw [resultado]
          exact fun _ => (returning.inicial_iff place ended).mpr (unmoved ended)
        · intro y turn
          rw [head] at turn
          cases turn
  | faseII =>
      rw [place] at taken
      dsimp only at taken
      split at taken <;> simp only [Option.some.injEq] at taken <;> subst taken
      · have zero : (baja s.velocidades s.resultado).qos = Double.ofUint 0 := by
          rw [baja_qos, returning.resultado]
        exact ⟨zero, zero, returning.simulated, by simp [descenso, place],
          by simp [descenso, place], by simp [descenso, place]⟩
      · exact { returning with early := by simp, head := by simp, turning := by simp }
  | fin =>
      rw [place] at taken
      cases taken

/-- In a run of the program every stored quality of service was measured by the latest
simulation of the pair beside it exactly when every simulation measures zero and every
prediction that is distributed leads back to three links at the first speed. -/
theorem matched_iff (objetivo : D) (velocidades : StdMap UInt8 UInt64) (values : List D)
    (after : Search D)
    (completed : run (ejecuta objetivo) (start velocidades) values = some after) :
    Throughout (ejecuta objetivo) Matched (start velocidades) values ↔
      Stepwise (ejecuta objetivo) (Unmoved objetivo) (start velocidades) values :=
  throughout_iff_stepwise_along Returning
    (fun returning matched taken => returning.step matched (step_of_ejecuta taken))
    (fun returning matched taken => matched_step_iff returning matched (step_of_ejecuta taken))
    (.start velocidades)
    ⟨by simp [start, simulations], by simp [start, simulations]⟩ completed

/-- The first simulation of FASE II measures one half, and zero stays stored. -/
theorem matched_fails :
    ∃ s, run (ejecuta (-1 : ℚ)) (start oneSpeed) [0, 1 / 2] = some s ∧
      s.place = .faseII ∧ ¬ Matched s := by
  have unequal : ∃ s, run (ejecuta (-1 : ℚ)) (start oneSpeed) [0, 1 / 2] = some s ∧
      s.place = .faseII ∧ s.simulations ≠ [] ∧ medida s s.resultado ≠ some s.resultado.qos :=
    exists_run (by decide +kernel)
  obtain ⟨s, completed, place, simulated, other⟩ := unequal
  exact ⟨s, completed, place,
    fun matched => other (matched.resultado simulated (by simp [place]))⟩

/-- FASE II measures zero with two links and with one. -/
theorem matched_holds :
    ∃ s, run (ejecuta (-1 : ℚ)) (start oneSpeed) [0, 0, 0] = some s ∧
      s.simulations.map (·.enlaces) = [1, 2] ∧
      Throughout (ejecuta (-1 : ℚ)) Matched (start oneSpeed) [0, 0, 0] := by
  have lowered : ∃ s, run (ejecuta (-1 : ℚ)) (start oneSpeed) [0, 0, 0] = some s ∧
      s.simulations.map (·.enlaces) = [1, 2] :=
    exists_run (by decide +kernel)
  obtain ⟨s, completed, links⟩ := lowered
  exact ⟨s, completed, links,
    (matched_iff (-1) oneSpeed [0, 0, 0] s completed).mpr (by decide +kernel)⟩

end Simvoip.Search
