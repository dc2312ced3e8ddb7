import Simvoip.Main.Landing
import Simvoip.Main.Prediction

namespace Simvoip.Search

open Simvoip.Data Simvoip.Semantics

variable {D : Type} [Double D] {objetivo : D} {s t : Search D} {qos : D}
  {velocidades : StdMap UInt8 UInt64}

/-! # What the search reports

Any value may come out of a simulation, and it is left in `resultado`.
-/

/-- The reported configuration was simulated and meets the target, and the one
below it was simulated and does not. -/
structure Optimal (objetivo : D) (s : Search D) : Prop where
  simulated : s.anterior ∈ s.simulations
  meets : objetivo ≤ s.anterior.qos
  minimal : ∀ configuration, debajo s.velocidades s.anterior = some configuration →
    ∃ punto ∈ s.simulations, (punto.enlaces, punto.velocidad) = configuration ∧
      punto.qos < objetivo

/-- What the loops know about the simulations behind them: both variables carry
the latest one, FASE I went on as long as the target was missed, and FASE II as
long as it was exceeded. -/
structure Trace (objetivo : D) (s : Search D) : Prop where
  latest : ∀ last, s.simulations.head? = some last →
    s.anterior = last ∧ s.resultado.qos = last.qos
  missed : ∀ punto ∈ s.faseI.tail, punto.qos < objetivo
  exceeded : ∀ punto ∈ s.faseII.tail, objetivo < punto.qos
  early : s.place = .faseI ∨ (∃ x, s.place = .reparto x) → s.faseII = []
  crossed : s.place = .faseII ∨ s.place = .fin →
    ∀ punto, s.faseI.head? = some punto → ¬ punto.qos < objetivo

theorem Trace.start (objetivo : D) (velocidades : StdMap UInt8 UInt64) :
    Trace objetivo (start velocidades) where
  latest := by simp [Search.start, simulations]
  missed := by simp [Search.start]
  exceeded := by simp [Search.start]
  early := by simp [Search.start]
  crossed := by simp [Search.start]

theorem Trace.head_faseI (trace : Trace objetivo s) (empty : s.faseII = []) {punto : Punto D}
    (head : s.faseI.head? = some punto) : s.resultado.qos = punto.qos := by
  refine (trace.latest punto ?_).2
  rw [simulations, empty, List.nil_append, head]

theorem Trace.step (trace : Trace objetivo s)
    (taken : s.step Punto.measured objetivo qos = some t) : Trace objetivo t := by
  unfold Search.step at taken
  split at taken
  · rename_i place
    have empty := trace.early (.inl place)
    split at taken <;> rename_i test <;> simp only [Option.some.injEq] at taken <;> subst taken
    · constructor
      · intro last head
        simp only [simulations, acercamiento, empty, List.nil_append, List.head?_cons,
          Option.some.injEq] at head
        subst head
        exact ⟨rfl, rfl⟩
      · intro punto member
        simp only [acercamiento, List.tail_cons] at member
        cases simulated : s.faseI with
        | nil => simp [simulated] at member
        | cons head tail =>
            rw [simulated] at member
            rcases List.mem_cons.mp member with rfl | older
            · rw [← trace.head_faseI empty (by rw [simulated]; rfl)]
              exact test
            · exact trace.missed punto (by rw [simulated]; exact older)
      · exact trace.exceeded
      · exact fun _ => empty
      · simp [acercamiento]
    · refine ⟨trace.latest, trace.missed, trace.exceeded, by simp, ?_⟩
      intro _ punto head
      rw [← trace.head_faseI empty head]
      exact test
  · rename_i x place
    obtain ⟨anterior, quality, faseI, faseII, next⟩ := reparto_spec taken
    have empty := trace.early (.inr ⟨x, place⟩)
    constructor
    · rw [simulations, anterior, quality, faseI, faseII]
      exact trace.latest
    · rw [faseI]
      exact trace.missed
    · rw [faseII]
      exact trace.exceeded
    · rw [faseII]
      exact fun _ => empty
    · intro later
      rcases next with ⟨_, same⟩ | ⟨_, first, _⟩
      · simp [same, place] at later
      · simp [first] at later
  · rename_i place
    split at taken <;> rename_i test <;> simp only [Option.some.injEq] at taken <;> subst taken
    · constructor
      · intro last head
        simp only [simulations, descenso, List.cons_append, List.head?_cons,
          Option.some.injEq] at head
        subst head
        exact ⟨rfl, rfl⟩
      · exact trace.missed
      · intro punto member
        simp only [descenso, List.tail_cons] at member
        cases simulated : s.faseII with
        | nil => simp [simulated] at member
        | cons head tail =>
            rw [simulated] at member
            rcases List.mem_cons.mp member with rfl | older
            · rw [← (trace.latest punto (by simp [simulations, simulated])).2]
              exact test
            · exact trace.exceeded punto (by rw [simulated]; exact older)
      · simp [descenso, place]
      · exact fun _ => trace.crossed (.inl place)
    · exact ⟨trace.latest, trace.missed, trace.exceeded, by simp,
        fun _ => trace.crossed (.inl place)⟩
  · cases taken

/-- Only simulations of FASE I before its last one can have missed a target that
the latest simulation meets. -/
theorem Trace.mem_tail_of_missed (trace : Trace objetivo s) (finished : s.place = .fin)
    {last punto : Punto D} (head : s.simulations.head? = some last) (meets : objetivo ≤ last.qos)
    (member : punto ∈ s.simulations) (missed : punto.qos < objetivo) :
    punto ∈ s.faseI.tail := by
  rcases List.mem_append.mp member with second | first
  · cases simulated : s.faseII with
    | nil => simp [simulated] at second
    | cons head' tail =>
        simp only [simulations, simulated, List.cons_append, List.head?_cons,
          Option.some.injEq] at head
        rw [simulated, head] at second
        rcases List.mem_cons.mp second with rfl | older
        · exact absurd missed (Double.not_lt_of_le meets)
        · have above := trace.exceeded punto (by rw [simulated]; exact older)
          exact absurd missed (Double.lt_asymm above)
  · cases simulated : s.faseI with
    | nil => simp [simulated] at first
    | cons head' tail =>
        rw [simulated] at first
        rcases List.mem_cons.mp first with rfl | older
        · exact absurd missed (trace.crossed (.inr finished) punto (by rw [simulated]; rfl))
        · exact older

/-- The report is the last simulation, and only FASE I can have tried what is below. -/
theorem Trace.optimal_iff_tried (trace : Trace objetivo s) (finished : s.place = .fin) :
    Optimal objetivo s ↔
      ∃ last, s.simulations.head? = some last ∧ objetivo ≤ last.qos ∧
        ∀ configuration, debajo s.velocidades last = some configuration →
          ∃ punto ∈ s.faseI.tail, (punto.enlaces, punto.velocidad) = configuration := by
  constructor
  · intro optimal
    cases head : s.simulations.head? with
    | none =>
        rw [List.head?_eq_none_iff] at head
        have simulated := optimal.simulated
        rw [head] at simulated
        cases simulated
    | some last =>
        have reported := (trace.latest last head).1
        have meets := optimal.meets
        rw [reported] at meets
        refine ⟨last, rfl, meets, fun configuration below => ?_⟩
        obtain ⟨punto, member, same, missed⟩ :=
          optimal.minimal configuration (by rw [reported, below])
        exact ⟨punto, trace.mem_tail_of_missed finished head meets member missed, same⟩
  · intro ⟨last, head, meets, tried⟩
    have reported := (trace.latest last head).1
    refine ⟨?_, ?_, ?_⟩
    · rw [reported]
      exact List.mem_of_head? head
    · rw [reported]
      exact meets
    · rw [reported]
      intro configuration below
      obtain ⟨punto, member, same⟩ := tried configuration below
      refine ⟨punto, ?_, same, trace.missed punto member⟩
      exact List.mem_append_right _ (List.mem_of_mem_tail member)

/-- The qualities that the simulations of FASE I and of FASE II leave, latest first,
bring the search to an optimum: the last one meets the target, and the place that lies
the number of the second ones below what the first ones predict is one where it lands on
what the earlier of these led to.  Without second ones it is the last place of FASE I. -/
def Acierta (objetivo : D) (velocidades : StdMap UInt8 UInt64) : List D → List D → Prop
  | primeras, ultima :: resto =>
      let tried := medidas objetivo velocidades primeras
      objetivo ≤ ultima ∧
        Lands velocidades tried.tail (siguiente objetivo velocidades tried) (resto.length + 1)
  | ultima :: primeras, [] =>
      let tried := medidas objetivo velocidades primeras
      objetivo ≤ ultima ∧ Lands velocidades tried (siguiente objetivo velocidades tried) 0
  | [], [] => False

theorem Followed.acierta_iff (followed : Followed objetivo velocidades s)
    (finished : s.place = .fin) :
    (∃ last, s.simulations.head? = some last ∧ objetivo ≤ last.qos ∧
        ∀ configuration, debajo s.velocidades last = some configuration →
          ∃ punto ∈ s.faseI.tail, (punto.enlaces, punto.velocidad) = configuration) ↔
      Acierta objetivo velocidades (s.faseI.map (·.qos)) (s.faseII.map (·.qos)) := by
  have nonempty := Nat.zero_lt_of_lt followed.velocidad
  have lower := followed.lower (by simp [finished])
  have tried := followed.faseI
  rw [followed.table]
  cases second : s.faseII with
  | cons last rest =>
      have reported := followed.latest last (by rw [second, List.head?_cons])
      have listed : ∀ punto ∈ s.faseI.tail, punto.velocidad.toNat < velocidades.size := by
        rw [tried]
        exact fun punto member => velocidad_medidas nonempty punto (List.mem_of_mem_tail member)
      rw [second, List.length_cons, ← reported] at lower
      simp only [simulations, second, List.cons_append, List.head?_cons, Option.some.injEq,
        exists_eq_left', List.map_cons, Acierta, ← tried, List.length_map]
      exact and_congr_right fun _ => lands_iff (reported ▸ followed.velocidad) listed lower
  | nil =>
      cases first : s.faseI with
      | nil => simp [simulations, first, second, Acierta]
      | cons last before =>
          rw [first, List.map_cons, medidas, List.cons.injEq] at tried
          obtain ⟨measured, earlier⟩ := tried
          simp only [simulations, first, second, List.nil_append, List.head?_cons,
            Option.some.injEq, exists_eq_left', List.map_cons, List.map_nil, Acierta, ← earlier,
            List.tail_cons]
          rw [← earlier] at measured
          have inside : last.velocidad.toNat < velocidades.size := by
            rw [measured]
            exact velocidad_puntoEn nonempty
          have listed : ∀ punto ∈ before, punto.velocidad.toNat < velocidades.size := by
            rw [earlier]
            exact velocidad_medidas nonempty
          refine and_congr_right fun _ => lands_iff inside listed ?_
          have here : rank velocidades last = siguiente objetivo velocidades before := by
            rw [measured, rank_puntoEn (siguiente_lt nonempty before)]
          rw [here, Nat.add_zero]

/-- A search that ends reports an optimum exactly when the qualities that its
simulations leave bring it to one.  They are inputs of the run, and with the table and
the target they decide. -/
theorem optimal_iff (objetivo : D) (velocidades : StdMap UInt8 UInt64)
    (nonempty : 0 < velocidades.size) (values : List D) (s : Search D)
    (completed : run (step Punto.measured objetivo) (start velocidades) values = some s)
    (finished : s.place = .fin) :
    Optimal objetivo s ↔
      Acierta objetivo velocidades (s.faseI.map (·.qos)) (s.faseII.map (·.qos)) := by
  have trace : Trace objetivo s :=
    run_invariant Trace.step (Trace.start objetivo velocidades) completed
  rcases followed_of_run nonempty completed with followed | ⟨x, turning, _⟩
  · exact (trace.optimal_iff_tried finished).trans (followed.acierta_iff finished)
  · rw [finished] at turning
    cases turning

/-- FASE I meets the target with its first simulation, and the first simulation of
FASE II falls short of it and is reported. -/
theorem optimal_fails :
    ∃ s, run (step Punto.measured (1 / 2 : ℚ)) (start oneSpeed) [3 / 4, 0, 0, 1 / 4, 0] = some s ∧
      s.place = .fin ∧ ¬ Optimal (1 / 2) s := by
  have short : ∃ s, run (step Punto.measured (1 / 2 : ℚ)) (start oneSpeed)
      [3 / 4, 0, 0, 1 / 4, 0] = some s ∧ s.place = .fin ∧ ¬ (1 / 2 : ℚ) ≤ s.anterior.qos :=
    exists_run (by decide +kernel)
  obtain ⟨s, completed, finished, missed⟩ := short
  exact ⟨s, completed, finished, fun optimal => missed optimal.meets⟩

/-- FASE I misses the target with three links and meets it exactly with the four that it
predicts. -/
theorem optimal_holds :
    ∃ s, run (step Punto.measured (1 : ℚ)) (start slowSpeed)
      [3 / 4000000000000, 0, 0, 0, 0, 0, 1, 0, 0, 0] = some s ∧ s.place = .fin ∧
      (s.anterior.enlaces, s.anterior.velocidad) = (4, 0) ∧ Optimal 1 s := by
  have four : ∃ s, run (step Punto.measured (1 : ℚ)) (start slowSpeed)
      [3 / 4000000000000, 0, 0, 0, 0, 0, 1, 0, 0, 0] = some s ∧ s.place = .fin ∧
      (s.anterior.enlaces, s.anterior.velocidad) = (4, 0) ∧
      s.faseI.map (·.qos) = [1, 3 / 4000000000000] ∧ s.faseII.map (·.qos) = [] :=
    exists_run (by decide +kernel)
  obtain ⟨s, completed, finished, links, primeras, segundas⟩ := four
  refine ⟨s, completed, finished, links,
    (optimal_iff 1 slowSpeed (by decide) _ s completed finished).mpr ?_⟩
  rw [primeras, segundas]
  refine ⟨le_refl _, 4, ?_, .inr ⟨puntoEn slowSpeed 3 (3 / 4000000000000), ?_, ?_⟩⟩
  · decide +kernel
  · decide +kernel
  · decide +kernel

end Simvoip.Search
