import Simvoip.Main.Reparto

namespace Simvoip.Search

open Simvoip.Data Simvoip.Semantics

variable {D : Type} [Double D] {objetivo qos : D} {s t : Search D} {x : UInt32}
  {velocidades : StdMap UInt8 UInt64} {punto otro : Punto D} {lugar : Nat} {calidades : List D}

/-! # Where the simulations lead

Every iteration of FASE I distributes an `x` that the two latest simulations
determine, and the distribution ends at the first place that leaves nothing of it.  So
the table, the target and the qualities that simulations leave determine every
configuration that is simulated.
-/

/-- `anterior` before the first simulation. -/
def inicio : Punto D where
  enlaces := 0
  velocidad := 0
  qos := Double.ofUint 0

/-- The `x` of an iteration, from the simulation before and its own. -/
def prediccion (objetivo : D) (velocidades : StdMap UInt8 UInt64) (previa actual : Punto D) :
    UInt32 :=
  Double.toUint (objetivo / ((actual.qos - previa.qos) /
    ((capacidad velocidades actual).1 - (capacidad velocidades previa).1)))

/-- The place that FASE I comes to after these simulations, latest first: three links at
the first speed, and then the one that the prediction is distributed to. -/
def siguiente (objetivo : D) (velocidades : StdMap UInt8 UInt64) : List (Punto D) → Nat
  | [] => 3 * velocidades.size
  | actual :: before =>
      reparte D velocidades (prediccion objetivo velocidades (before.headD inicio) actual)

/-- The simulations of FASE I that leave these qualities, latest first. -/
def medidas (objetivo : D) (velocidades : StdMap UInt8 UInt64) : List D → List (Punto D)
  | [] => []
  | qos :: before =>
      let tried := medidas objetivo velocidades before
      puntoEn velocidades (siguiente objetivo velocidades tried) qos :: tried

theorem siguiente_lt (nonempty : 0 < velocidades.size) (tried : List (Punto D)) :
    siguiente objetivo velocidades tried < 256 * velocidades.size := by
  cases tried with
  | nil => exact Nat.mul_lt_mul_of_pos_right (by decide) nonempty
  | cons actual before => exact reparte_lt nonempty

theorem velocidad_medidas (nonempty : 0 < velocidades.size) :
    ∀ punto ∈ medidas objetivo velocidades calidades,
      punto.velocidad.toNat < velocidades.size := by
  induction calidades with
  | nil => simp [medidas]
  | cons qos before ih =>
      rw [medidas, List.forall_mem_cons]
      exact ⟨velocidad_puntoEn nonempty, ih⟩

/-! ## The run -/

/-- What a state knows about the way behind it: FASE I simulated what the qualities lead
to, and every simulation of FASE II went down by one place. -/
structure Followed (objetivo : D) (velocidades : StdMap UInt8 UInt64) (s : Search D) : Prop where
  table : s.velocidades = velocidades
  velocidad : s.resultado.velocidad.toNat < velocidades.size
  faseI : s.faseI = medidas objetivo velocidades (s.faseI.map (·.qos))
  latest : ∀ punto, s.faseII.head? = some punto → punto = s.resultado
  early : s.place = .faseI ∨ (∃ x, s.place = .reparto x) → s.faseII = [] ∧
    s.anterior = s.faseI.headD inicio ∧
      (s.anterior.velocidad = 0 ∨ s.anterior.velocidad ∈ velocidades)
  head : s.place = .faseI → s.resultado.velocidad = 0 ∨ s.resultado.velocidad ∈ velocidades
  turning : ∀ x, s.place = .reparto x →
    Turning s x ∧ siguiente objetivo velocidades s.faseI = reparte D velocidades x
  lower : (∀ x, s.place ≠ .reparto x) →
    rank velocidades s.resultado + s.faseII.length ≡ siguiente objetivo velocidades s.faseI
      [MOD 256 * velocidades.size]

/-- The distribution is about to divide by a rate of zero. -/
def Stuck (s : Search D) : Prop :=
  ∃ x, s.place = .reparto x ∧ (s.velocidades.index s.resultado.velocidad 0).1 = 0

theorem Followed.start (objetivo : D) (nonempty : 0 < velocidades.size) :
    Followed objetivo velocidades (start velocidades) where
  table := rfl
  velocidad := nonempty
  faseI := rfl
  latest := by simp [Search.start]
  early _ := ⟨rfl, rfl, .inl rfl⟩
  head _ := .inl rfl
  turning := by simp [Search.start]
  lower _ := rfl

theorem Followed.acercamiento (followed : Followed objetivo velocidades s)
    (place : s.place = .faseI) :
    Followed objetivo velocidades (s.acercamiento Punto.measured objetivo qos) ∨
      Stuck (s.acercamiento Punto.measured objetivo qos) := by
  obtain ⟨rfl, velocidad, faseI, _, early, head, _, lower⟩ := followed
  obtain ⟨empty, anterior, previa⟩ := early (.inl place)
  by_cases present : (0 : UInt8) ∈ s.velocidades
  · have listed {index : UInt8} (known : index = 0 ∨ index ∈ s.velocidades) :
        (s.velocidades.index index 0).2 = s.velocidades := by
      rcases known with rfl | member
      · exact StdMap.index_of_mem 0 present
      · exact StdMap.index_of_mem 0 member
    have table : (s.acercamiento Punto.measured objetivo qos).velocidades = s.velocidades := by
      simp only [Search.acercamiento, capacidad, Punto.measured, listed (head place),
        listed previa]
    have here : rank s.velocidades s.resultado = siguiente objetivo s.velocidades s.faseI := by
      have same := lower (by simp [place])
      rw [empty, List.length_nil, Nat.add_zero] at same
      exact same.eq_of_lt_of_lt (rank_lt velocidad)
        (siguiente_lt (Nat.zero_lt_of_lt velocidad) _)
    refine .inl ⟨table, Nat.zero_lt_of_lt velocidad, ?_, ?_, ?_, ?_, ?_, ?_⟩
    · have measured : { s.resultado with qos } =
          puntoEn s.velocidades (siguiente objetivo s.velocidades s.faseI) qos := by
        rw [← here, puntoEn_rank velocidad]
      simp only [Search.acercamiento, List.map_cons, medidas, ← faseI]
      rw [measured]
    · simp [Search.acercamiento, empty]
    · exact fun _ => ⟨empty, rfl, head place⟩
    · simp [Search.acercamiento]
    · intro x turn
      refine ⟨.start (table ▸ Nat.zero_lt_of_lt velocidad) rfl rfl, ?_⟩
      obtain rfl := Place.reparto.inj turn
      simp only [Search.acercamiento, siguiente, prediccion, ← anterior, Punto.measured,
        capacidad_capacidad]
    · exact fun turned => absurd rfl (turned _)
  · refine .inr ⟨_, rfl, ?_⟩
    simp only [Search.acercamiento]
    rw [index_capacidad, index_capacidad, StdMap.index_fst, Finmap.lookup_eq_none.mpr present,
      Option.getD_none]

/-- The descent goes down by one place, below the lowest to the highest. -/
theorem Followed.descenso (followed : Followed objetivo velocidades s)
    (place : s.place = .faseII) :
    Followed objetivo velocidades (s.descenso Punto.measured qos) where
  table := followed.table
  velocidad := by
    have lower := velocidad_baja followed.velocidad
    rw [← followed.table] at lower ⊢
    exact lower
  faseI := followed.faseI
  latest := by simp [Search.descenso, Punto.measured]
  early := by simp [Search.descenso, place]
  head := by simp [Search.descenso, place]
  turning := by simp [Search.descenso, place]
  lower _ := by
    have before := followed.lower (by simp [place])
    have below := rank_baja_modEq followed.velocidad
    have same : rank velocidades (s.descenso Punto.measured qos).resultado =
        rank velocidades (baja velocidades s.resultado) := by
      rw [← followed.table]
      rfl
    have longer : (s.descenso Punto.measured qos).faseII.length = 1 + s.faseII.length :=
      Nat.add_comm _ _
    rw [same, longer, ← Nat.add_assoc]
    exact (below.add_right _).trans before

theorem Followed.step (followed : Followed objetivo velocidades s)
    (taken : s.step Punto.measured objetivo qos = some t) :
    Followed objetivo velocidades t ∨ Stuck t := by
  unfold Search.step at taken
  split at taken
  · rename_i place
    split at taken <;> simp only [Option.some.injEq] at taken <;> subst taken
    · exact followed.acercamiento place
    · exact .inl { followed with
        early := by simp
        head := by simp
        turning := by simp
        lower := fun _ => followed.lower (by simp [place]) }
  · rename_i x place
    obtain ⟨anterior, _, faseI, faseII, _⟩ := reparto_spec taken
    obtain ⟨rfl, velocidad, medido, latest, early, _, turning, _⟩ := followed
    obtain ⟨turning, next⟩ := turning x place
    obtain ⟨table, present, inside, goes⟩ := turning.reparto taken
    refine .inl ⟨table, inside, by rw [faseI]; exact medido, ?_, ?_, ?_, ?_, ?_⟩
    · rw [faseII, (early (.inr ⟨x, place⟩)).1]
      simp
    · rw [faseI, faseII, anterior]
      exact fun _ => early (.inr ⟨x, place⟩)
    · intro head
      rcases goes with ⟨same, _⟩ | ⟨_, _, resultado⟩
      · rw [head, place] at same
        cases same
      · rw [resultado]
        exact .inr present
    · intro y turn
      rw [faseI]
      rcases goes with ⟨same, turning⟩ | ⟨_, head, _⟩
      · rw [turn, place] at same
        cases same
        exact ⟨turning, next⟩
      · rw [turn] at head
        cases head
    · intro turned
      rcases goes with ⟨same, _⟩ | ⟨ended, _, resultado⟩
      · exact absurd (same.trans place) (turned x)
      · rw [faseI, faseII, (early (.inr ⟨x, place⟩)).1, resultado, next, turning.ended ended]
        rfl
  · rename_i place
    split at taken <;> simp only [Option.some.injEq] at taken <;> subst taken
    · exact .inl (followed.descenso place)
    · exact .inl { followed with
        early := by simp
        head := by simp
        turning := by simp
        lower := fun _ => followed.lower (by simp [place]) }
  · cases taken

theorem Stuck.step (stuck : Stuck s) : s.step Punto.measured objetivo qos = none := by
  obtain ⟨x, place, none⟩ := stuck
  rw [Search.step, place]
  exact if_pos none

/-- What the qualities determine holds in every state from which a run can go on. -/
theorem followed_of_run (nonempty : 0 < velocidades.size) {values : List D}
    (completed : run (step Punto.measured objetivo) (start velocidades) values = some s) :
    Followed objetivo velocidades s ∨ Stuck s := by
  let known (s : Search D) : Prop := Followed objetivo velocidades s ∨ Stuck s
  have kept : ∀ {before : Search D} {input : D} {next : Search D}, known before →
      before.step Punto.measured objetivo input = some next → known next := by
    rintro before input next (followed | stuck) taken
    · exact followed.step taken
    · rw [stuck.step] at taken
      cases taken
  have begun : known (start velocidades) := .inl (.start objetivo nonempty)
  have reached : known s := run_invariant kept begun completed
  exact reached

end Simvoip.Search
