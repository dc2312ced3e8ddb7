import Mathlib.Data.Rat.Floor
import Mathlib.Order.Lattice.Nat
import Simvoip.Main.Reparto

namespace Simvoip.Search

open Simvoip.Data Simvoip.Semantics

variable {velocidades : StdMap UInt8 UInt64} {k : Nat} {x : UInt32} {objetivo qos medida : ℚ}
  {antes ahora : Nat} {s t after : Search ℚ} {values : List ℚ} {nuevas : List (Punto ℚ)}

/-! # The slope

FASE I divides by a difference of capacities and by the slope that comes out, and
tests neither.
-/

/-- The capacity of a configuration in bits per second, as 64 bits hold it. -/
def bits (velocidades : StdMap UInt8 UInt64) (punto : Punto ℚ) : Nat :=
  (punto.enlaces.toUInt64 * (velocidades.index punto.velocidad 0).1).toNat

/-- The capacities that an iteration compares: of the configuration that is
simulated, and of the one before. -/
def actual (s : Search ℚ) : ℚ := (capacidad s.velocidades s.resultado).1

def previa (s : Search ℚ) : ℚ := (capacidad (capacidad s.velocidades s.resultado).2 s.anterior).1

def pendiente (s : Search ℚ) (qos : ℚ) : ℚ := (qos - s.anterior.qos) / (s.actual - s.previa)

/-- The iteration distributes the target divided by the slope. -/
theorem acercamiento_place (objetivo : ℚ) (s : Search ℚ) (qos : ℚ) :
    (s.acercamiento Punto.measured objetivo qos).place =
      .reparto (Double.toUint (objetivo / s.pendiente qos)) :=
  rfl

/-- In an iteration of FASE I every division is defined, and so is the conversion. -/
def SlopeDefined (objetivo : ℚ) (s : Search ℚ) (qos : ℚ) : Prop :=
  s.place = .faseI → s.resultado.qos < objetivo →
    s.actual ≠ s.previa ∧ s.pendiente qos ≠ 0 ∧
      0 ≤ objetivo / s.pendiente qos ∧ objetivo / s.pendiente qos < 2 ^ 32

/-! ## The capacities of the iterations

They do not depend on what the loop of the distribution does on its way: each is the
capacity of the first configuration that leaves nothing of the `x` before it.
-/

/-- The fastest speed of the table. -/
def mayor (velocidades : StdMap UInt8 UInt64) : Nat := velocidades.keys.sup (tasa velocidades)

/-- The fewest links with which some speed leaves nothing of `x`. -/
def enlacesPara (velocidades : StdMap UInt8 UInt64) (x : Nat) : Nat :=
  (x / mayor velocidades + 999999) / 1000000

/-- The first speed that leaves nothing of `x` with these links. -/
def velocidadPara (velocidades : StdMap UInt8 UInt64) (x : Nat) : Nat :=
  ((List.range velocidades.size).find? fun index =>
    x / tasa velocidades (UInt8.ofNat index) ≤ enlacesPara velocidades x * 1000000).getD 0

/-- The capacity that `x` is distributed to, in bits per second. -/
def capacidadPara (velocidades : StdMap UInt8 UInt64) (x : Nat) : Nat :=
  enlacesPara velocidades x * tasa velocidades (UInt8.ofNat (velocidadPara velocidades x)) % 2 ^ 64

/-- The target divided by the slope between two measurements, as a whole number. -/
def predicha (objetivo : ℚ) (antes : Nat) (medida : ℚ) (ahora : Nat) (qos : ℚ) : Nat :=
  ⌊objetivo / ((qos - medida) / ((ahora : ℚ) / 1000000 - (antes : ℚ) / 1000000))⌋₊

/-- Capacity and quality changed in the same direction, and the quality by enough. -/
def Empinada (objetivo : ℚ) (antes : Nat) (medida : ℚ) (ahora : Nat) (qos : ℚ) : Prop :=
  antes < ahora ∧ medida < qos ∧
      objetivo * ((ahora - antes : Nat) : ℚ) < 2 ^ 32 * 1000000 * (qos - medida) ∨
    ahora < antes ∧ qos < medida ∧
      objetivo * ((antes - ahora : Nat) : ℚ) < 2 ^ 32 * 1000000 * (medida - qos)

instance (objetivo : ℚ) (antes : Nat) (medida : ℚ) (ahora : Nat) (qos : ℚ) :
    Decidable (Empinada objetivo antes medida ahora qos) :=
  inferInstanceAs (Decidable (_ ∧ _ ∧ _ ∨ _ ∧ _ ∧ _))

/-- The qualities that the iterations leave go along with the capacities that these
qualities lead to, from a capacity and a quality that were measured and the capacity
that comes next. -/
def Empinadas (objetivo : ℚ) (velocidades : StdMap UInt8 UInt64) :
    Nat → ℚ → Nat → List ℚ → Prop
  | _, _, _, [] => True
  | antes, medida, ahora, qos :: rest =>
      Empinada objetivo antes medida ahora qos ∧
        Empinadas objetivo velocidades ahora qos
          (capacidadPara velocidades (predicha objetivo antes medida ahora qos)) rest

instance decidableEmpinadas (objetivo : ℚ) (velocidades : StdMap UInt8 UInt64) :
    ∀ antes medida ahora calidades,
      Decidable (Empinadas objetivo velocidades antes medida ahora calidades)
  | _, _, _, [] => inferInstanceAs (Decidable True)
  | antes, medida, ahora, qos :: rest =>
      have := decidableEmpinadas objetivo velocidades ahora qos
        (capacidadPara velocidades (predicha objetivo antes medida ahora qos)) rest
      inferInstanceAs (Decidable (_ ∧ _))

theorem le_mayor {velocidad : UInt8} (member : velocidad ∈ velocidades) :
    tasa velocidades velocidad ≤ mayor velocidades :=
  Finset.le_sup (Finmap.mem_keys.mpr member)

theorem exists_mayor (tabla : Tabla velocidades k) :
    ∃ velocidad ∈ velocidades, tasa velocidades velocidad = mayor velocidades := by
  have first : (0 : UInt8) ∈ velocidades := (tabla.keys 0).mpr tabla.nonempty
  obtain ⟨velocidad, member, same⟩ :=
    Finset.exists_mem_eq_sup velocidades.keys ⟨0, Finmap.mem_keys.mpr first⟩ (tasa velocidades)
  exact ⟨velocidad, Finmap.mem_keys.mp member, same.symm⟩

/-- Where a distribution ends it has taken the fewest links, and with these the first
speed that leaves nothing. -/
theorem repartida (tabla : Tabla velocidades k) (scanned : Scanned velocidades k s)
    (place : s.place = .reparto x) (ended : ¬ s.Remains x) :
    s.resultado.enlaces.toNat = enlacesPara velocidades x.toNat ∧
      s.resultado.velocidad.toNat = velocidadPara velocidades x.toNat := by
  obtain ⟨rfl, inside, _, _, tried⟩ := scanned
  have cabe := not_not.mp (mt remains_iff.mpr ended)
  have small := tabla.small
  have links : s.resultado.enlaces.toNat = enlacesPara s.velocidades x.toNat := by
    have fits : x.toNat / mayor s.velocidades ≤ s.resultado.enlaces.toNat * 1000000 :=
      Nat.le_trans (Nat.div_le_div_left (le_mayor ((tabla.keys _).mpr inside))
        (tabla.positive _ inside)) cabe
    rw [enlacesPara]
    by_cases none : s.resultado.enlaces.toNat = 0
    · generalize x.toNat / mayor s.velocidades = cociente at fits ⊢
      omega
    · -- one link less leaves a remainder at the fastest speed
      obtain ⟨fastest, member, same⟩ := exists_mayor tabla
      have fewer : (s.resultado.enlaces - 1).toNat = s.resultado.enlaces.toNat - 1 := by
        rw [UInt8.toNat_sub_of_le, UInt8.toNat_one]
        rw [UInt8.le_iff_toNat_le, UInt8.toNat_one]
        omega
      have remains := tried x place (s.resultado.enlaces - 1) fastest ((tabla.keys _).mp member)
        (.inl (by rw [UInt8.lt_iff_toNat_lt, fewer]; omega))
      rw [Cabe, fewer, same, Nat.not_le] at remains
      generalize x.toNat / mayor s.velocidades = cociente at fits remains ⊢
      omega
  refine ⟨links, ?_⟩
  have first : (List.range s.velocidades.size).find? (fun index =>
      x.toNat / tasa s.velocidades (UInt8.ofNat index) ≤
        enlacesPara s.velocidades x.toNat * 1000000) = some s.resultado.velocidad.toNat := by
    rw [List.find?_range_eq_some, tabla.size, ← links]
    refine ⟨?_, List.mem_range.mpr inside, fun index before => ?_⟩
    · rw [UInt8.ofNat_toNat]
      exact decide_eq_true cabe
    · have value : (UInt8.ofNat index).toNat = index := by
        rw [UInt8.toNat_ofNat']
        omega
      have remains := tried x place s.resultado.enlaces (UInt8.ofNat index) (by omega)
        (.inr ⟨rfl, by rw [UInt8.lt_iff_toNat_lt, value]; exact before⟩)
      rw [Cabe] at remains
      simp [remains]
  rw [velocidadPara, first, Option.getD_some]

theorem actual_eq (s : Search ℚ) : s.actual = (bits s.velocidades s.resultado : ℚ) / 1000000 :=
  rfl

theorem previa_eq (s : Search ℚ) :
    s.previa = (bits s.velocidades s.anterior : ℚ) / 1000000 := by
  rw [previa, capacidad_capacidad]
  rfl

section

variable {target run rise bound : ℚ}

theorem rising_iff (positive : 0 < target) (forward : 0 < run) :
    rise / run ≠ 0 ∧ 0 ≤ target / (rise / run) ∧ target / (rise / run) < bound ↔
      0 < rise ∧ target * run < bound * rise := by
  rw [div_div_eq_mul_div]
  have grown : 0 < target * run := mul_pos positive forward
  constructor
  · rintro ⟨nonzero, nonneg, small⟩
    have above : 0 < rise := by
      rcases lt_trichotomy rise 0 with falls | flat | rises
      · exact absurd nonneg (not_le.mpr (div_neg_of_pos_of_neg grown falls))
      · exact absurd (by rw [flat, zero_div]) nonzero
      · exact rises
    exact ⟨above, (div_lt_iff₀ above).mp small⟩
  · rintro ⟨above, small⟩
    exact ⟨(div_pos above forward).ne', (div_pos grown above).le, (div_lt_iff₀ above).mpr small⟩

/-- A positive number divided by a slope is defined, not negative and below a bound
exactly when both differences have one sign and the slope is steep enough. -/
theorem slope_iff (positive : 0 < target) :
    run ≠ 0 ∧ rise / run ≠ 0 ∧ 0 ≤ target / (rise / run) ∧ target / (rise / run) < bound ↔
      0 < run ∧ 0 < rise ∧ target * run < bound * rise ∨
        0 < -run ∧ 0 < -rise ∧ target * -run < bound * -rise := by
  rcases lt_trichotomy run 0 with backward | still | forward
  · have turned : 0 < -run := neg_pos.mpr backward
    rw [← neg_div_neg_eq rise run, rising_iff positive turned]
    simp [backward.ne, not_lt.mpr backward.le, turned]
  · simp [still]
  · rw [rising_iff positive forward]
    simp [forward.ne', not_lt.mpr (neg_nonpos.mpr forward.le), forward]

/-- The same in bits per second. -/
theorem megabits_iff {antes ahora : Nat} :
    0 < (ahora : ℚ) / 1000000 - (antes : ℚ) / 1000000 ∧ 0 < rise ∧
        target * ((ahora : ℚ) / 1000000 - (antes : ℚ) / 1000000) < 2 ^ 32 * rise ↔
      antes < ahora ∧ 0 < rise ∧
        target * ((ahora - antes : Nat) : ℚ) < 2 ^ 32 * 1000000 * rise := by
  have million : (0 : ℚ) < 1000000 := by norm_num
  have grows : 0 < (ahora : ℚ) / 1000000 - (antes : ℚ) / 1000000 ↔ antes < ahora := by
    rw [← sub_div, div_pos_iff_of_pos_right million, sub_pos, Nat.cast_lt]
  rw [grows]
  apply and_congr_right
  intro less
  rw [← sub_div, ← mul_div_assoc, div_lt_iff₀ million, Nat.cast_sub less.le, mul_right_comm]

end

theorem slopeDefined_iff (positive : 0 < objetivo) (place : s.place = .faseI)
    (missed : s.resultado.qos < objetivo) : SlopeDefined objetivo s qos ↔
      Empinada objetivo (bits s.velocidades s.anterior) s.anterior.qos
        (bits s.velocidades s.resultado) qos := by
  have apart : s.actual ≠ s.previa ↔ s.actual - s.previa ≠ 0 := sub_ne_zero.symm
  simp only [SlopeDefined, place, missed, forall_const]
  rw [apart, pendiente, slope_iff positive, actual_eq, previa_eq, neg_sub, neg_sub, megabits_iff,
    megabits_iff, sub_pos, sub_pos, Empinada]

/-! ## Along a run -/

/-- The last measurement of FASE I, and the capacity of the next: while `x` is
distributed, the one that it is distributed to. -/
structure Iterated (velocidades : StdMap UInt8 UInt64) (k : Nat) (s : Search ℚ)
    (antes : Nat) (medida : ℚ) (ahora : Nat) : Prop where
  scanned : Scanned velocidades k s
  antes : bits velocidades s.anterior = antes
  medida : s.anterior.qos = medida
  head : s.place = .faseI → bits velocidades s.resultado = ahora
  turning : ∀ x, s.place = .reparto x → capacidadPara velocidades x.toNat = ahora
  early : s.place = .faseI ∨ ∃ x, s.place = .reparto x

theorem bits_eq (velocidades : StdMap UInt8 UInt64) (punto : Punto ℚ) :
    bits velocidades punto =
      punto.enlaces.toNat * tasa velocidades punto.velocidad % 2 ^ 64 := by
  rw [bits, UInt64.toNat_mul, UInt8.toNat_toUInt64, tasa]

/-- A prediction that fits is converted to its whole part. -/
theorem toUint_eq {x : ℚ} (nonneg : 0 ≤ x) (small : x < 2 ^ 32) :
    (Double.toUint x).toNat = ⌊x⌋₊ := by
  have bound : ⌊x⌋₊ < 2 ^ 32 := (Nat.floor_lt nonneg).mpr (by exact_mod_cast small)
  have whole : (x.num / x.den).toNat = ⌊x⌋₊ := by
    rw [← Rat.floor_def', Int.floor_toNat]
  change (UInt32.ofNat (x.num / x.den).toNat).toNat = _
  rw [whole, UInt32.toNat_ofNat', Nat.mod_eq_of_lt bound]

theorem Iterated.acercamiento (tabla : Tabla velocidades k)
    (iterated : Iterated velocidades k s antes medida ahora) (place : s.place = .faseI)
    (missed : s.resultado.qos < objetivo) (defined : SlopeDefined objetivo s qos) :
    Iterated velocidades k (s.acercamiento Punto.measured objetivo qos) ahora qos
      (capacidadPara velocidades (predicha objetivo antes medida ahora qos)) where
  scanned := by
    have taken : s.step Punto.measured objetivo qos =
        some (s.acercamiento Punto.measured objetivo qos) := by
      rw [Search.step, place]
      exact if_pos missed
    exact iterated.scanned.step tabla taken
  antes := iterated.head place
  medida := rfl
  head := by simp [Search.acercamiento]
  turning x turn := by
    obtain ⟨_, _, nonneg, small⟩ := defined place missed
    rw [acercamiento_place, Place.reparto.injEq] at turn
    rw [← turn, toUint_eq nonneg small, pendiente, actual_eq, previa_eq, iterated.medida,
      iterated.scanned.table, iterated.antes, iterated.head place]
    rfl
  early := .inr ⟨_, rfl⟩

theorem Iterated.reparto (tabla : Tabla velocidades k)
    (iterated : Iterated velocidades k s antes medida ahora) (place : s.place = .reparto x)
    (taken : s.reparto x = some t) (scanned : Scanned velocidades k t) :
    Iterated velocidades k t antes medida ahora := by
  obtain ⟨anterior, _, _, _, next⟩ := reparto_spec taken
  have given := iterated.turning x place
  refine ⟨scanned, ?_, ?_, ?_, ?_, ?_⟩
  · rw [anterior, iterated.antes]
  · rw [anterior, iterated.medida]
  · intro head
    rcases next with ⟨_, still⟩ | ⟨ended, _, resultado⟩
    · rw [head, place] at still
      cases still
    · obtain ⟨links, speed⟩ := repartida tabla iterated.scanned place ended
      rw [bits_eq, resultado, links, ← given, capacidadPara, ← speed, UInt8.ofNat_toNat]
  · intro y turn
    rcases next with ⟨_, still⟩ | ⟨_, head, _⟩
    · rw [still, place] at turn
      cases turn
      exact given
    · rw [head] at turn
      cases turn
  · rcases next with ⟨_, still⟩ | ⟨_, head, _⟩
    · exact .inr ⟨x, still.trans place⟩
    · exact .inl head

section

variable {D : Type} [Double D] {simular : Punto D → D → Punto D} {umbral : D} {u v : Search D}
  {inputs : List D}

/-- The simulations of FASE I are kept. -/
theorem suffix_faseI (completed : run (step simular umbral) u inputs = some v) :
    u.faseI <:+ v.faseI := by
  let grown (w : Search D) : Prop := u.faseI <:+ w.faseI
  have kept : ∀ {before : Search D} {input : D} {next : Search D}, grown before →
      before.step simular umbral input = some next → grown next := by
    intro before input next earlier taken
    refine earlier.trans ?_
    unfold Search.step at taken
    split at taken
    · split at taken <;> simp only [Option.some.injEq] at taken <;> subst taken
      · exact List.suffix_cons _ _
      · exact List.suffix_rfl
    · rw [(reparto_spec taken).2.2.1]
    · split at taken <;> simp only [Option.some.injEq] at taken <;> subst taken
      · exact List.suffix_rfl
      · exact List.suffix_rfl
    · cases taken
  have begun : grown u := List.suffix_rfl
  have reached : grown v := run_invariant kept begun completed
  exact reached

/-- FASE I is over. -/
def Late (u : Search D) : Prop := u.place = .faseII ∨ u.place = .fin

theorem Late.step {input : D} (late : Late u) (taken : u.step simular umbral input = some v) :
    Late v ∧ v.faseI = u.faseI := by
  unfold Search.step at taken
  rcases late with place | place
  · rw [place] at taken
    dsimp only at taken
    split at taken <;> simp only [Option.some.injEq] at taken <;> subst taken
    · exact ⟨.inl place, rfl⟩
    · exact ⟨.inr rfl, rfl⟩
  · rw [place] at taken
    cases taken

theorem Late.run (late : Late u) (completed : run (Search.step simular umbral) u inputs = some v) :
    v.faseI = u.faseI := by
  let passed (w : Search D) : Prop := Late w ∧ w.faseI = u.faseI
  have kept : ∀ {before : Search D} {input : D} {next : Search D}, passed before →
      before.step simular umbral input = some next → passed next := by
    rintro before input next ⟨late, kept⟩ taken
    obtain ⟨later, same⟩ := late.step taken
    exact ⟨later, same.trans kept⟩
  have begun : passed u := ⟨late, rfl⟩
  have reached : passed v := run_invariant kept begun completed
  exact reached.2

end

theorem stepwise_of_late (late : Late s) :
    Stepwise (step Punto.measured objetivo) (SlopeDefined objetivo) s values := by
  refine stepwise_of_invariant (fun late taken => (Late.step late taken).1) ?_ late
  intro before qos late head
  rcases late with place | place
  · rw [place] at head
    cases head
  · rw [place] at head
    cases head

theorem slopes_run (positive : 0 < objetivo) (tabla : Tabla velocidades k)
    (iterated : Iterated velocidades k s antes medida ahora)
    (completed : run (step Punto.measured objetivo) s values = some after)
    (added : after.faseI = nuevas ++ s.faseI) :
    Stepwise (step Punto.measured objetivo) (SlopeDefined objetivo) s values ↔
      Empinadas objetivo velocidades antes medida ahora (nuevas.reverse.map (·.qos)) := by
  induction values generalizing s antes medida ahora nuevas with
  | nil =>
      cases completed
      rw [List.self_eq_append_left.mp added]
      exact Iff.rfl
  | cons qos rest ih =>
      obtain ⟨next, taken, remaining⟩ := run_cons completed
      rw [stepwise_cons taken]
      rcases iterated.early with place | ⟨x, place⟩
      · by_cases missed : s.resultado.qos < objetivo
        · have moved : next = s.acercamiento Punto.measured objetivo qos := by
            rw [Search.step, place] at taken
            exact (Option.some.inj ((if_pos missed).symm.trans taken)).symm
          obtain ⟨later, grown⟩ := suffix_faseI remaining
          have own : next.faseI = { s.resultado with qos } :: s.faseI := by
            rw [moved]
            rfl
          have split : nuevas = later ++ [{ s.resultado with qos }] := by
            rw [added, own, List.append_cons] at grown
            exact (List.append_cancel_right grown).symm
          have defined : SlopeDefined objetivo s qos ↔
              Empinada objetivo antes medida ahora qos := by
            rw [slopeDefined_iff positive place missed, iterated.scanned.table, iterated.antes,
              iterated.medida, iterated.head place]
          rw [split, List.reverse_concat, List.map_cons, Empinadas, ← defined]
          apply and_congr_right
          intro here
          have iterated' := iterated.acercamiento tabla place missed here
          rw [← moved] at iterated'
          exact ih iterated' remaining grown.symm
        · have moved : next = { s with place := .faseII } := by
            rw [Search.step, place] at taken
            exact (Option.some.inj ((if_neg missed).symm.trans taken)).symm
          have late : Late next := by
            rw [moved]
            exact .inl rfl
          have kept : after.faseI = s.faseI := by
            rw [late.run remaining, moved]
          rw [List.self_eq_append_left.mp (kept.symm.trans added)]
          have vacuous : SlopeDefined objetivo s qos := fun _ missed' => absurd missed' missed
          exact iff_of_true ⟨vacuous, stepwise_of_late late⟩ trivial
      · have elsewhere : SlopeDefined objetivo s qos := fun head => by
          rw [place] at head
          cases head
        have turn : s.reparto x = some next := by
          rw [Search.step, place] at taken
          exact taken
        have iterated' := iterated.reparto tabla place turn (iterated.scanned.step tabla taken)
        rw [and_iff_right elsewhere]
        exact ih iterated' remaining (added.trans (by rw [(reparto_spec turn).2.2.1]))

/-- In a run the slope is defined in every iteration of FASE I exactly when the
qualities that its simulations leave rise and fall with the capacities that they lead
to, and by enough: three links at the first speed, and from then on what the whole part
of the target over the slope is distributed to. -/
theorem slopes_iff (objetivo : ℚ) (positive : 0 < objetivo) (velocidades : StdMap UInt8 UInt64)
    (k : Nat) (tabla : Tabla velocidades k) (values : List ℚ) (after : Search ℚ)
    (completed : run (step Punto.measured objetivo) (start velocidades) values = some after) :
    Stepwise (step Punto.measured objetivo) (SlopeDefined objetivo) (start velocidades) values ↔
      Empinadas objetivo velocidades 0 0 (3 * tasa velocidades 0 % 2 ^ 64)
        (after.faseI.reverse.map (·.qos)) := by
  refine slopes_run positive tabla ⟨Scanned.start tabla, ?_, rfl, fun _ => ?_, ?_, .inl rfl⟩
    completed (List.append_nil _).symm
  · simp [bits_eq, start]
  · exact bits_eq velocidades _
  · simp [start]

/-- The first simulation leaves the quality that the search began with. -/
theorem slopes_fail :
    ¬ Stepwise (step Punto.measured (1 : ℚ)) (SlopeDefined 1) (start oneSpeed) [0] := by
  intro ⟨defined, _⟩
  obtain ⟨_, slope, _⟩ := defined rfl (by decide +kernel)
  exact slope (by decide +kernel)

/-- At one bit per second the qualities lead from three links to two and then to five,
which reach the target. -/
theorem slopes_hold :
    ∃ s, run (step Punto.measured (1 : ℚ)) (start slowSpeed)
      [3 / 2000000000000, 0, 0, 0, 13 / 10000000000000, 0, 0, 0, 0, 0, 0, 1] = some s ∧
      s.faseI.map (·.enlaces) = [5, 2, 3] ∧
      Stepwise (step Punto.measured (1 : ℚ)) (SlopeDefined 1) (start slowSpeed)
        [3 / 2000000000000, 0, 0, 0, 13 / 10000000000000, 0, 0, 0, 0, 0, 0, 1] := by
  have measured : ∃ s, run (step Punto.measured (1 : ℚ)) (start slowSpeed)
      [3 / 2000000000000, 0, 0, 0, 13 / 10000000000000, 0, 0, 0, 0, 0, 0, 1] = some s ∧
      s.faseI.map (·.enlaces) = [5, 2, 3] ∧
      Empinadas 1 slowSpeed 0 0 (3 * tasa slowSpeed 0 % 2 ^ 64)
        (s.faseI.reverse.map (·.qos)) :=
    exists_run (by decide +kernel)
  obtain ⟨s, completed, links, steep⟩ := measured
  exact ⟨s, completed, links,
    (slopes_iff 1 (by decide +kernel) slowSpeed 1 (tabla_insert (by decide)) _ s completed).mpr
      steep⟩

end Simvoip.Search
