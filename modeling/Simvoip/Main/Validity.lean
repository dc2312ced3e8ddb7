import Simvoip.Main.Reparto

namespace Simvoip.Search

open Simvoip.Data Simvoip.Semantics

variable {D : Type} [Double D] [ExactTest D] {objetivo : D} {s t : Search D} {qos : D}
  {x : UInt32} {velocidades : StdMap UInt8 UInt64} {k : Nat}

/-! # Which configurations are simulated

`simular` reads the trunk devices of the first link and the speed under the index
it is given, so it needs a link and an index of the table.
-/

/-- The next simulation has a link and a speed of the table, and the decrement
before it does not wrap. -/
structure Valid (velocidades : StdMap UInt8 UInt64) (objetivo : D) (s : Search D) : Prop where
  enlaces : ∀ punto, s.llamada objetivo = some punto → 1 ≤ punto.enlaces
  velocidad : ∀ punto, s.llamada objetivo = some punto → punto.velocidad ∈ velocidades
  noWrap : s.place = .faseII → objetivo < s.resultado.qos → s.resultado.velocidad = 0 →
    s.resultado.enlaces ≠ 0

/-- A configuration that can be lowered: it has a link, and is not the single link
at the slowest speed. -/
def Lowerable (punto : Punto D) : Prop :=
  punto.enlaces ≠ 0 ∧ (punto.velocidad = 0 → punto.enlaces ≠ 1)

omit [Double D] [ExactTest D] in
instance (punto : Punto D) : Decidable (Lowerable punto) :=
  inferInstanceAs (Decidable (_ ∧ _))

/-- A prediction that falls short of the target exceeds every speed of the table,
and only lowerable configurations are lowered. -/
def Sound (objetivo : D) (s : Search D) (qos : D) : Prop :=
  match s.place with
  | .faseI => ¬ s.resultado.qos < objetivo → objetivo < s.resultado.qos → Lowerable s.resultado
  | .reparto x => ¬ s.Remains x → s.resultado.qos < objetivo →
      ∀ velocidad ∈ s.velocidades.keys, tasa s.velocidades velocidad ≤ x.toNat
  | .faseII => objetivo < s.resultado.qos → objetivo < qos →
      Lowerable (baja s.velocidades s.resultado)
  | .fin => True

omit [ExactTest D] in
instance (objetivo : D) (s : Search D) (qos : D) : Decidable (Sound objetivo s qos) :=
  match s with
  | ⟨.faseI, _, _, _, _, _⟩ => inferInstanceAs (Decidable (_ → _ → Lowerable _))
  | ⟨.reparto _, velocidades, _, _, _, _⟩ =>
      inferInstanceAs (Decidable (_ → _ → ∀ velocidad ∈ velocidades.keys, _))
  | ⟨.faseII, _, _, _, _, _⟩ => inferInstanceAs (Decidable (_ → _ → Lowerable _))
  | ⟨.fin, _, _, _, _, _⟩ => inferInstanceAs (Decidable True)

omit [Double D] [ExactTest D] in
theorem lowerable_iff (velocidades : StdMap UInt8 UInt64) {punto : Punto D} : Lowerable punto ↔
    1 ≤ (baja velocidades punto).enlaces ∧ (punto.velocidad = 0 → punto.enlaces ≠ 0) := by
  have bound := punto.enlaces.toNat_lt
  unfold Lowerable baja
  split <;> rename_i slowest <;>
    simp only [slowest, true_implies, false_implies, and_true, ne_eq, ← UInt8.toNat_inj,
      UInt8.le_iff_toNat_le, UInt8.toNat_sub, UInt8.toNat_zero, UInt8.toNat_one] <;>
    omega

omit [ExactTest D] in
theorem valid_faseII_iff (tabla : Tabla s.velocidades k)
    (inside : s.resultado.velocidad.toNat < k) (place : s.place = .faseII) :
    Valid s.velocidades objetivo s ↔ (objetivo < s.resultado.qos → Lowerable s.resultado) := by
  constructor
  · intro valid exceeded
    have call : s.llamada objetivo = some (baja s.velocidades s.resultado) := by
      simp only [llamada, place, exceeded, if_true]
    exact (lowerable_iff _).mpr ⟨valid.enlaces _ call, valid.noWrap place exceeded⟩
  · intro lowerable
    have called : ∀ punto, s.llamada objetivo = some punto →
        objetivo < s.resultado.qos ∧ punto = baja s.velocidades s.resultado := by
      intro punto call
      simp only [llamada, place] at call
      split at call
      · rename_i exceeded
        exact ⟨exceeded, (Option.some.inj call).symm⟩
      · cases call
    refine ⟨fun punto call => ?_, fun punto call => ?_, fun _ exceeded =>
      ((lowerable_iff s.velocidades).mp (lowerable exceeded)).2⟩
    · obtain ⟨exceeded, rfl⟩ := called punto call
      exact ((lowerable_iff _).mp (lowerable exceeded)).1
    · obtain ⟨_, rfl⟩ := called punto call
      exact (tabla.keys _).mpr (tabla.velocidad_baja inside)

omit [ExactTest D] in
theorem valid_faseI_iff (inside : s.resultado.velocidad ∈ s.velocidades)
    (place : s.place = .faseI) :
    Valid s.velocidades objetivo s ↔
      (s.resultado.qos < objetivo → 1 ≤ s.resultado.enlaces) := by
  have called : ∀ punto, s.llamada objetivo = some punto ↔
      s.resultado.qos < objetivo ∧ s.resultado = punto := by
    intro punto
    simp only [llamada, place]
    split <;> rename_i test <;> simp [test]
  constructor
  · intro valid missed
    exact valid.enlaces s.resultado ((called _).mpr ⟨missed, rfl⟩)
  · intro linked
    refine ⟨fun punto call => ?_, fun punto call => ?_, by simp [place]⟩
    · obtain ⟨missed, rfl⟩ := (called punto).mp call
      exact linked missed
    · obtain ⟨_, rfl⟩ := (called punto).mp call
      exact inside

omit [ExactTest D] in
theorem valid_of_no_call (none : s.llamada objetivo = none) (place : s.place ≠ .faseII) :
    Valid velocidades objetivo s :=
  ⟨by simp [none], by simp [none], fun second => absurd second place⟩

/-- A distribution ends without a link exactly when some speed exceeds `x`. -/
theorem linked_iff (tabla : Tabla velocidades k) (scanned : Scanned velocidades k s)
    (place : s.place = .reparto x) (ended : ¬ s.Remains x) :
    1 ≤ s.resultado.enlaces ↔
      ∀ velocidad ∈ s.velocidades.keys, tasa s.velocidades velocidad ≤ x.toNat := by
  obtain ⟨rfl, inside, _, _, tried⟩ := scanned
  have cabe := not_not.mp (mt remains_iff.mpr ended)
  constructor
  · intro linked velocidad member
    have index := (tabla.keys velocidad).mp (Finmap.mem_keys.mp member)
    have before : Antes 0 velocidad s.resultado.enlaces s.resultado.velocidad := by
      refine .inl ?_
      rw [UInt8.lt_iff_toNat_lt, UInt8.toNat_zero]
      rw [UInt8.le_iff_toNat_le, UInt8.toNat_one] at linked
      omega
    have left := tried x place 0 velocidad index before
    rw [Cabe, UInt8.toNat_zero, Nat.zero_mul, Nat.le_zero, Nat.div_eq_zero_iff] at left
    omega
  · intro slower
    have below := slower s.resultado.velocidad
      (Finmap.mem_keys.mpr ((tabla.keys _).mpr inside))
    have positive := tabla.positive s.resultado.velocidad inside
    have quotient := Nat.div_pos below positive
    rw [Cabe] at cabe
    rw [UInt8.le_iff_toNat_le, UInt8.toNat_one]
    omega

theorem valid_step_iff (tabla : Tabla velocidades k) (scanned : Scanned velocidades k s)
    (taken : s.step Punto.measured objetivo qos = some t) :
    Valid velocidades objetivo t ↔ Sound objetivo s qos := by
  have after := scanned.step tabla taken
  obtain ⟨rfl, inside, _, _, _⟩ := id scanned
  unfold Search.step at taken
  unfold Sound
  cases place : s.place with
  | faseI =>
      rw [place] at taken
      dsimp only at taken ⊢
      split at taken <;> rename_i test <;> simp only [Option.some.injEq] at taken <;> subst taken
      · refine iff_of_true (valid_of_no_call ?_ ?_) fun missed => absurd test missed
        · simp [llamada, acercamiento]
        · simp [acercamiento]
      · rw [valid_faseII_iff (s := { s with place := .faseII }) tabla inside rfl]
        simp [test]
  | reparto x =>
      rw [place] at taken
      dsimp only at taken ⊢
      rcases reparto_cases tabla inside taken with ⟨remains, _, rfl⟩ | ⟨remains, _, rfl⟩ |
        ⟨ended, rfl⟩
      · refine iff_of_true (valid_of_no_call ?_ ?_) fun ended => absurd remains ended
        · simp [llamada, place]
        · simp [place]
      · refine iff_of_true (valid_of_no_call ?_ ?_) fun ended => absurd remains ended
        · simp [llamada, place]
        · simp [place]
      · rw [valid_faseI_iff (s := { s with place := .faseI }) ((tabla.keys _).mpr inside) rfl,
          ← linked_iff tabla scanned place ended]
        simp [ended]
  | faseII =>
      rw [place] at taken
      dsimp only at taken ⊢
      split at taken <;> rename_i test <;> simp only [Option.some.injEq] at taken <;> subst taken
      · have lowered : Valid s.velocidades objetivo (s.descenso Punto.measured qos) ↔ _ :=
          valid_faseII_iff (s := s.descenso Punto.measured qos) tabla after.velocidad place
        rw [lowered]
        simp [descenso, Punto.measured, test, Lowerable]
      · refine iff_of_true (valid_of_no_call ?_ ?_) fun exceeded => absurd exceeded test
        · simp [llamada]
        · simp
  | fin =>
      rw [place] at taken
      cases taken

/-- In a run every simulation is of a link and a speed that exist, and no
decrement wraps, exactly when every prediction that falls short of the target
exceeds all speeds, and only lowerable configurations are lowered. -/
theorem valid_iff (objetivo : D) (velocidades : StdMap UInt8 UInt64) (k : Nat)
    (tabla : Tabla velocidades k) (values : List D) (after : Search D)
    (completed : run (step Punto.measured objetivo) (start velocidades) values = some after) :
    Throughout (step Punto.measured objetivo) (Valid velocidades objetivo) (start velocidades)
        values ↔
      Stepwise (step Punto.measured objetivo) (Sound objetivo) (start velocidades) values := by
  refine throughout_iff_stepwise (Scanned velocidades k) (Scanned.step tabla)
    (fun scanned _ => valid_step_iff tabla scanned) (Scanned.start tabla) ?_ completed
  refine (valid_faseI_iff (s := start velocidades) ((tabla.keys 0).mpr tabla.nonempty) rfl).mpr
    fun _ => ?_
  simp [start]

/-- Half the target is measured with three links, the prediction is six megabits
per second, and the next simulation has no link at all. -/
theorem valid_fails :
    Tabla oneSpeed 1 ∧ ∃ s, run (step Punto.measured (1 : ℚ)) (start oneSpeed) [1 / 2, 0] = some s ∧
      ¬ Valid oneSpeed 1 s := by
  have unlinked : ∃ s, run (step Punto.measured (1 : ℚ)) (start oneSpeed) [1 / 2, 0] = some s ∧
      s.place = .faseI ∧ s.resultado.qos < 1 ∧ s.resultado.enlaces = 0 :=
    exists_run (by decide +kernel)
  obtain ⟨s, completed, place, missed, none⟩ := unlinked
  refine ⟨tabla_insert (by decide), s, completed, fun valid => ?_⟩
  have linked := valid.enlaces s.resultado (by simp [llamada, place, missed])
  rw [none] at linked
  exact absurd linked (by decide)

/-- At one bit per second a prediction of three is enough for a link. -/
theorem valid_holds :
    Throughout (step Punto.measured (1 : ℚ)) (Valid slowSpeed 1) (start slowSpeed)
      [1 / 1000000, 0, 0, 1, 0, 0] := by
  have ended : ∃ s, run (step Punto.measured (1 : ℚ)) (start slowSpeed)
      [1 / 1000000, 0, 0, 1, 0, 0] = some s ∧ s.place = .faseII :=
    exists_run (by decide +kernel)
  obtain ⟨s, completed, _⟩ := ended
  exact (valid_iff 1 slowSpeed 1 (tabla_insert (by decide)) _ s completed).mpr
    (by decide +kernel)

end Simvoip.Search
