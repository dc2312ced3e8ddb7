import Simvoip.Observador.Quality

namespace Simvoip.Observador

open Simvoip.Data Simvoip.Average

/-! # What the quality says of losses

The percentage of lost frames is an integer division, whose quotient is zero as
long as any frame was received.
-/

/-- A frame was sent, and there are samples of the delay and of the jitter. -/
structure Measured (o : Observador) : Prop where
  sent : 0 < o.enviados
  delayed : 0 < o.retardo.size
  varied : 0 < o.jitter.size

theorem measured_iff {o : Observador} :
    Measured o ↔ 0 < o.enviados ∧ 0 < o.retardo.size ∧ 0 < o.jitter.size :=
  ⟨fun measured => ⟨measured.sent, measured.delayed, measured.varied⟩,
    fun all => ⟨all.1, all.2.1, all.2.2⟩⟩

instance (o : Observador) : Decidable (Measured o) := decidable_of_iff _ measured_iff.symm

/-- The quality counts the exact percentage of the frames sent that are pending. -/
def MeasuresLoss (o : Observador) : Prop :=
  ∃ jitter retardo, o.jitter.mean = some jitter ∧ o.retardo.mean = some retardo ∧
    o.getQoS.1 = .value (1 - (100 * (o.array.size : ℚ) / o.enviados / PORCENTAJE +
      jitter / JITTER + retardo / RETARDO) / 3)

/-- With everything else equal, more losses make for a lower quality. -/
def RanksLoss (fewer more : Observador) : Prop :=
  fewer.enviados = more.enviados → fewer.jitter.mean = more.jitter.mean →
    fewer.retardo.mean = more.retardo.mean → fewer.array.size < more.array.size →
    ∃ high low, fewer.getQoS.1 = .value high ∧ more.getQoS.1 = .value low ∧ low < high

/-- Both qualities are exact, and they are in the order of the losses. -/
structure LossExact (one other : Observador) : Prop where
  first : MeasuresLoss one
  second : MeasuresLoss other
  ascending : RanksLoss one other
  descending : RanksLoss other one

/-- Every mean has a sample. -/
def Sampled (o : Observador) : Prop := o.jitter.Sound ∧ o.retardo.Sound

theorem Sampled.handle {o : Observador} (sampled : Sampled o) (notice : Notice) :
    Sampled (o.handle notice) := by
  obtain ⟨varied, delayed⟩ := sampled
  unfold Sampled
  cases averageChange_handle o notice with
  | kept jitter retardo _ =>
      rw [jitter, retardo]
      exact ⟨varied, delayed⟩
  | received jitter retardo _ =>
      obtain ⟨delay, retardo⟩ := retardo
      rw [retardo]
      rcases jitter with same | ⟨variation, jitter⟩
      · rw [same]
        exact ⟨varied, delayed.update delay⟩
      · rw [jitter]
        exact ⟨varied.update variation, delayed.update delay⟩
  | cleared jitter retardo =>
      rw [jitter, retardo]
      exact ⟨sound_new, sound_new⟩

theorem sampled_observe (notices : List Notice) : Sampled (new.observe notices) :=
  List.foldlRecOn notices Observador.handle (motive := Sampled) ⟨sound_new, sound_new⟩
    fun _ sampled notice _ => sampled.handle notice

section

variable {notices : List Notice}

theorem getQoS_measured (measured : Measured (new.observe notices)) :
    ∃ jitter retardo, (new.observe notices).jitter.mean = some jitter ∧
      (new.observe notices).retardo.mean = some retardo ∧
      (new.observe notices).getQoS.1 = .value (1 - (jitter / 100 + retardo / 150) / 3) := by
  obtain ⟨varied, delayed⟩ := sampled_observe notices
  obtain ⟨jitter, mean⟩ := Option.isSome_iff_exists.mp (varied.mpr measured.varied)
  obtain ⟨retardo, mean'⟩ := Option.isSome_iff_exists.mp (delayed.mpr measured.delayed)
  exact ⟨jitter, retardo, mean, mean', getQoS_of_means mean mean'⟩

theorem measuresLoss_iff (measured : Measured (new.observe notices)) :
    MeasuresLoss (new.observe notices) ↔ (new.observe notices).array.size = 0 := by
  obtain ⟨jitter, retardo, mean, mean', quality⟩ := getQoS_measured measured
  have sent : ((new.observe notices).enviados : ℚ) ≠ 0 := Nat.cast_ne_zero.mpr measured.sent.ne'
  constructor
  · rintro ⟨jitter', retardo', same, same', exactly⟩
    cases mean.symm.trans same
    cases mean'.symm.trans same'
    rw [quality, Score.value.injEq] at exactly
    have share : 100 * ((new.observe notices).array.size : ℚ) /
        (new.observe notices).enviados = 0 := by
      simp only [PORCENTAJE, JITTER, RETARDO, Nat.cast_one, Nat.cast_ofNat, div_one] at exactly
      linarith
    simpa [sent] using share
  · intro settled
    refine ⟨jitter, retardo, mean, mean', ?_⟩
    rw [quality, settled]
    simp [PORCENTAJE, JITTER, RETARDO]

end

/-- The qualities of two observers are exact, and in order, exactly when nothing is
pending for either. -/
theorem lossExact_iff (one other : List Notice) (measured : Measured (new.observe one))
    (measured' : Measured (new.observe other)) :
    LossExact (new.observe one) (new.observe other) ↔
      (new.observe one).array.size = 0 ∧ (new.observe other).array.size = 0 := by
  constructor
  · intro exactly
    exact ⟨(measuresLoss_iff measured).mp exactly.first,
      (measuresLoss_iff measured').mp exactly.second⟩
  · intro ⟨settled, settled'⟩
    refine ⟨(measuresLoss_iff measured).mpr settled, (measuresLoss_iff measured').mpr settled',
      ?_, ?_⟩
    · intro _ _ _ fewer
      omega
    · intro _ _ _ fewer
      omega

/-- Of three frames the first two are received, to one destination. -/
def lossy : List Notice :=
  [.pktEnviado 0 { uid := 0, tipo := 0x21, destino := 1 },
    .pktRecibido 1000 { uid := 0, tipo := 0x21, destino := 1 },
    .pktEnviado 1000 { uid := 1, tipo := 0x21, destino := 1 },
    .pktRecibido 4000 { uid := 1, tipo := 0x21, destino := 1 },
    .pktEnviado 4000 { uid := 2, tipo := 0x21, destino := 2 }]

/-- The third is received too. -/
def lossless : List Notice :=
  lossy ++ [.pktRecibido 6000 { uid := 2, tipo := 0x21, destino := 2 }]

theorem lossExact_fails :
    Measured (new.observe lossless) ∧ Measured (new.observe lossy) ∧
      ¬ MeasuresLoss (new.observe lossy) ∧
      ¬ RanksLoss (new.observe lossless) (new.observe lossy) := by
  refine ⟨by decide +kernel, by decide +kernel, ?_, ?_⟩
  · rintro ⟨jitter, retardo, mean, mean', exactly⟩
    have two : (new.observe lossy).jitter.mean = some 2 := by decide +kernel
    have two' : (new.observe lossy).retardo.mean = some 2 := by decide +kernel
    cases two.symm.trans mean
    cases two'.symm.trans mean'
    revert exactly
    decide +kernel
  · intro ranks
    obtain ⟨high, low, reached, reached', below⟩ := ranks (by decide +kernel) (by decide +kernel)
      (by decide +kernel) (by decide +kernel)
    have same : (new.observe lossless).getQoS.1 = (new.observe lossy).getQoS.1 := by
      decide +kernel
    cases reached.symm.trans (same.trans reached')
    exact lt_irrefl _ below

theorem lossExact_lossless : LossExact (new.observe lossless) (new.observe rising) :=
  (lossExact_iff lossless rising (by decide +kernel) (by decide +kernel)).mpr
    ⟨by decide +kernel, by decide +kernel⟩

end Simvoip.Observador
