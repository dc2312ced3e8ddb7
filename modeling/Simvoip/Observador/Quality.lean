import Simvoip.Observador.Matching

namespace Simvoip.Observador

open Simvoip.Data Simvoip.Net Simvoip.Average

/-! # How good the quality can be

The differences of delays keep their sign when they are averaged, so that falling
delays count in favour of the quality.
-/

/-- What one notice does to the averages of the delay and the jitter. -/
inductive AverageChange (o t : Observador) : Prop where
  | kept (jitter : t.jitter = o.jitter) (retardo : t.retardo = o.retardo)
      (recibidos : t.recibidos = o.recibidos)
  | received (jitter : t.jitter = o.jitter ∨ ∃ variation, t.jitter = o.jitter.update variation)
      (retardo : ∃ delay, t.retardo = o.retardo.update delay)
      (recibidos : t.recibidos = o.recibidos + 1)
  | cleared (jitter : t.jitter = Average.new) (retardo : t.retardo = Average.new)

theorem averageChange_handle (o : Observador) (notice : Notice) :
    AverageChange o (o.handle notice) := by
  cases notice with
  | pktEnviado ahora paquete =>
      rw [handle, pktEnviado]
      split
      · exact .kept rfl rfl rfl
      · exact .kept rfl rfl rfl
  | pktRecibido ahora paquete =>
      rw [handle, pktRecibido]
      split
      · split
        · exact .kept rfl rfl rfl
        · apply AverageChange.received
          · dsimp only
            split
            · exact .inl rfl
            · exact .inr ⟨_, rfl⟩
          · exact ⟨_, rfl⟩
          · rfl
      · exact .kept rfl rfl rfl
  | actualizarNumLlamadas number => exact .kept rfl rfl rfl
  | empiezaTransmitir ahora => exact .kept rfl rfl rfl
  | terminaTransmitir ahora => exact .kept rfl rfl rfl
  | reset => exact .cleared rfl rfl

/-- A mean delay comes with a count of receptions. -/
def Counted (o : Observador) : Prop := o.retardo.mean.isSome → 0 < o.recibidos

theorem counted_handle {o : Observador} (counted : Counted o) (notice : Notice) :
    Counted (o.handle notice) := by
  unfold Counted
  cases averageChange_handle o notice with
  | kept _ retardo recibidos =>
      rw [retardo, recibidos]
      exact counted
  | received _ _ recibidos =>
      rw [recibidos]
      exact fun _ => Nat.succ_pos _
  | cleared _ retardo =>
      rw [retardo]
      intro none
      cases none

theorem counted_observe (notices : List Notice) : Counted (new.observe notices) :=
  List.foldlRecOn notices handle (motive := Counted) (fun none => by cases none)
    fun _ counted notice _ => counted_handle counted notice

/-- The quality without losses, from the means of the jitter and of the delay. -/
def Score.ofMeans : Option ℚ → Option ℚ → Score
  | some jitter, some retardo => .value (1 - (jitter / 100 + retardo / 150) / 3)
  | _, _ => .nan

/-- Whenever there is a mean delay, fewer frames are pending than were sent, and the
integer percentage of lost ones is zero. -/
theorem getQoS_observe (notices : List Notice) :
    (new.observe notices).getQoS.1 = if (new.observe notices).enviados = 0 then .trap
      else .ofMeans (new.observe notices).jitter.mean (new.observe notices).retardo.mean := by
  have counted := counted_observe notices
  have grows := (balance_observe new notices).1
  generalize new.observe notices = o at counted grows ⊢
  rw [balance_new, balance] at grows
  by_cases sent : o.enviados = 0
  · rw [getQoS, if_pos sent]
    exact (if_pos sent).symm
  · rw [getQoS, if_neg sent]
    refine Eq.trans ?_ (if_neg sent).symm
    cases retardo : o.retardo.mean with
    | none => cases o.jitter.mean <;> rfl
    | some mean =>
        have received := counted (by rw [retardo]; rfl)
        have fewer : o.array.size < o.enviados := by omega
        cases o.jitter.mean with
        | none => rfl
        | some mean' =>
            simp [Score.ofMeans, Nat.div_eq_of_lt fewer, PORCENTAJE, JITTER, RETARDO]

/-- A mean delay comes with a frame sent. -/
theorem enviados_ne_zero {notices : List Notice}
    (measured : (new.observe notices).retardo.mean.isSome) :
    (new.observe notices).enviados ≠ 0 := by
  have received := counted_observe notices measured
  have grows := (balance_observe new notices).1
  rw [balance_new, balance] at grows
  omega

theorem getQoS_of_means {notices : List Notice} {jitter retardo : ℚ}
    (mean : (new.observe notices).jitter.mean = some jitter)
    (mean' : (new.observe notices).retardo.mean = some retardo) :
    (new.observe notices).getQoS.1 = .value (1 - (jitter / 100 + retardo / 150) / 3) := by
  rw [getQoS_observe, if_neg (enviados_ne_zero (by rw [mean']; rfl)), mean, mean']
  rfl

/-- With samples in both averages the quality does not exceed 1, and reaches it only
when nothing is pending and every sample is zero. -/
def Bounded (notices : List Notice) : Prop :=
  ∀ qos, (new.observe notices).getQoS.1 = .value qos → qos ≤ 1 ∧
    (qos = 1 → (∀ uid, uid ∉ (new.observe notices).array) ∧
      (∀ delay ∈ delays (transits notices), delay = 0) ∧
      ∀ variation ∈ variations (fun _ => 0) (transits notices), variation = 0)

/-- Every packet sent was received, each within a millisecond. -/
structure Flawless (notices : List Notice) : Prop where
  settled : ∀ uid envio, ¬ Transfer.Outstanding (transfers notices) uid envio
  immediate : ∀ transit ∈ transits notices, transit.2 < 1000

/-- From one packet to the next to its destination, where the earlier took any time,
the delay does not fall on average by two thirds of the mean delay. -/
def Steady (notices : List Notice) : Prop :=
  variations (fun _ => 0) (transits notices) ≠ [] →
    -(2 / 3) * sampleMean (delays (transits notices)) <
        sampleMean (variations (fun _ => 0) (transits notices)) ∨
      Flawless notices

section

variable {memory : Ipv4Address → Int} {list : List (Ipv4Address × Int)}

theorem variations_nil (none : delays list = []) : variations memory list = [] := by
  cases List.map_eq_nil_iff.mp none
  rfl

theorem delay_eq_zero_iff {transit : Int} (nonneg : 0 ≤ transit) :
    (milliSeconds transit : ℚ) = 0 ↔ transit < 1000 := by
  have bounds := milliSeconds_bounds nonneg
  rw [Int.cast_eq_zero]
  omega

theorem milliSeconds_eq_zero {time : Int} (lower : -1000 < time) (upper : time < 1000) :
    milliSeconds time = 0 := by
  rw [milliSeconds]
  by_cases nonneg : 0 ≤ time
  · exact Int.tdiv_eq_zero_of_lt nonneg upper
  · rw [← Int.neg_neg time, Int.neg_tdiv, Int.tdiv_eq_zero_of_lt (by omega) (by omega)]
    rfl

/-- Delays within a millisecond differ by less than one. -/
theorem variations_immediate (remembered : ∀ destino, 0 ≤ memory destino ∧ memory destino < 1000)
    (immediate : ∀ transit ∈ list, 0 ≤ transit.2 ∧ transit.2 < 1000) :
    ∀ variation ∈ variations memory list, variation = 0 := by
  induction list generalizing memory with
  | nil => simp [variations]
  | cons transit rest ih =>
      obtain ⟨destino, transit⟩ := transit
      have now := immediate _ (List.mem_cons_self ..)
      have before := remembered destino
      have later := @ih (Function.update memory destino transit) (fun other => by
        by_cases same : other = destino
        · simpa [same] using now
        · simpa [same] using remembered other)
        fun other member => immediate other (List.mem_cons_of_mem _ member)
      have difference : milliSeconds (transit - memory destino) = 0 :=
        milliSeconds_eq_zero (by omega) (by omega)
      rw [variations]
      intro variation member
      rcases List.mem_append.mp member with first | further
      · split at first
        · cases first
        · rw [List.mem_singleton.mp first, difference, Int.cast_zero]
      · exact later variation further

end

theorem memory_new : new.memory = fun _ => 0 := by
  funext destino
  rw [memory, new, Finmap.lookup_empty]
  rfl

section

variable {notices : List Notice}

theorem quality_traza (traza : Traza notices) (qos : ℚ) :
    (new.observe notices).getQoS.1 = .value qos ↔ variations (fun _ => 0) (transits notices) ≠ [] ∧
      qos = 1 - (sampleMean (variations (fun _ => 0) (transits notices)) / 100 +
        sampleMean (delays (transits notices)) / 150) / 3 := by
  have accounts := accounts_traza traza
  have jitter : (new.observe notices).jitter =
      Average.ofSamples (variations (fun _ => 0) (transits notices)) := by
    rw [accounts.jitter, memory_new]
    rfl
  have retardo : (new.observe notices).retardo = Average.ofSamples (delays (transits notices)) :=
    accounts.retardo
  have mean := congrArg Average.mean jitter
  have mean' := congrArg Average.mean retardo
  rw [Average.mean_ofSamples] at mean mean'
  by_cases varied : variations (fun _ => 0) (transits notices) = []
  · rw [if_pos varied] at mean
    rw [getQoS_observe, mean]
    constructor
    · intro score
      split at score <;> cases score
    · exact fun both => absurd varied both.1
  · rw [if_neg varied] at mean
    rw [if_neg (mt variations_nil varied)] at mean'
    rw [getQoS_of_means mean mean', Score.value.injEq]
    exact ⟨fun same => ⟨varied, same.symm⟩, fun both => both.2.symm⟩

theorem settled_iff (traza : Traza notices) : (∀ uid, uid ∉ (new.observe notices).array) ↔
    ∀ uid envio, ¬ Transfer.Outstanding (transfers notices) uid envio := by
  refine forall_congr' fun uid => ?_
  rw [← Finmap.lookup_eq_none, Option.eq_none_iff_forall_ne_some]
  exact forall_congr' fun envio => not_congr (pending_iff traza uid envio)

theorem Flawless.samples (flawless : Flawless notices) (traza : Traza notices) :
    (∀ delay ∈ delays (transits notices), delay = 0) ∧
      ∀ variation ∈ variations (fun _ => 0) (transits notices), variation = 0 := by
  have nonneg : ∀ transit ∈ transits notices, 0 ≤ transit.2 :=
    fun transit member => transit_nonneg traza.ordered member
  constructor
  · intro delay member
    obtain ⟨transit, listed, rfl⟩ := List.mem_map.mp member
    exact (delay_eq_zero_iff (nonneg transit listed)).mpr (flawless.immediate transit listed)
  · refine variations_immediate (fun _ => by decide) ?_
    intro transit listed
    exact ⟨nonneg transit listed, flawless.immediate transit listed⟩

end

theorem bounded_iff (notices : List Notice) (traza : Traza notices) :
    Bounded notices ↔ Steady notices := by
  simp only [Bounded, Steady, quality_traza traza, settled_iff traza]
  by_cases varied : variations (fun _ => 0) (transits notices) = []
  · exact iff_of_true (fun qos both => absurd varied both.1) fun some => absurd varied some
  · simp only [varied, ne_eq, not_false_eq_true, true_and, forall_eq, forall_const]
    constructor
    · intro ⟨bound, perfect⟩
      by_cases falls : -(2 / 3) * sampleMean (delays (transits notices)) <
          sampleMean (variations (fun _ => 0) (transits notices))
      · exact .inl falls
      · obtain ⟨settled, zero, _⟩ := perfect (by linarith)
        refine .inr ⟨settled, fun transit listed => ?_⟩
        have nonneg := transit_nonneg traza.ordered listed
        exact (delay_eq_zero_iff nonneg).mp (zero _ (List.mem_map_of_mem listed))
    · intro steady
      rcases steady with falls | flawless
      · refine ⟨by linarith, fun perfect => ?_⟩
        exfalso
        linarith
      · obtain ⟨delay, variation⟩ := flawless.samples traza
        rw [sampleMean_eq_zero delay, sampleMean_eq_zero variation]
        exact ⟨by norm_num, fun _ => ⟨flawless.settled, delay, variation⟩⟩

/-- Two packets to one destination, the second of them much faster. -/
def falling : List Notice :=
  [.pktEnviado 0 { uid := 0, tipo := 0x21, destino := 1 },
    .pktRecibido 300000 { uid := 0, tipo := 0x21, destino := 1 },
    .pktEnviado 300000 { uid := 1, tipo := 0x21, destino := 1 },
    .pktRecibido 301000 { uid := 1, tipo := 0x21, destino := 1 }]

theorem bounded_fails : ¬ ∀ notices, Traza notices → Bounded notices := by
  intro bounded
  have traza : Traza falling := ⟨by simp [falling, Notice.instante?], by decide⟩
  have score : (new.observe falling).getQoS.1 = .value (1 - (-299 / 100 + 301 / 300) / 3) := by
    decide +kernel
  have above := (bounded falling traza _ score).1
  norm_num at above

/-- Two packets to one destination, the second of them slower. -/
def rising : List Notice :=
  [.pktEnviado 0 { uid := 0, tipo := 0x21, destino := 1 },
    .pktRecibido 1000 { uid := 0, tipo := 0x21, destino := 1 },
    .pktEnviado 1000 { uid := 1, tipo := 0x21, destino := 1 },
    .pktRecibido 3000 { uid := 1, tipo := 0x21, destino := 1 }]

theorem bounded_rising : Bounded rising := by
  refine (bounded_iff rising ⟨by simp [rising, Notice.instante?], by decide⟩).mpr fun _ => .inl ?_
  decide +kernel

end Simvoip.Observador
