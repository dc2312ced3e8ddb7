import Simvoip.Observador.Loss
import Simvoip.Observador.Reset
import Simvoip.Semantics.Since

namespace Simvoip.Observador

open Simvoip.Data Simvoip.Net Simvoip.Semantics Simvoip.Average

/-! # When the readings are defined

`simular` reads the quality, the jitter and the delay of every simulation, and no
getter looks whether there is anything to read.
-/

/-- Every getter divides by something, and reads means that have samples. -/
structure Readable (o : Observador) : Prop where
  qos : ∃ qos, o.getQoS.1 = .value qos
  jitter : o.getJitter.isSome
  retardo : o.getRetardo.isSome
  ocupacion : ∀ inicio final, inicio < final → (o.getOcupacion inicio final).isSome

/-- The reception of a pending packet whose predecessor to the same destination took
some time. -/
def Compares (earlier : List Notice) : Notice → Prop
  | .pktRecibido _ paquete => paquete.tipo = ipv4Protocol ∧
      (∃ envio, Transfer.Outstanding (transfers earlier) paquete.uid envio) ∧
      remember (fun _ => 0) (transits earlier) paquete.destino ≠ 0
  | _ => False

/-- There was something to measure since the last reset, and the transmissions took
time. -/
structure Eventful (notices : List Notice) : Prop where
  compared : Since Compares (· = .reset) notices
  transmitted : busy 0 notices ≠ 0

/-! ## Resets leave what is pending and what is remembered -/

def unreset (notices : List Notice) : List Notice :=
  notices.filter fun
    | .reset => false
    | _ => true

theorem transfers_unreset (notices : List Notice) :
    transfers (unreset notices) = transfers notices := by
  induction notices with
  | nil => rfl
  | cons notice rest ih =>
      rw [unreset, transfers, transfers] at ih
      cases notice with
      | reset => exact ih
      | _ =>
          simp only [unreset, transfers, List.filter_cons_of_pos, List.filterMap_cons, ih]

/-- Apart from the averages, no notice depends on them. -/
theorem reset_handle (o : Observador) (notice : Notice) :
    (o.reset.handle notice).reset = (o.handle notice).reset := by
  cases notice with
  | pktEnviado ahora paquete =>
      simp only [handle, pktEnviado]
      split
      · rfl
      · rfl
  | pktRecibido ahora paquete =>
      simp only [handle, pktRecibido, reset]
      split
      · split
        · rfl
        · rfl
      · rfl
  | actualizarNumLlamadas number => rfl
  | empiezaTransmitir ahora => rfl
  | terminaTransmitir ahora => rfl
  | reset => rfl

theorem reset_observe {o other : Observador} (same : o.reset = other.reset)
    (notices : List Notice) :
    (o.observe notices).reset = (other.observe (unreset notices)).reset := by
  induction notices generalizing o other with
  | nil => exact same
  | cons notice rest ih =>
      have next : (o.handle notice).reset = (other.handle notice).reset := by
        rw [← reset_handle, same, reset_handle]
      cases notice with
      | reset => exact ih same
      | _ => exact ih next

section

variable {notices : List Notice}

theorem accounts_unreset (notices : List Notice) :
    Accounts new (unreset notices) (new.observe (unreset notices)) := by
  apply accounts_new
  intro notice member same
  rw [same] at member
  cases (List.mem_filter.mp member).2

theorem lookup_observe (uid : Nat) : (new.observe notices).array.lookup uid =
    Transfer.outstanding (transfers notices) uid := by
  have array := congrArg Observador.array (@reset_observe new new rfl notices)
  change (new.observe notices).array = (new.observe (unreset notices)).array at array
  rw [array, (accounts_unreset notices).array uid Finmap.notMem_empty, transfers_unreset]

theorem memory_observe :
    (new.observe notices).memory = remember (fun _ => 0) (transits notices) := by
  have anterior := congrArg arrayTiempoAnterior (@reset_observe new new rfl notices)
  change (new.observe notices).arrayTiempoAnterior =
    (new.observe (unreset notices)).arrayTiempoAnterior at anterior
  have memory : (new.observe notices).memory = (new.observe (unreset notices)).memory := by
    funext destino
    rw [Observador.memory, Observador.memory, anterior]
  rw [memory, (accounts_unreset notices).memory, memory_new, transits, transits,
    transfers_unreset]

theorem pending_observe_iff {uid : Nat} :
    (∃ envio, (new.observe notices).array.lookup uid = some envio) ↔
      ∃ envio, Transfer.Outstanding (transfers notices) uid envio := by
  apply exists_congr
  intro envio
  rw [lookup_observe, Transfer.outstanding_iff]

theorem jitter_pktEnviado (o : Observador) (ahora : Nat) (paquete : Paquete) :
    (o.pktEnviado ahora paquete).jitter = o.jitter := by
  unfold pktEnviado
  split
  · rfl
  · rfl

theorem isSome_jitter_pktRecibido (ahora : Nat) (paquete : Paquete) :
    ((new.observe notices).pktRecibido ahora paquete).jitter.mean.isSome ↔
      Compares notices (.pktRecibido ahora paquete) ∨
        (new.observe notices).jitter.mean.isSome := by
  by_cases matching : paquete.tipo = ipv4Protocol ∧
      ∃ envio, (new.observe notices).array.lookup paquete.uid = some envio
  · obtain ⟨ipv4, envio, found⟩ := matching
    have jitter := (pktRecibido_matched ahora ipv4 found).1.jitter
    have pending := pending_observe_iff.mp ⟨envio, found⟩
    rw [jitter, memory_observe]
    by_cases first : remember (fun _ => 0) (transits notices) paquete.destino = 0
    · simp [Compares, variations, first]
    · have measured := ((sampled_observe notices).1.update
        (milliSeconds (ahora - envio -
          remember (fun _ => 0) (transits notices) paquete.destino))).mpr (Nat.succ_pos _)
      simpa [Compares, variations, first, ipv4, pending] using measured
  · have ignored : paquete.tipo ≠ ipv4Protocol ∨
        (new.observe notices).array.lookup paquete.uid = none := by
      rw [not_and_or, not_exists, ← Option.eq_none_iff_forall_ne_some] at matching
      exact matching
    rw [pending_observe_iff] at matching
    rw [pktRecibido_ignored ahora ignored]
    have never : ¬ Compares notices (.pktRecibido ahora paquete) :=
      fun compares => matching ⟨compares.1, compares.2.1⟩
    simp [never]

/-- The jitter has a sample from the first comparison after a reset on. -/
theorem isSome_jitter_concat (notice : Notice) :
    (new.observe (notices ++ [notice])).jitter.mean.isSome ↔
      Compares notices notice ∨
        ¬ notice = .reset ∧ (new.observe notices).jitter.mean.isSome := by
  rw [observe, List.foldl_append]
  change ((new.observe notices).handle notice).jitter.mean.isSome ↔ _
  cases notice with
  | pktEnviado ahora paquete => simp [handle, jitter_pktEnviado, Compares]
  | pktRecibido ahora paquete => simp [handle, isSome_jitter_pktRecibido]
  | actualizarNumLlamadas number => simp [handle, actualizarNumLlamadas, Compares]
  | empiezaTransmitir ahora => simp [handle, empiezaTransmitir, Compares]
  | terminaTransmitir ahora => simp [handle, terminaTransmitir, Compares]
  | reset => simp [handle, reset, Average.reset, Average.new, Compares]

theorem isSome_jitter_iff : (new.observe notices).jitter.mean.isSome ↔
    Since Compares (· = .reset) notices :=
  @since_iff _ _ _ _ (fun notices => (new.observe notices).jitter.mean.isSome = true)
    (by decide) fun _ notice => isSome_jitter_concat notice

/-- There is no difference of delays without a delay. -/
def Delayed (o : Observador) : Prop := o.jitter.mean.isSome → o.retardo.mean.isSome

theorem delayed_observe (notices : List Notice) : Delayed (new.observe notices) := by
  suffices both : Sampled (new.observe notices) ∧ Delayed (new.observe notices) from both.2
  apply List.foldlRecOn notices handle (motive := fun o => Sampled o ∧ Delayed o)
  · exact ⟨⟨sound_new, sound_new⟩, fun none => none⟩
  rintro o ⟨sampled, delayed⟩ notice _
  refine ⟨sampled.handle notice, ?_⟩
  unfold Delayed
  cases averageChange_handle o notice with
  | kept jitter retardo _ =>
      rw [jitter, retardo]
      exact delayed
  | received _ retardo _ =>
      obtain ⟨delay, retardo⟩ := retardo
      rw [retardo]
      exact fun _ => (sampled.2.update delay).mpr (Nat.succ_pos _)
  | cleared jitter retardo =>
      rw [jitter, retardo]
      exact fun none => none

end

/-- Whatever was observed, the readings are defined exactly when something was
compared since the last reset, and the transmissions took time. -/
theorem readable_iff (notices : List Notice) : Readable (new.observe notices) ↔ Eventful notices := by
  constructor
  · intro readable
    refine ⟨isSome_jitter_iff.mp readable.jitter, fun none => ?_⟩
    have reading := readable.ocupacion 0 1 (by decide)
    rw [getOcupacion, acumulaTiempo_observe, if_pos none] at reading
    cases reading
  · intro eventful
    have jitter := isSome_jitter_iff.mpr eventful.compared
    have retardo := delayed_observe notices jitter
    refine ⟨?_, jitter, retardo, fun inicio final _ => ?_⟩
    · obtain ⟨mean, known⟩ := Option.isSome_iff_exists.mp jitter
      obtain ⟨mean', known'⟩ := Option.isSome_iff_exists.mp retardo
      exact ⟨_, getQoS_of_means known known'⟩
    · rw [getOcupacion, acumulaTiempo_observe, if_neg eventful.transmitted]
      rfl

/-- An observer that was told nothing has nothing to say. -/
theorem readable_fails : ¬ Readable (new.observe []) := by
  intro readable
  obtain ⟨qos, quality⟩ := readable.qos
  have trapped : (new.observe []).getQoS.1 = .trap := rfl
  rw [trapped] at quality
  cases quality

end Simvoip.Observador
