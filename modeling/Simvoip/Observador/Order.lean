import Simvoip.Observador.Conservation
import Simvoip.Observador.Average
import Simvoip.Semantics.Commute

namespace Simvoip

open Simvoip.Data Simvoip.Net Simvoip.Semantics

/-! # What the order of the notices decides

Frames of different packets for different phones may be noticed in any order, and so
may everything that only adds a sample.
-/

namespace Average

variable {samples more : List ℚ} {average : Average}

/-- Averages tell their samples apart by size, maximum and mean only. -/
theorem ofSamples_perm (same : samples.Perm more) : ofSamples samples = ofSamples more := by
  have maximum : ∀ {samples more : List ℚ}, samples.Perm more →
      (ofSamples samples).maximum ≤ (ofSamples more).maximum := by
    intro samples more same
    obtain ⟨nonneg, below⟩ := maximum_ofSamples_le.mp (le_refl (ofSamples more).maximum)
    exact maximum_ofSamples_le.mpr
      ⟨nonneg, fun sample member => below sample (same.subset member)⟩
  apply eq_of_parts
  · rw [size_ofSamples, size_ofSamples, same.length_eq]
  · exact le_antisymm (maximum same) (maximum same.symm)
  · exact (@mean_ofSamples_perm_iff more [] samples same).mpr (.inl rfl)

def OfSamples (average : Average) : Prop := ∃ samples, average = ofSamples samples

theorem OfSamples.update (collected : average.OfSamples) (sample : ℚ) :
    (average.update sample).OfSamples := by
  obtain ⟨samples, rfl⟩ := collected
  exact ⟨samples ++ [sample], ofSamples_concat.symm⟩

theorem OfSamples.update_comm (collected : average.OfSamples) (one other : ℚ) :
    (average.update one).update other = (average.update other).update one := by
  obtain ⟨samples, rfl⟩ := collected
  rw [← ofSamples_concat, ← ofSamples_concat, ← ofSamples_concat, ← ofSamples_concat]
  apply ofSamples_perm
  rw [List.append_assoc, List.append_assoc]
  exact List.Perm.append_left samples (List.Perm.swap other one [])

end Average

namespace Observador

variable {o : Observador} {notice other : Notice}

deriving instance DecidableEq for Notice

/-- Two notices whose order matters: of frames of one packet, of receptions at one
destination, of a reset and a reception, or of the start of a transmission and its
end. -/
def Dependent : Notice → Notice → Prop
  | .pktEnviado _ uno, .pktEnviado _ otro | .pktEnviado _ uno, .pktRecibido _ otro
  | .pktRecibido _ uno, .pktEnviado _ otro =>
      uno.tipo = ipv4Protocol ∧ otro.tipo = ipv4Protocol ∧ uno.uid = otro.uid
  | .pktRecibido _ uno, .pktRecibido _ otro =>
      uno.tipo = ipv4Protocol ∧ otro.tipo = ipv4Protocol ∧
        (uno.uid = otro.uid ∨ uno.destino = otro.destino)
  | .pktRecibido _ paquete, .reset | .reset, .pktRecibido _ paquete =>
      paquete.tipo = ipv4Protocol
  | .empiezaTransmitir _, .empiezaTransmitir _ | .empiezaTransmitir _, .terminaTransmitir _
  | .terminaTransmitir _, .empiezaTransmitir _ => True
  | _, _ => False

theorem Dependent.symm (dependent : Dependent notice other) : Dependent other notice := by
  cases notice <;> cases other <;> simp only [Dependent] at dependent ⊢ <;> grind

/-- When a pending frame was sent. -/
def pendiente (o : Observador) (paquete : Paquete) : Option Nat :=
  if paquete.tipo = ipv4Protocol then o.array.lookup paquete.uid else none

theorem ipv4_of_pendiente {paquete : Paquete} (pending : o.pendiente paquete ≠ none) :
    paquete.tipo = ipv4Protocol := by
  by_contra different
  exact pending (if_neg different)

def entregado (o : Observador) (transit : Int) (paquete : Paquete) : Observador :=
  { o with
    retardo := o.retardo.update (milliSeconds transit)
    jitter :=
      if (o.arrayTiempoAnterior.lookup paquete.destino).getD 0 = 0 then o.jitter
      else o.jitter.update
        (milliSeconds (transit - (o.arrayTiempoAnterior.lookup paquete.destino).getD 0))
    recibidos := o.recibidos + 1
    arrayTiempoAnterior := o.arrayTiempoAnterior.insert paquete.destino transit
    array := o.array.erase paquete.uid }

theorem insert_index {κ β : Type} [DecidableEq κ] (map : StdMap κ β) (key : κ)
    (fallback value : β) : (map.index key fallback).2.insert key value = map.insert key value := by
  rw [StdMap.index]
  cases map.lookup key with
  | some _ => rfl
  | none => exact Finmap.insert_insert map

theorem pktRecibido_eq (o : Observador) (ahora : Nat) (paquete : Paquete) :
    o.pktRecibido ahora paquete = match o.pendiente paquete with
      | none => o
      | some envio => o.entregado (ahora - envio) paquete := by
  rw [pktRecibido, pendiente]
  split
  · cases o.array.lookup paquete.uid with
    | none => rfl
    | some envio =>
        simp only [entregado, insert_index, StdMap.index_fst]
  · rfl

theorem pktEnviado_eq (o : Observador) (ahora : Nat) (paquete : Paquete) :
    o.pktEnviado ahora paquete = { o with
      array := if paquete.tipo = ipv4Protocol then o.array.insert paquete.uid ahora else o.array
      enviados := o.enviados + 1 } := by
  rw [pktEnviado]
  split
  · rfl
  · rfl

/-- Every average of a reachable observer comes from samples. -/
structure OfSamples (o : Observador) : Prop where
  jitter : o.jitter.OfSamples
  retardo : o.retardo.OfSamples
  acNumLlamadas : o.acNumLlamadas.OfSamples

theorem OfSamples.new : OfSamples new := ⟨⟨[], rfl⟩, ⟨[], rfl⟩, ⟨[], rfl⟩⟩

theorem OfSamples.handle (collected : OfSamples o) : OfSamples (o.handle notice) := by
  cases notice with
  | pktEnviado ahora paquete =>
      rw [Observador.handle, pktEnviado_eq]
      exact ⟨collected.jitter, collected.retardo, collected.acNumLlamadas⟩
  | pktRecibido ahora paquete =>
      rw [Observador.handle, pktRecibido_eq]
      cases o.pendiente paquete with
      | none => exact collected
      | some envio =>
          refine ⟨?_, collected.retardo.update _, collected.acNumLlamadas⟩
          simp only [entregado]
          split
          · exact collected.jitter
          · exact collected.jitter.update _
  | actualizarNumLlamadas number =>
      exact ⟨collected.jitter, collected.retardo, collected.acNumLlamadas.update _⟩
  | empiezaTransmitir ahora | terminaTransmitir ahora =>
      exact ⟨collected.jitter, collected.retardo, collected.acNumLlamadas⟩
  | reset => exact ⟨⟨[], rfl⟩, ⟨[], rfl⟩, collected.acNumLlamadas⟩

/-- A notice that neither sends nor delivers the packet, nor looks at what its
reception changes. -/
theorem pktRecibido_comm {ahora : Nat} {paquete : Paquete}
    (kept : (o.handle notice).pendiente paquete = o.pendiente paquete)
    (beside : o.pendiente paquete ≠ none → ∀ transit,
      (o.handle notice).entregado transit paquete = (o.entregado transit paquete).handle notice) :
    (o.handle notice).pktRecibido ahora paquete = (o.pktRecibido ahora paquete).handle notice := by
  rw [pktRecibido_eq, pktRecibido_eq, kept]
  cases pending : o.pendiente paquete with
  | none => rfl
  | some envio => exact beside (by simp [pending]) _

theorem entregado_comm (collected : OfSamples o) {uno otro : Paquete}
    (destinos : uno.destino ≠ otro.destino) (transit transit' : Int) :
    (o.entregado transit uno).entregado transit' otro =
      (o.entregado transit' otro).entregado transit uno := by
  have jitters := collected.jitter.update_comm
  simp only [entregado, Finmap.lookup_insert_of_ne _ destinos,
    Finmap.lookup_insert_of_ne _ (Ne.symm destinos), collected.retardo.update_comm,
    Finmap.insert_insert_of_ne _ destinos, Finmap.erase_erase, mk.injEq, true_and, and_true]
  split <;> split <;> first | rfl | exact jitters _ _

theorem lookup_enviado {ahora : Nat} {uno otro : Paquete}
    (apart : ¬ (uno.tipo = ipv4Protocol ∧ otro.tipo = ipv4Protocol ∧ uno.uid = otro.uid)) :
    (o.pktEnviado ahora uno).pendiente otro = o.pendiente otro := by
  rw [pktEnviado_eq, pendiente, pendiente]
  by_cases ipv4 : otro.tipo = ipv4Protocol
  · rw [if_pos ipv4, if_pos ipv4]
    by_cases ipv4' : uno.tipo = ipv4Protocol
    · have uids : otro.uid ≠ uno.uid := fun same => apart ⟨ipv4', ipv4, same.symm⟩
      simp only [if_pos ipv4', Finmap.lookup_insert_of_ne _ uids]
    · simp only [if_neg ipv4']
  · rw [if_neg ipv4, if_neg ipv4]

theorem pendiente_recibido {ahora : Nat} {uno otro : Paquete}
    (apart : ¬ (uno.tipo = ipv4Protocol ∧ otro.tipo = ipv4Protocol ∧ uno.uid = otro.uid)) :
    (o.pktRecibido ahora uno).pendiente otro = o.pendiente otro := by
  rw [pktRecibido_eq]
  cases pending : o.pendiente uno with
  | none => rfl
  | some envio =>
      have found : o.pendiente uno ≠ none := by simp [pending]
      have ipv4' := ipv4_of_pendiente found
      rw [pendiente, pendiente]
      by_cases ipv4 : otro.tipo = ipv4Protocol
      · have uids : otro.uid ≠ uno.uid := fun same => apart ⟨ipv4', ipv4, same.symm⟩
        rw [if_pos ipv4, if_pos ipv4]
        exact Finmap.lookup_erase_ne uids
      · rw [if_neg ipv4, if_neg ipv4]

/-- What is received commutes with every notice that does not depend on it. -/
theorem recibido_commutes (collected : OfSamples o) {ahora : Nat} {paquete : Paquete}
    (apart : ¬ Dependent (.pktRecibido ahora paquete) notice) :
    (o.handle notice).pktRecibido ahora paquete = (o.pktRecibido ahora paquete).handle notice := by
  cases notice with
  | actualizarNumLlamadas number | empiezaTransmitir ahora' | terminaTransmitir ahora' =>
      exact pktRecibido_comm rfl fun _ _ => rfl
  | reset =>
      have ignored : o.pendiente paquete = none := if_neg apart
      exact pktRecibido_comm rfl fun pending => absurd ignored pending
  | pktEnviado ahora' otro =>
      have other : ¬ (otro.tipo = ipv4Protocol ∧ paquete.tipo = ipv4Protocol ∧
          otro.uid = paquete.uid) := fun ⟨one, two, same⟩ => apart ⟨two, one, same.symm⟩
      refine pktRecibido_comm (lookup_enviado other) fun pending transit => ?_
      have ipv4 := ipv4_of_pendiente pending
      rw [handle, handle, pktEnviado_eq, pktEnviado_eq]
      by_cases ipv4' : otro.tipo = ipv4Protocol
      · have uids : otro.uid ≠ paquete.uid := fun same => other ⟨ipv4', ipv4, same⟩
        simp only [entregado, if_pos ipv4', StdMap.erase_insert_of_ne uids]
      · simp only [entregado, if_neg ipv4']
  | pktRecibido ahora' otro =>
      have other : ¬ (otro.tipo = ipv4Protocol ∧ paquete.tipo = ipv4Protocol ∧
          otro.uid = paquete.uid) := fun ⟨one, two, same⟩ => apart ⟨two, one, .inl same.symm⟩
      have other' : ¬ (paquete.tipo = ipv4Protocol ∧ otro.tipo = ipv4Protocol ∧
          paquete.uid = otro.uid) := fun ⟨one, two, same⟩ => apart ⟨one, two, .inl same⟩
      refine pktRecibido_comm (pendiente_recibido other) fun pending transit => ?_
      have ipv4 := ipv4_of_pendiente pending
      have kept : (o.entregado transit paquete).pendiente otro = o.pendiente otro := by
        rw [pendiente, pendiente]
        by_cases ipv4' : otro.tipo = ipv4Protocol
        · rw [if_pos ipv4', if_pos ipv4']
          exact Finmap.lookup_erase_ne fun same => other ⟨ipv4', ipv4, same⟩
        · rw [if_neg ipv4', if_neg ipv4']
      rw [handle, handle, pktRecibido_eq, pktRecibido_eq, kept]
      cases delivered : o.pendiente otro with
      | none => rfl
      | some envio =>
          have found : o.pendiente otro ≠ none := by simp [delivered]
          have ipv4' := ipv4_of_pendiente found
          have destinos : otro.destino ≠ paquete.destino := fun same =>
            apart ⟨ipv4, ipv4', .inr same.symm⟩
          exact entregado_comm collected destinos _ _

theorem enviado_commutes {ahora : Nat} {paquete : Paquete}
    (apart : ¬ Dependent (.pktEnviado ahora paquete) notice)
    (elsewhere : ∀ ahora paquete, notice ≠ .pktRecibido ahora paquete) :
    (o.handle notice).pktEnviado ahora paquete = (o.pktEnviado ahora paquete).handle notice := by
  cases notice with
  | actualizarNumLlamadas number | empiezaTransmitir ahora' | terminaTransmitir ahora' | reset =>
      rw [pktEnviado_eq, pktEnviado_eq]
      rfl
  | pktRecibido ahora' otro => exact absurd rfl (elsewhere ahora' otro)
  | pktEnviado ahora' otro =>
      rw [handle, handle, pktEnviado_eq, pktEnviado_eq, pktEnviado_eq, pktEnviado_eq]
      by_cases ipv4 : paquete.tipo = ipv4Protocol
      · by_cases ipv4' : otro.tipo = ipv4Protocol
        · have uids : otro.uid ≠ paquete.uid := fun same => apart ⟨ipv4, ipv4', same.symm⟩
          simp only [if_pos ipv4, if_pos ipv4', Finmap.insert_insert_of_ne _ uids]
        · simp only [if_pos ipv4, if_neg ipv4']
      · simp only [if_neg ipv4]

theorem handle_commutes (collected : OfSamples o) (apart : ¬ Dependent notice other) :
    (o.handle notice).handle other = (o.handle other).handle notice := by
  have back : ¬ Dependent other notice := fun dependent => apart dependent.symm
  cases notice with
  | pktRecibido ahora paquete => exact (recibido_commutes collected apart).symm
  | pktEnviado ahora paquete =>
      cases other with
      | pktRecibido ahora' otro => exact recibido_commutes collected back
      | _ => exact (enviado_commutes apart nofun).symm
  | actualizarNumLlamadas number =>
      cases other with
      | pktRecibido ahora' otro => exact recibido_commutes collected back
      | pktEnviado ahora' otro => exact enviado_commutes back nofun
      | actualizarNumLlamadas number' =>
          simp only [handle, actualizarNumLlamadas, collected.acNumLlamadas.update_comm]
      | empiezaTransmitir ahora' | terminaTransmitir ahora' | reset => rfl
  | empiezaTransmitir ahora =>
      cases other with
      | pktRecibido ahora' otro => exact recibido_commutes collected back
      | pktEnviado ahora' otro => exact enviado_commutes back nofun
      | actualizarNumLlamadas number | reset => rfl
      | empiezaTransmitir ahora' | terminaTransmitir ahora' => exact absurd trivial apart
  | terminaTransmitir ahora =>
      cases other with
      | pktRecibido ahora' otro => exact recibido_commutes collected back
      | pktEnviado ahora' otro => exact enviado_commutes back nofun
      | actualizarNumLlamadas number | reset => rfl
      | empiezaTransmitir ahora' => exact absurd trivial apart
      | terminaTransmitir ahora' =>
          simp only [handle, terminaTransmitir, add_right_comm]
  | reset =>
      cases other with
      | pktRecibido ahora' otro => exact recibido_commutes collected back
      | pktEnviado ahora' otro => exact enviado_commutes back nofun
      | actualizarNumLlamadas number | empiezaTransmitir ahora' | terminaTransmitir ahora'
      | reset => rfl

/-- In exact arithmetic, what an observer holds after a run depends on the order of
dependent notices only: two orders of the same notices, in which any two that depend on
each other stand in the same order, leave the same observer. -/
theorem observe_eq_of_order (past first second : List Notice) (same : first.Perm second)
    (ordered : ∀ notice other, Dependent notice other →
      first.filter (fun x => x = notice ∨ x = other) =
        second.filter fun x => x = notice ∨ x = other) :
    (new.observe past).observe first = (new.observe past).observe second := by
  have collected : OfSamples (new.observe past) := by
    induction past using List.reverseRecOn with
    | nil => exact OfSamples.new
    | append_singleton past notice ih =>
        rw [observe, List.foldl_append]
        exact OfSamples.handle ih
  have reordered : Reordered (fun notice other => ¬ Dependent notice other) second first :=
    reordered_of_projections (fun apart dependent => apart dependent.symm) same
      fun notice other dependent => ordered notice other (not_not.mp dependent)
  exact (foldl_eq_of_reordered OfSamples.handle handle_commutes collected reordered).symm

/-- Two packets for different phones, noticed in another order. -/
theorem observe_eq_of_order_apart :
    let uno : Paquete := { uid := 1, tipo := ipv4Protocol, destino := 0x0A010001#32 }
    let otro : Paquete := { uid := 2, tipo := ipv4Protocol, destino := 0x0A020001#32 }
    (new.observe [.pktEnviado 0 uno, .pktEnviado 5 otro]).observe
        [.pktRecibido 9000 uno, .pktRecibido 9000 otro] =
      (new.observe [.pktEnviado 0 uno, .pktEnviado 5 otro]).observe
        [.pktRecibido 9000 otro, .pktRecibido 9000 uno] := by
  refine observe_eq_of_order _ _ _ (List.Perm.swap _ _ []) fun notice other dependent => ?_
  have apart : ¬ (notice = .pktRecibido 9000 ⟨1, ipv4Protocol, 0x0A010001#32⟩ ∧
      other = .pktRecibido 9000 ⟨2, ipv4Protocol, 0x0A020001#32⟩) := by
    rintro ⟨rfl, rfl⟩
    simp [Dependent] at dependent
  have apart' : ¬ (notice = .pktRecibido 9000 ⟨2, ipv4Protocol, 0x0A020001#32⟩ ∧
      other = .pktRecibido 9000 ⟨1, ipv4Protocol, 0x0A010001#32⟩) := by
    rintro ⟨rfl, rfl⟩
    simp [Dependent] at dependent
  simp only [List.filter_cons, List.filter_nil]
  grind

end Observador

end Simvoip
