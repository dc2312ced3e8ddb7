import Mathlib.Tactic.Common
import Simvoip.Observador
import Simvoip.Semantics.Run
import Simvoip.Semantics.Tally

namespace Simvoip.Observador

open Simvoip.Data Simvoip.Semantics

def step (o : Observador) (notice : Notice) : Option Observador := some (o.handle notice)

def observe (o : Observador) (notices : List Notice) : Observador := notices.foldl handle o

/-- A sent frame enters the pending map as an entry of its own: it carries an
IPv4 packet whose uid is not pending yet. -/
def Registers (o : Observador) : Notice → Prop
  | .pktEnviado _ paquete => paquete.tipo = ipv4Protocol ∧ paquete.uid ∉ o.array
  | _ => True

instance (o : Observador) : DecidablePred (Registers o)
  | .pktEnviado _ _ => inferInstanceAs (Decidable (_ ∧ _))
  | .pktRecibido _ _ | .actualizarNumLlamadas _ | .empiezaTransmitir _ | .terminaTransmitir _
  | .reset => inferInstanceAs (Decidable True)

/-- Frames counted as sent that are neither received nor pending. -/
def balance (o : Observador) : Int := o.enviados - o.recibidos - o.array.size

theorem balance_pktEnviado (o : Observador) (ahora : Nat) (paquete : Paquete) :
    (o.pktEnviado ahora paquete).balance =
      o.balance + if paquete.tipo = ipv4Protocol ∧ paquete.uid ∉ o.array then 0 else 1 := by
  by_cases ipv4 : paquete.tipo = ipv4Protocol
  · by_cases pending : paquete.uid ∈ o.array
    · have size := StdMap.size_insert_of_mem ahora pending
      simp only [pktEnviado, balance, ipv4, if_true, pending, not_true, and_false, if_false, size]
      omega
    · have size := StdMap.size_insert_of_notMem ahora pending
      simp only [pktEnviado, balance, ipv4, if_true, pending, not_false_eq_true, and_self, size]
      omega
  · simp only [pktEnviado, balance, ipv4, if_false, false_and]
    omega

theorem balance_pktRecibido (o : Observador) (ahora : Nat) (paquete : Paquete) :
    (o.pktRecibido ahora paquete).balance = o.balance := by
  unfold pktRecibido
  split
  · split
    · rfl
    · rename_i found
      have size := StdMap.size_erase_of_mem (Finmap.mem_of_lookup_eq_some found)
      simp only [balance]
      omega
  · rfl

theorem balance_handle (o : Observador) (notice : Notice) :
    (o.handle notice).balance = o.balance + if Registers o notice then 0 else 1 := by
  cases notice with
  | pktEnviado ahora paquete => exact balance_pktEnviado o ahora paquete
  | pktRecibido ahora paquete =>
      simp only [Registers]
      exact (balance_pktRecibido o ahora paquete).trans (Int.add_zero _).symm
  | actualizarNumLlamadas number => exact (Int.add_zero _).symm
  | empiezaTransmitir ahora => exact (Int.add_zero _).symm
  | terminaTransmitir ahora => exact (Int.add_zero _).symm
  | reset => exact (Int.add_zero _).symm

/-- The balance never shrinks, so it is kept exactly when no sent frame misses
the pending map. -/
theorem balance_observe (o : Observador) (notices : List Notice) :
    o.balance ≤ (o.observe notices).balance ∧
      ((o.observe notices).balance = o.balance ↔ Stepwise step Registers o notices) := by
  induction notices generalizing o with
  | nil => exact ⟨le_refl _, iff_of_true rfl trivial⟩
  | cons notice rest ih =>
      obtain ⟨grows, exactly⟩ := ih (o.handle notice)
      have one := balance_handle o notice
      have next : Stepwise step Registers o (notice :: rest) ↔
          Registers o notice ∧ Stepwise step Registers (o.handle notice) rest := by
        simp only [Stepwise, step, Option.some.injEq, forall_eq']
      rw [next, ← exactly]
      change o.balance ≤ ((o.handle notice).observe rest).balance ∧
        (((o.handle notice).observe rest).balance = o.balance ↔ _)
      by_cases registered : Registers o notice
      · simp only [registered, if_true] at one
        constructor
        · omega
        · simp only [registered, true_and]
          omega
      · simp only [registered, if_false] at one
        constructor
        · omega
        · simp only [registered, false_and, iff_false]
          omega

theorem balance_new : new.balance = 0 := by
  simp [balance, new, StdMap.size_empty]

/-- The losses that `getQoS` counts are the sent frames not received exactly
when every sent frame is an IPv4 frame whose uid is not pending. -/
theorem conservation_iff (notices : List Notice) :
    (((new.observe notices).getQoS.2.perdidos : Int) =
        (new.observe notices).enviados - (new.observe notices).recibidos) ↔
      Stepwise step Registers new notices := by
  rw [← (balance_observe new notices).2, balance_new]
  change (((new.observe notices).array.size : Int) = _) ↔ _
  unfold balance
  omega

/-- Router solicitations are IPv6 frames: one of them is counted as sent and
can be neither received nor lost. -/
theorem conservation_fails :
    ¬ ∀ notices : List Notice,
      ((new.observe notices).getQoS.2.perdidos : Int) =
        (new.observe notices).enviados - (new.observe notices).recibidos := by
  intro conserved
  have sent := conserved [.pktEnviado 0 { uid := 0, tipo := 0x57, destino := 0 }]
  change ((∅ : StdMap Nat Nat).size : Int) = (1 : Nat) - (0 : Nat) at sent
  simp [StdMap.size_empty] at sent

theorem run_step (o : Observador) (notices : List Notice) :
    run step o notices = some (o.observe notices) := by
  induction notices generalizing o with
  | nil => rfl
  | cons notice rest ih => exact ih (o.handle notice)

/-- Every frame counted as sent was received, is pending, or is one of those that made
no entry of their own: frames that carry no IPv4 packet, and frames whose uid was
still pending. -/
theorem frames_eq (notices : List Notice) :
    (new.observe notices).enviados = (new.observe notices).recibidos +
      (new.observe notices).array.size +
        tally step (fun o notice => ¬ Registers o notice) new notices := by
  have counts : ∀ {before : Observador} {notice : Notice} {next : Observador}, True →
      step before notice = some next →
        next.balance = before.balance + if ¬ Registers before notice then 1 else 0 := by
    intro before notice next _ taken
    cases taken
    rw [balance_handle, ite_not]
  have counted : (new.observe notices).balance = new.balance +
      tally step (fun o notice => ¬ Registers o notice) new notices :=
    eq_add_tally (fun _ _ => trivial) counts trivial (run_step new notices)
  rw [balance_new, balance] at counted
  omega

end Simvoip.Observador
