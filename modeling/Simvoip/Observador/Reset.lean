import Simvoip.Observador.Quality

namespace Simvoip.Observador

open Simvoip.Data Simvoip.Net Simvoip.Average

/-! # What a reset does not forget

`Reset` clears the averages of the jitter and of the delay.  The readings after it
are those of a new observer when what it leaves in the other fields does not show.
-/

/-- The numbers of calls that notices report. -/
def calls (notices : List Notice) : List ℚ :=
  notices.filterMap fun
    | .actualizarNumLlamadas number => some (number : ℚ)
    | _ => none

/-- The frames that notices count as sent. -/
def frames (notices : List Notice) : Nat :=
  notices.countP fun
    | .pktEnviado _ _ => true
    | _ => false

/-- The time that a link is busy, when its last transmission began at `inicial`. -/
def busy (inicial : Int) : List Notice → Int
  | [] => 0
  | .empiezaTransmitir ahora :: rest => busy ahora rest
  | .terminaTransmitir ahora :: rest => (ahora - inicial) + busy inicial rest
  | _ :: rest => busy inicial rest

/-- The beginning of the last transmission. -/
def began (inicial : Int) : List Notice → Int
  | [] => inicial
  | .empiezaTransmitir ahora :: rest => began ahora rest
  | _ :: rest => began inicial rest

/-- What a run makes of the fields that no packet changes. -/
structure Carries (o : Observador) (notices : List Notice) (after : Observador) : Prop where
  calls : after.acNumLlamadas = (calls notices).foldl Average.update o.acNumLlamadas
  busy : after.acumulaTiempo = o.acumulaTiempo + busy o.tiempoInicial notices
  began : after.tiempoInicial = began o.tiempoInicial notices

theorem carries_pktEnviado (o : Observador) (ahora : Nat) (paquete : Paquete) :
    Carries o [] (o.pktEnviado ahora paquete) := by
  unfold pktEnviado
  split
  · exact ⟨rfl, (Int.add_zero _).symm, rfl⟩
  · exact ⟨rfl, (Int.add_zero _).symm, rfl⟩

theorem carries_pktRecibido (o : Observador) (ahora : Nat) (paquete : Paquete) :
    Carries o [] (o.pktRecibido ahora paquete) := by
  unfold pktRecibido
  split
  · split
    · exact ⟨rfl, (Int.add_zero _).symm, rfl⟩
    · exact ⟨rfl, (Int.add_zero _).symm, rfl⟩
  · exact ⟨rfl, (Int.add_zero _).symm, rfl⟩

theorem Carries.trans {o next after : Observador} {notices : List Notice}
    (first : Carries o [] next) (later : Carries next notices after) : Carries o notices after := by
  obtain ⟨calls, busy, began⟩ := first
  change next.tiempoInicial = o.tiempoInicial at began
  refine ⟨?_, ?_, ?_⟩
  · rw [later.calls, calls]
    rfl
  · rw [later.busy, busy, began, Int.add_assoc]
    exact congrArg _ (Int.zero_add _)
  · rw [later.began, began]

theorem carries_observe (o : Observador) (notices : List Notice) :
    Carries o notices (o.observe notices) := by
  induction notices generalizing o with
  | nil => exact ⟨rfl, (Int.add_zero _).symm, rfl⟩
  | cons notice rest ih =>
      have later := ih (o.handle notice)
      cases notice with
      | pktEnviado ahora paquete =>
          obtain ⟨calls, busy, began⟩ := (carries_pktEnviado o ahora paquete).trans later
          exact ⟨calls, busy, began⟩
      | pktRecibido ahora paquete =>
          obtain ⟨calls, busy, began⟩ := (carries_pktRecibido o ahora paquete).trans later
          exact ⟨calls, busy, began⟩
      | actualizarNumLlamadas number => exact ⟨later.calls, later.busy, later.began⟩
      | empiezaTransmitir ahora => exact ⟨later.calls, later.busy, later.began⟩
      | terminaTransmitir ahora =>
          exact ⟨later.calls, later.busy.trans (Int.add_assoc ..), later.began⟩
      | reset => exact ⟨later.calls, later.busy, later.began⟩

section

variable {past present : List Notice}

theorem acumulaTiempo_observe : (new.observe present).acumulaTiempo = busy 0 present :=
  (carries_observe new present).busy.trans (Int.zero_add _)

end

end Simvoip.Observador
