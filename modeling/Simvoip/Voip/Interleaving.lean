import Simvoip.Observador.Conservation
import Simvoip.Semantics.Interleave
import Simvoip.Voip.Peak

namespace Simvoip

open Simvoip.Data Simvoip.Net Simvoip.Semantics

variable {scenario : Scenario}

/-! # Calls and frames

While phones call each other, the frames of their calls are on the links.  The one
observer of a simulation hears of both, in the order in which they happen.
-/

/-- What the observer hears from the links, and from `simular` itself. -/
structure Frame where
  notice : Observador.Notice
  foreign : ∀ number, notice ≠ .actualizarNumLlamadas number

/-- An observer that heard of the load from one and of the frames from another. -/
def Observador.beside (load frames : Observador) : Observador :=
  { frames with acNumLlamadas := load.acNumLlamadas }

namespace System

/-- The phones run, or the observer hears of a frame. -/
def occur (s : System) : Draws scenario ⊕ Frame → Option System
  | .inl draws => s.step draws
  | .inr frame => some { s with observador := s.observador.handle frame.notice }

def beside (parts : System × Observador) : System :=
  { parts.1 with observador := parts.1.observador.beside parts.2 }

theorem handle_beside (load frames : Observador) (frame : Frame) :
    (load.beside frames).handle frame.notice = load.beside (frames.handle frame.notice) := by
  obtain ⟨notice, foreign⟩ := frame
  cases notice with
  | actualizarNumLlamadas number => exact absurd rfl (foreign number)
  | pktEnviado ahora paquete =>
      simp only [Observador.handle, Observador.pktEnviado, Observador.beside]
      split
      · rfl
      · rfl
  | pktRecibido ahora paquete =>
      simp only [Observador.handle, Observador.pktRecibido, Observador.beside]
      split
      · split
        · rfl
        · rfl
      · rfl
  | empiezaTransmitir ahora => rfl
  | terminaTransmitir ahora => rfl
  | reset => rfl

/-- Only the count of calls passes from the phones to the observer. -/
theorem execute_beside (s : System) (frames : Observador) (event : Event Action)
    (draws : Draws scenario) :
    (beside (s, frames)).execute event draws = beside (s.execute event draws, frames) := by
  unfold execute
  split
  · rfl
  · rfl
  · rename_i phone action
    by_cases busy : (draws.llamado : Nat) ∈ s.central.llamadas
    · rw [llama_busy busy, llama_busy (s := beside (s, frames)) busy]
      rfl
    · simp only [llama, updatePhone, beside, Central.llamar_free busy]
      split
      · rfl
      · split
        · rfl
        · rfl
  · rfl
  · rfl
  · rfl

theorem occur_beside (parts : System × Observador) (input : Draws scenario ⊕ Frame) :
    occur (beside parts) input = (sideBySide step (fun frames frame =>
      some (Observador.handle frames frame.notice)) parts input).map beside := by
  cases input with
  | inl draws =>
      simp only [occur, sideBySide, step]
      cases advanced : parts.1.queue.advance with
      | none =>
          have same : (beside parts).queue.advance = none := advanced
          simp [same]
      | some next =>
          have same : (beside parts).queue.advance = some next := advanced
          simp only [same, Option.map_some, Option.some.injEq]
          exact execute_beside { parts.1 with queue := next.2 } parts.2 next.1 draws
  | inr frame =>
      simp only [occur, sideBySide, Option.map_some, Option.some.injEq]
      simp only [beside, handle_beside]

/-- However events of the phones and frames are interleaved, the phones do what they
would have done alone, the count of calls is that of the phones, and everything else
the observer holds is what the frames alone would have left. -/
theorem interleaved (scenario : Scenario) (inputs : List (Draws scenario ⊕ Frame)) :
    run occur (initial scenario) inputs =
      (run step (initial scenario) (inputs.filterMap Sum.getLeft?)).map fun s =>
        { s with observador := s.observador.beside (Observador.new.observe
            ((inputs.filterMap Sum.getRight?).map Frame.notice)) } := by
  have frames : ∀ (o : Observador) (heard : List Frame),
      run (fun o frame => some (Observador.handle o frame.notice)) o heard =
        some (o.observe (heard.map Frame.notice)) := by
    intro o heard
    induction heard generalizing o with
    | nil => rfl
    | cons frame rest ih => exact ih (o.handle frame.notice)
  have start : initial scenario = beside (initial scenario, Observador.new) := by
    rw [beside, observador_initial]
    rw [← observador_initial scenario]
    rfl
  rw [start, run_through beside occur_beside, run_sideBySide, frames, ← start]
  cases run step (initial scenario) (inputs.filterMap Sum.getLeft?) with
  | none => rfl
  | some s => rfl

end System

end Simvoip
