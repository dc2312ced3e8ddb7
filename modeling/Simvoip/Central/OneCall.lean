import Mathlib.Tactic.Common
import Simvoip.Central
import Simvoip.Semantics.Run

namespace Simvoip.Central

open Simvoip.Data Simvoip.Net Simvoip.Semantics

/-! # One call per phone

The exchange on its own: callers of `registrar` and `llamar` are arbitrary, and
`colgar` runs when the event that `llamar` scheduled comes up.
-/

structure Exchange where
  central : Central
  observador : Observador
  queue : EventQueue Action

inductive Operation where
  | registrar (llamante : Ipv4Address) (objeto : Nat)
  | llamar (llamante duracion llamado : Nat)
  | elapse (instant : Nat)
  | expire

def Exchange.new (tSede1 tSede2 : Nat) : Exchange where
  central := .new tSede1 tSede2
  observador := .new
  queue := .empty

def Exchange.step (ns3 : Ns3) (exchange : Exchange) : Operation → Option Exchange
  | .registrar llamante objeto =>
      some { exchange with central := (exchange.central.registrar llamante objeto).2 }
  | .llamar llamante duracion llamado =>
      let reply :=
        exchange.central.llamar ns3 exchange.observador exchange.queue llamante duracion llamado
      some {
        central := reply.central
        observador := reply.observador
        queue := reply.queue }
  | .elapse instant => do
      let queue ← exchange.queue.elapse instant
      return { exchange with queue }
  | .expire =>
      match exchange.queue.advance with
      | some ({ action := .colgar llamante, .. }, queue) =>
          some { exchange with central := exchange.central.colgar llamante, queue }
      | _ => none

/-- No number is the callee of two entries, and none is a callee and a caller,
of two entries or of one. -/
structure OneCall (central : Central) : Prop where
  calleeOnce : ∀ {first second number},
    central.llamadas.lookup first = some number →
    central.llamadas.lookup second = some number → first = second
  oneSide : ∀ {number}, central.Callee number → number ∉ central.llamadas

def Safe (exchange : Exchange) : Operation → Prop
  | .llamar llamante _ llamado =>
      llamado ∈ exchange.central.llamadas ∨ llamante ∈ exchange.central.llamadas ∨
        llamante ≠ llamado ∧ ¬ exchange.central.Callee llamante ∧
          ¬ exchange.central.Callee llamado
  | _ => True

/-- What has to hold before a call of `llamar`: the drawn callee is a caller,
or it takes part in no call and the caller either has one already (the entry is
left alone) or takes part in none. -/
def Free (exchange : Exchange) : Operation → Prop
  | .llamar llamante _ llamado =>
      llamado ∈ exchange.central.llamadas ∨
        ¬ exchange.central.Callee llamado ∧ (llamante ∈ exchange.central.llamadas ∨
          llamante ≠ llamado ∧ ¬ exchange.central.Callee llamante)
  | _ => True

instance (exchange : Exchange) : DecidablePred (Free exchange)
  | .llamar _ _ _ => inferInstanceAs (Decidable (_ ∨ ¬ _ ∧ (_ ∨ _ ∧ ¬ _)))
  | .registrar _ _ | .elapse _ | .expire => inferInstanceAs (Decidable True)

/-- `llamar` refuses a callee that is talking: it returns the invalid address
and sets up nothing. -/
def RefusesTalking (ns3 : Ns3) (exchange : Exchange) : Operation → Prop
  | .llamar llamante duracion llamado =>
      let reply :=
        exchange.central.llamar ns3 exchange.observador exchange.queue llamante duracion llamado
      exchange.central.Talking llamado →
        reply.direccion = 0 ∧ reply.queue = exchange.queue
  | _ => True

theorem OneCall.new (tSede1 tSede2 : Nat) : OneCall (Central.new tSede1 tSede2) where
  calleeOnce := by
    intro first second number found
    simp [Central.new, Finmap.lookup_empty] at found
  oneSide := by
    intro number ⟨llamante, found⟩
    simp [Central.new, Finmap.lookup_empty] at found

theorem OneCall.of_llamadas {before after : Central} (single : OneCall before)
    (same : after.llamadas = before.llamadas) : OneCall after where
  calleeOnce := by
    intro first second number left right
    rw [same] at left right
    exact single.calleeOnce left right
  oneSide := by
    intro number callee member
    obtain ⟨caller, found⟩ := callee
    rw [same] at found member
    exact single.oneSide ⟨caller, found⟩ member

theorem OneCall.colgar {central : Central} (single : OneCall central) (llamante : Nat) :
    OneCall (central.colgar llamante) where
  calleeOnce := by
    intro first second number left right
    exact single.calleeOnce (StdMap.lookup_erase_iff.mp left).2
      (StdMap.lookup_erase_iff.mp right).2
  oneSide := by
    intro number ⟨caller, found⟩ member
    exact single.oneSide ⟨caller, (StdMap.lookup_erase_iff.mp found).2⟩
      (Finmap.mem_erase.mp member).2

theorem oneCall_insert_iff {before after : Central} {llamante llamado : Nat}
    (single : OneCall before) (free : llamado ∉ before.llamadas)
    (idle : llamante ∉ before.llamadas)
    (inserted : after.llamadas = before.llamadas.insert llamante llamado) :
    OneCall after ↔
      llamante ≠ llamado ∧ ¬ before.Callee llamante ∧ ¬ before.Callee llamado := by
  have own : after.llamadas.lookup llamante = some llamado := by
    rw [inserted, Finmap.lookup_insert]
  have kept : ∀ {caller number}, before.llamadas.lookup caller = some number →
      caller ≠ llamante ∧ after.llamadas.lookup caller = some number := by
    intro caller number found
    have different : caller ≠ llamante := fun same =>
      idle (same ▸ Finmap.mem_of_lookup_eq_some found)
    exact ⟨different, by rw [inserted, Finmap.lookup_insert_of_ne _ different, found]⟩
  constructor
  · intro single'
    refine ⟨?_, ?_, ?_⟩
    · intro same
      subst same
      exact single'.oneSide ⟨llamante, own⟩ (Finmap.mem_of_lookup_eq_some own)
    · intro callee
      obtain ⟨caller, found⟩ := callee
      exact single'.oneSide ⟨caller, (kept found).2⟩ (Finmap.mem_of_lookup_eq_some own)
    · intro callee
      obtain ⟨caller, found⟩ := callee
      exact (kept found).1 (single'.calleeOnce (kept found).2 own)
  · intro safe
    obtain ⟨different, callerFree, calleeFree⟩ := safe
    constructor
    · intro first second number left right
      rw [inserted, StdMap.lookup_insert_iff] at left right
      rcases left with ⟨rfl, rfl⟩ | ⟨_, left⟩ <;> rcases right with ⟨rfl, same⟩ | ⟨_, right⟩
      · rfl
      · exact absurd ⟨second, right⟩ calleeFree
      · exact absurd ⟨first, same ▸ left⟩ calleeFree
      · exact single.calleeOnce left right
    · intro number callee member
      obtain ⟨caller, found⟩ := callee
      rw [inserted, StdMap.lookup_insert_iff] at found
      rw [inserted, Finmap.mem_insert] at member
      rcases found with ⟨rfl, rfl⟩ | ⟨_, found⟩ <;> rcases member with rfl | member
      · exact different rfl
      · exact free member
      · exact callerFree ⟨caller, found⟩
      · exact single.oneSide ⟨caller, found⟩ member

theorem oneCall_llamar_iff {ns3 : Ns3} {exchange : Exchange} {llamante duracion llamado : Nat}
    (single : OneCall exchange.central) :
    OneCall (exchange.central.llamar ns3 exchange.observador exchange.queue
        llamante duracion llamado).central ↔
      Safe exchange (.llamar llamante duracion llamado) := by
  unfold Safe
  by_cases busy : llamado ∈ exchange.central.llamadas
  · rw [llamar_busy busy]
    exact iff_of_true single (.inl busy)
  · rw [llamar_free busy]
    simp only [busy, false_or]
    by_cases active : llamante ∈ exchange.central.llamadas
    · have same := StdMap.emplace_of_mem llamado active
      exact iff_of_true (single.of_llamadas same) (.inl active)
    · have inserted := StdMap.emplace_of_notMem llamado active
      rw [oneCall_insert_iff single busy active inserted]
      simp only [active, false_or]

theorem refusesTalking_iff {ns3 : Ns3} {exchange : Exchange} {llamante duracion llamado : Nat} :
    RefusesTalking ns3 exchange (.llamar llamante duracion llamado) ↔
      (exchange.central.Callee llamado → llamado ∈ exchange.central.llamadas) := by
  unfold RefusesTalking Talking
  by_cases busy : llamado ∈ exchange.central.llamadas
  · simp [llamar_busy busy, busy]
  · have grows : exchange.queue.schedule duracion (.colgar llamante) ≠ exchange.queue := by
      intro same
      have counter := congrArg EventQueue.nextUid same
      simp at counter
    simp [llamar_free busy, busy, grows]

theorem free_iff {ns3 : Ns3} {exchange : Exchange} {operation : Operation} :
    Free exchange operation ↔
      Safe exchange operation ∧ RefusesTalking ns3 exchange operation := by
  cases operation with
  | llamar llamante duracion llamado =>
      rw [refusesTalking_iff]
      unfold Free Safe
      by_cases caller : llamado ∈ exchange.central.llamadas <;>
        by_cases callee : exchange.central.Callee llamado <;>
        simp [caller, callee]
  | registrar llamante objeto => exact iff_of_true trivial ⟨trivial, trivial⟩
  | elapse instant => exact iff_of_true trivial ⟨trivial, trivial⟩
  | expire => exact iff_of_true trivial ⟨trivial, trivial⟩

theorem oneCall_step_iff {ns3 : Ns3} {before after : Exchange} {operation : Operation}
    (single : OneCall before.central) (taken : before.step ns3 operation = some after) :
    OneCall after.central ↔ Safe before operation := by
  cases operation with
  | registrar llamante objeto =>
      simp only [Exchange.step, Option.some.injEq] at taken
      subst taken
      exact iff_of_true (single.of_llamadas rfl) trivial
  | llamar llamante duracion llamado =>
      simp only [Exchange.step, Option.some.injEq] at taken
      subst taken
      exact oneCall_llamar_iff single
  | elapse instant =>
      cases elapsed : before.queue.elapse instant with
      | none => simp [Exchange.step, elapsed] at taken
      | some queue =>
          simp only [Exchange.step, elapsed, Option.bind_eq_bind, Option.bind_some,
            Option.pure_def, Option.some.injEq] at taken
          subst taken
          exact iff_of_true single trivial
  | expire =>
      simp only [Exchange.step] at taken
      split at taken
      · simp only [Option.some.injEq] at taken
        subst taken
        exact iff_of_true (single.colgar _) trivial
      · cases taken

/-- In a run of the exchange every state has one call per phone and every talking
callee is refused exactly when each `llamar` finds its callee calling already,
or finds both ends out of every call (its caller may also keep an older entry). -/
theorem oneCall_iff (ns3 : Ns3) (tSede1 tSede2 : Nat) (operations : List Operation)
    (exchange : Exchange)
    (completed : run (Exchange.step ns3) (.new tSede1 tSede2) operations = some exchange) :
    (Throughout (Exchange.step ns3) (fun exchange => OneCall exchange.central)
        (.new tSede1 tSede2) operations ∧
      Stepwise (Exchange.step ns3) (RefusesTalking ns3) (.new tSede1 tSede2) operations) ↔
    Stepwise (Exchange.step ns3) Free (.new tSede1 tSede2) operations := by
  have states :
      Throughout (Exchange.step ns3) (fun exchange => OneCall exchange.central)
          (.new tSede1 tSede2) operations ↔
        Stepwise (Exchange.step ns3) Safe (.new tSede1 tSede2) operations :=
    throughout_iff_stepwise (fun _ => True) (fun _ _ => trivial)
      (fun _ single taken => oneCall_step_iff single taken) trivial
      (OneCall.new tSede1 tSede2) completed
  rw [states, ← stepwise_and]
  exact stepwise_congr fun exchange operation => free_iff.symm

def twoCallers : List Operation := [
  .registrar 0x0A010003#32 0, .registrar 0x0A010004#32 1, .registrar 0x0A020002#32 2,
  .llamar 0 10 2, .llamar 1 10 2]

theorem oneCall_fails : ∃ exchange,
    run (Exchange.step { emptyAddress := 0 }) (.new 2 1) twoCallers =
      some exchange ∧ ¬ OneCall exchange.central := by
  refine ⟨_, rfl, fun single => ?_⟩
  have same : (0 : Nat) = 1 := @single.calleeOnce _ _ 2 rfl rfl
  cases same

theorem oneCall_holds :
    Throughout (Exchange.step { emptyAddress := 0 })
      (fun exchange => OneCall exchange.central) (.new 1 1)
      [.registrar 0x0A010002#32 0, .registrar 0x0A020002#32 1,
        .llamar 0 10 1, .expire, .llamar 1 5 0] := by
  refine ((oneCall_iff _ 1 1 _ _ rfl).mpr ?_).1
  decide

end Simvoip.Central
