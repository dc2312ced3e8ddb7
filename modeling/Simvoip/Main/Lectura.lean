import Mathlib.Data.List.Induction
import Simvoip.Data.StdMap
import Simvoip.Semantics.Loop

namespace Simvoip

open Simvoip.Data Simvoip.Semantics

universe u

/-! # The reading of the parameters

`main` cuts its two string parameters at every `;` with the same loop, and stores
what comes before the separator under `n`.
-/

/-- `std::string::find` of one character. -/
def find (separador : Char) (texto : List Char) : Option Nat :=
  texto.findIdx? (· = separador)

/-- The variables of a reading loop. -/
structure Lectura (α : Type u) where
  texto : List Char
  n : UInt8
  datos : α

namespace Lectura

variable {α : Type u} (guarda : UInt8 → List Char → α → α)

/-- A turn of the loop, which never advances `n`. -/
def vuelta (lectura : Lectura α) : Lectura α :=
  match find ';' lectura.texto with
  | none => lectura
  | some posicion => { lectura with
      texto := lectura.texto.drop (posicion + 1)
      datos := guarda lectura.n (lectura.texto.take posicion) lectura.datos }

/-- There is no result when the loop does not end within the fuel. -/
def lee (fuel : Nat) (texto : List Char) (datos : α) : Option (Lectura α) :=
  loop (fun lectura => (find ';' lectura.texto).isSome) (vuelta guarda) fuel
    { texto, n := 0, datos }

/-- What the loop leaves of these tokens: all but the last were stored, each under
the same index. -/
def leida (tokens : List (List Char)) (datos : α) : Lectura α where
  texto := tokens.getLastD []
  n := 0
  datos := tokens.dropLast.foldl (fun datos token => guarda 0 token datos) datos

theorem find_none {token : List Char} (plain : ';' ∉ token) : find ';' token = none := by
  rw [find, List.findIdx?_eq_none_iff]
  intro letter member
  exact decide_eq_false fun same => plain (same ▸ member)

theorem find_some {token : List Char} (plain : ';' ∉ token) (rest : List Char) :
    find ';' (token ++ ';' :: rest) = some token.length := by
  have none := find_none plain
  unfold find at none ⊢
  rw [List.findIdx?_append, none]
  simp [List.findIdx?_cons]

theorem vuelta_some {token : List Char} (plain : ';' ∉ token) (rest : List Char) (n : UInt8)
    (datos : α) : vuelta guarda { texto := token ++ ';' :: rest, n, datos } =
      { texto := rest, n, datos := guarda n token datos } := by
  simp [vuelta, find_some plain]

/-- The loop takes one turn for each token but the last. -/
theorem lee_intercalate {tokens : List (List Char)} (nonempty : tokens ≠ [])
    (plain : ∀ token ∈ tokens, ';' ∉ token) (datos : α) :
    lee guarda tokens.length ([';'].intercalate tokens) datos = some (leida guarda tokens datos) := by
  induction tokens generalizing datos with
  | nil => exact absurd rfl nonempty
  | cons token rest ih =>
      have first := plain token List.mem_cons_self
      cases rest with
      | nil =>
          rw [List.intercalate_singleton]
          apply loop_done
          simp [find_none first]
      | cons next rest =>
          have later : ∀ other ∈ next :: rest, ';' ∉ other :=
            fun other member => plain other (List.mem_cons_of_mem _ member)
          have remaining := ih (List.cons_ne_nil _ _) later (guarda 0 token datos)
          have found := find_some first ([';'].intercalate (next :: rest))
          rw [List.intercalate_cons_cons, List.append_assoc, List.singleton_append, lee,
            List.length_cons, loop, if_pos (by rw [found]; rfl), vuelta_some guarda first]
          exact remaining

end Lectura

/-! ## The speeds -/

section

variable (DataRate : List Char → UInt64)

/-- `velocidades[n] = DataRate(...)`. -/
def guardaVelocidad (n : UInt8) (token : List Char) (velocidades : StdMap UInt8 UInt64) :
    StdMap UInt8 UInt64 :=
  velocidades.insert n (DataRate token)

def leeVelocidades (fuel : Nat) (sVelocidades : List Char) :
    Option (Lectura (StdMap UInt8 UInt64)) :=
  Lectura.lee (guardaVelocidad DataRate) fuel sVelocidades ∅

/-- The loop ends, and every token is stored under its own position. -/
def Inverts (tokens : List (List Char)) : Prop :=
  ∃ fuel lectura, leeVelocidades DataRate fuel ([';'].intercalate tokens) = some lectura ∧
    lectura.datos.size = tokens.length ∧
    ∀ v : UInt8, lectura.datos.lookup v = tokens[v.toNat]?.map DataRate

/-- The last token is lost, and of the others only the last one stays. -/
theorem velocidades_leidas (tokens : List (List Char)) :
    (Lectura.leida (guardaVelocidad DataRate) tokens ∅).datos =
      match tokens.dropLast.getLast? with
      | none => ∅
      | some token => (∅ : StdMap UInt8 UInt64).insert 0 (DataRate token) := by
  simp only [Lectura.leida]
  induction tokens.dropLast using List.reverseRecOn with
  | nil => rfl
  | append_singleton stored token ih =>
      rw [List.foldl_append, ih, List.getLast?_concat]
      cases stored.getLast? with
      | none => rfl
      | some earlier => exact Finmap.insert_insert _

variable {DataRate}

theorem leeVelocidades_eq {tokens : List (List Char)} (nonempty : tokens ≠ [])
    (plain : ∀ token ∈ tokens, ';' ∉ token) {fuel : Nat}
    {lectura : Lectura (StdMap UInt8 UInt64)}
    (ended : leeVelocidades DataRate fuel ([';'].intercalate tokens) = some lectura) :
    lectura = Lectura.leida (guardaVelocidad DataRate) tokens ∅ :=
  loop_unique ended (Lectura.lee_intercalate _ nonempty plain ∅)

/-- There are never as many speeds as tokens. -/
theorem size_leidas {tokens : List (List Char)} (nonempty : tokens ≠ []) :
    (Lectura.leida (guardaVelocidad DataRate) tokens ∅).datos.size < tokens.length := by
  rw [velocidades_leidas]
  cases last : tokens.dropLast.getLast? with
  | none =>
      rw [StdMap.size_empty]
      exact List.length_pos_iff.mpr nonempty
  | some token =>
      have several := List.length_pos_of_mem (List.mem_of_getLast? last)
      rw [List.length_dropLast] at several
      rw [StdMap.size_insert_of_notMem _ Finmap.notMem_empty, StdMap.size_empty]
      omega

/-- Whatever the tokens, the speeds are not read back. -/
theorem never_inverts (DataRate : List Char → UInt64) (tokens : List (List Char))
    (nonempty : tokens ≠ []) (plain : ∀ token ∈ tokens, ';' ∉ token) :
    ¬ Inverts DataRate tokens := by
  rintro ⟨fuel, lectura, ended, size, _⟩
  have fewer : (Lectura.leida (guardaVelocidad DataRate) tokens ∅).datos.size < tokens.length :=
    size_leidas nonempty
  rw [← leeVelocidades_eq nonempty plain ended, size] at fewer
  exact Nat.lt_irrefl _ fewer

/-- A single speed is never stored. -/
theorem inverts_fails : ¬ Inverts (fun _ => 1000000) ["1Mbps".toList] := by
  rintro ⟨fuel, lectura, ended, size, _⟩
  rw [leeVelocidades_eq (by decide) (by decide) ended] at size
  exact absurd size (by decide)

theorem never_inverts_two : ¬ Inverts (fun _ => 1000000) ["1Mbps".toList, "2Mbps".toList] :=
  never_inverts _ _ (by decide) (by decide)

end

end Simvoip
