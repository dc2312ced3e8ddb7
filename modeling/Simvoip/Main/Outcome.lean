import Simvoip.Main.Lectura
import Simvoip.Main.Prediction
import Simvoip.Semantics.Rank

namespace Simvoip

open Simvoip.Data Simvoip.Semantics

universe u

/-! # What becomes of a run of the program

Every text is a list of tokens, so every text is read.  Of a list of speeds one is
kept at most, and `simular` leaves `resultado.qos` at zero.
-/

section

variable {α : Type u} {separador : Char}

theorem plain_splitOn {texto : List Char} :
    ∀ token ∈ texto.splitOn separador, separador ∉ token := by
  induction texto with
  | nil => simp
  | cons letter rest ih =>
      rw [List.splitOn_cons_eq_if_modifyHead]
      split
      · simpa using ih
      · rename_i different
        cases pieces : rest.splitOn separador with
        | nil => simp
        | cons first later =>
            rw [pieces] at ih
            have apart : separador ≠ letter := by
              rintro rfl
              exact different (beq_self_eq_true _)
            intro token member
            rcases List.mem_cons.mp member with rfl | old
            · simp [apart, ih first List.mem_cons_self]
            · exact ih token (List.mem_cons_of_mem _ old)

theorem exists_lee (guarda : UInt8 → List Char → α → α) (texto : List Char) (datos : α) :
    ∃ fuel, Lectura.lee guarda fuel texto datos =
      some (Lectura.leida guarda (texto.splitOn ';') datos) := by
  have read := Lectura.lee_intercalate guarda (List.splitOn_ne_nil ';' texto) plain_splitOn datos
  rw [List.intercalate_splitOn] at read
  exact ⟨_, read⟩

end

/-- The token that is stored last: the one before the last separator. -/
def tokenLeido (texto : List Char) : Option (List Char) :=
  (texto.splitOn ';').dropLast.getLast?

/-- The table that `main` searches with, for a text of speeds. -/
def velocidadesDe (DataRate : List Char → UInt64) (texto : List Char) : StdMap UInt8 UInt64 :=
  match tokenLeido texto with
  | none => ∅
  | some token => (∅ : StdMap UInt8 UInt64).insert 0 (DataRate token)

theorem exists_leeVelocidades (DataRate : List Char → UInt64) (texto : List Char) :
    ∃ fuel lectura, leeVelocidades DataRate fuel texto = some lectura ∧
      lectura.datos = velocidadesDe DataRate texto := by
  obtain ⟨fuel, read⟩ := exists_lee (guardaVelocidad DataRate) texto ∅
  exact ⟨fuel, _, read, velocidades_leidas DataRate _⟩

namespace Search

variable {D : Type} [Double D] {objetivo qos : D} {s t : Search D} {tasa : UInt64}
  {simular : Punto D → D → Punto D}

def unicaVelocidad (tasa : UInt64) : StdMap UInt8 UInt64 :=
  (∅ : StdMap UInt8 UInt64).insert 0 tasa

theorem index_unicaVelocidad : (unicaVelocidad tasa).index 0 0 = (tasa, unicaVelocidad tasa) :=
  StdMap.index_of_lookup 0 (Finmap.lookup_insert _)

theorem lastIndex_unicaVelocidad : lastIndex (unicaVelocidad tasa) = 0 := by
  rw [lastIndex, unicaVelocidad, StdMap.size_insert_of_notMem _ Finmap.notMem_empty,
    StdMap.size_empty]
  rfl

/-- Only the index zero is ever used. -/
structure OneSpeed (tasa : UInt64) (s : Search D) : Prop where
  table : s.velocidades = unicaVelocidad tasa
  resultado : s.resultado.velocidad = 0
  anterior : s.anterior.velocidad = 0
  simulated : ∀ punto ∈ s.simulations, punto.velocidad = 0

theorem OneSpeed.start : OneSpeed tasa (start (unicaVelocidad tasa) : Search D) :=
  ⟨rfl, rfl, rfl, by simp [simulations, Search.start]⟩

theorem OneSpeed.capacidad {punto : Punto D} (zero : punto.velocidad = 0) :
    (capacidad (unicaVelocidad tasa) punto).2 = unicaVelocidad tasa := by
  rw [Search.capacidad, zero, index_unicaVelocidad]

theorem OneSpeed.reparto {x : UInt32} (oneSpeed : OneSpeed tasa s) (taken : s.reparto x = some t) :
    OneSpeed tasa t := by
  obtain ⟨anterior, _, faseI, faseII, _⟩ := reparto_spec taken
  have last : (0 : UInt8).toUInt64 = lastIndex (unicaVelocidad tasa) :=
    lastIndex_unicaVelocidad.symm
  have simulated : ∀ punto ∈ t.simulations, punto.velocidad = 0 := by
    rw [simulations, faseI, faseII]
    exact oneSpeed.simulated
  rw [Search.reparto, oneSpeed.table, oneSpeed.resultado, index_unicaVelocidad, if_pos last] at taken
  refine ⟨?_, ?_, by rw [anterior, oneSpeed.anterior], simulated⟩
  all_goals
    split at taken
    · cases taken
    · split at taken <;> simp only [Option.some.injEq] at taken <;> subst taken
      · rfl
      · first | rfl | exact oneSpeed.resultado

theorem OneSpeed.acercamiento
    (keeps : ∀ punto qos, (simular punto qos).velocidad = punto.velocidad)
    (oneSpeed : OneSpeed tasa s) : OneSpeed tasa (s.acercamiento simular objetivo qos) := by
  have measured : (simular s.resultado qos).velocidad = 0 := by
    rw [keeps, oneSpeed.resultado]
  refine ⟨?_, rfl, measured, ?_⟩
  · simp only [Search.acercamiento]
    rw [oneSpeed.table, OneSpeed.capacidad measured, OneSpeed.capacidad oneSpeed.anterior]
  · intro punto member
    simp only [simulations, Search.acercamiento, List.mem_append, List.mem_cons] at member
    rcases member with old | rfl | old
    · exact oneSpeed.simulated punto (List.mem_append_left _ old)
    · exact oneSpeed.resultado
    · exact oneSpeed.simulated punto (List.mem_append_right _ old)

omit [Double D] in
theorem OneSpeed.descenso
    (keeps : ∀ punto qos, (simular punto qos).velocidad = punto.velocidad)
    (oneSpeed : OneSpeed tasa s) : OneSpeed tasa (s.descenso simular qos) := by
  have lowered : (baja s.velocidades s.resultado).velocidad = 0 := by
    rw [baja, if_pos oneSpeed.resultado, oneSpeed.table, lastIndex_unicaVelocidad]
    rfl
  have measured : (simular (baja s.velocidades s.resultado) qos).velocidad = 0 := by
    rw [keeps, lowered]
  refine ⟨oneSpeed.table, measured, measured, ?_⟩
  intro punto member
  simp only [simulations, Search.descenso, List.cons_append, List.mem_cons] at member
  rcases member with rfl | old
  · exact lowered
  · exact oneSpeed.simulated punto old

theorem OneSpeed.step (keeps : ∀ punto qos, (simular punto qos).velocidad = punto.velocidad)
    (oneSpeed : OneSpeed tasa s) (taken : s.step simular objetivo qos = some t) :
    OneSpeed tasa t := by
  have moved : ∀ place, OneSpeed tasa { s with place } :=
    fun _ => ⟨oneSpeed.table, oneSpeed.resultado, oneSpeed.anterior, oneSpeed.simulated⟩
  unfold Search.step at taken
  split at taken
  · split at taken <;> simp only [Option.some.injEq] at taken <;> subst taken
    · exact oneSpeed.acercamiento keeps
    · exact moved .faseII
  · exact oneSpeed.reparto taken
  · split at taken <;> simp only [Option.some.injEq] at taken <;> subst taken
    · exact oneSpeed.descenso keeps
    · exact moved .fin
  · cases taken

/-! ## Whether the program ends -/

inductive Outcome where
  | divides
  | unfinished
  | unlinked (simulaciones : Nat)
  | ends
deriving DecidableEq

/-- What `main` comes to, from its target and the rate that is stored, if one is. -/
def outcome (objetivo : D) (tasa : Option UInt64) : Outcome :=
  if (Double.ofUint 0 : D) < objetivo then if tasa.getD 0 = 0 then .divides else .unfinished
  else if objetivo < Double.ofUint 0 then .unlinked (if tasa.isSome then 2 else 512)
  else .ends

/-- A run of `main` is about to divide by zero after its first simulation; it goes on for
ever, or comes to a configuration without links; it comes to one after so many
simulations; or it stops without a simulation. -/
def Comes (objetivo : D) (velocidades : StdMap UInt8 UInt64) (values : Nat → D) : Outcome → Prop
  | .divides => ∃ s, run (ejecuta objetivo) (Search.start velocidades) [values 0] = some s ∧
      s.simulations = [{ enlaces := 3, velocidad := 0, qos := values 0 }] ∧ Stuck s
  | .unfinished =>
      (∀ n, ∃ s, run (ejecuta objetivo) (Search.start velocidades) ((List.range n).map values) =
        some s ∧ s.place ≠ .fin) ∨
      ∃ n s, run (ejecuta objetivo) (Search.start velocidades) ((List.range n).map values) =
        some s ∧ Unlinked objetivo s
  | .unlinked simulaciones =>
      ∃ n s, run (ejecuta objetivo) (Search.start velocidades) ((List.range n).map values) =
        some s ∧ s.simulations.length = simulaciones ∧ Unlinked objetivo s
  | .ends => ∃ s, run (ejecuta objetivo) (Search.start velocidades) [values 0, values 1] =
      some s ∧ s.place = .fin ∧ s.simulations = []

theorem ejecuta_eq {simulada : Search D} (linked : ¬ Unlinked objetivo s)
    (taken : s.step Simvoip.simular objetivo qos = some simulada) :
    s.ejecuta objetivo qos = some simulada :=
  (if_neg linked).trans taken

theorem not_unlinked_start (velocidades : StdMap UInt8 UInt64) :
    ¬ Unlinked objetivo (Search.start velocidades) := by
  rintro ⟨punto, called, unlinked⟩
  by_cases above : (Double.ofUint 0 : D) < objetivo
  · have call : (Search.start velocidades).llamada objetivo =
        some (Search.start velocidades).resultado := if_pos above
    obtain rfl := Option.some.inj (call.symm.trans called)
    have three : (3 : UInt8) = 0 := unlinked
    exact absurd three (by decide)
  · have call : (Search.start velocidades).llamada objetivo = none := if_neg above
    rw [call] at called
    cases called

/-- The first distribution divides by the rate of index zero. -/
theorem comes_divides (velocidades : StdMap UInt8 UInt64) (values : Nat → D)
    (above : (Double.ofUint 0 : D) < objetivo) (none : (velocidades.index 0 0).1 = 0) :
    Comes objetivo velocidades values .divides := by
  have begun : (Search.start velocidades).ejecuta objetivo (values 0) =
      some ((Search.start velocidades).acercamiento Simvoip.simular objetivo (values 0)) :=
    ejecuta_eq (not_unlinked_start velocidades) (if_pos above)
  refine ⟨(Search.start velocidades).acercamiento Simvoip.simular objetivo (values 0),
    by simp only [run, begun], rfl, _, rfl, ?_⟩
  simp only [Search.acercamiento]
  rw [index_capacidad, index_capacidad]
  exact none

/-- With a speed that carries something, the distribution goes on or comes to an end,
and the next simulation leaves the quality of service at zero. -/
theorem comes_unfinished (values : Nat → D) (above : (Double.ofUint 0 : D) < objetivo)
    (positive : tasa ≠ 0) : Comes objetivo (unicaVelocidad tasa) values .unfinished := by
  let invariant (s : Search D) : Prop := OneSpeed tasa s ∧ s.resultado.qos = Double.ofUint 0 ∧
    (s.place = .faseI ∨ ∃ x, s.place = .reparto x)
  have moves : ∀ (s : Search D) (qos : D), invariant s →
      Unlinked objetivo s ∨ ∃ t, s.ejecuta objetivo qos = some t ∧ invariant t := by
    rintro s qos ⟨oneSpeed, zero, place⟩
    by_cases linked : Unlinked objetivo s
    · exact .inl linked
    right
    suffices next : ∃ t, s.step Simvoip.simular objetivo qos = some t ∧
        t.resultado.qos = Double.ofUint 0 ∧ (t.place = .faseI ∨ ∃ x, t.place = .reparto x) by
      obtain ⟨t, taken, unmeasured, somewhere⟩ := next
      exact ⟨t, ejecuta_eq linked taken, oneSpeed.step (fun _ _ => rfl) taken, unmeasured,
        somewhere⟩
    rcases place with faseI | ⟨x, reparto⟩
    · have below : s.resultado.qos < objetivo := by rw [zero]; exact above
      refine ⟨s.acercamiento Simvoip.simular objetivo qos, ?_, zero, .inr ⟨_, rfl⟩⟩
      rw [Search.step, faseI]
      exact if_pos below
    · have rate : (s.velocidades.index s.resultado.velocidad 0).1 ≠ 0 := by
        rw [oneSpeed.table, oneSpeed.resultado, index_unicaVelocidad]
        exact positive
      obtain ⟨t, turn⟩ := exists_reparto (x := x) rate
      obtain ⟨_, unmeasured, _, _, remains⟩ := reparto_spec turn
      refine ⟨t, ?_, unmeasured.trans zero, ?_⟩
      · rw [Search.step, reparto]
        exact turn
      · rcases remains with ⟨_, same⟩ | ⟨_, ended, _⟩
        · exact .inr ⟨x, same.trans reparto⟩
        · exact .inl ended
  have begun : invariant (Search.start (unicaVelocidad tasa)) := ⟨OneSpeed.start, rfl, .inl rfl⟩
  refine (runs_on_or_stops moves begun values).imp_left fun on n => ?_
  obtain ⟨s, completed, _, _, place⟩ := on n
  refine ⟨s, completed, fun ended => ?_⟩
  rcases place with faseI | ⟨x, reparto⟩
  · rw [faseI] at ended
    cases ended
  · rw [reparto] at ended
    cases ended

section

variable {velocidades : StdMap UInt8 UInt64} {k n : Nat}

/-- The descent from three links, with the speeds below an index, and no simulation left
a quality behind. -/
structure Descending (velocidades : StdMap UInt8 UInt64) (k n : Nat) (s : Search D) : Prop where
  place : s.place = .faseII
  table : s.velocidades = velocidades
  quality : s.resultado.qos = Double.ofUint 0
  count : s.simulations.length = n
  velocidad : s.resultado.velocidad.toNat < k
  lower : s.resultado.enlaces.toNat * k + s.resultado.velocidad.toNat + n = 3 * k

theorem Descending.llamada (descending : Descending velocidades k n s)
    (below : objetivo < Double.ofUint 0) :
    s.llamada objetivo = some (baja velocidades s.resultado) := by
  have exceeds : objetivo < s.resultado.qos := by rw [descending.quality]; exact below
  rw [Search.llamada, descending.place, ← descending.table]
  exact if_pos exceeds

theorem Descending.baja (descending : Descending velocidades k n s)
    (last : ((lastIndex velocidades).toUInt8).toNat = k - 1) (within : n ≤ 2 * k) :
    (baja velocidades s.resultado).enlaces.toNat * k +
      (baja velocidades s.resultado).velocidad.toNat + (n + 1) = 3 * k := by
  have inside := descending.velocidad
  have lower := descending.lower
  have counted := counted_baja last inside (by omega)
  omega

/-- While a link is left, it goes on. -/
theorem Descending.next (descending : Descending velocidades k n s)
    (last : ((lastIndex velocidades).toUInt8).toNat = k - 1)
    (below : objetivo < Double.ofUint 0) (less : n < 2 * k) :
    ∃ t, s.ejecuta objetivo qos = some t ∧ Descending velocidades k (n + 1) t := by
  have lower := descending.baja last (Nat.le_of_lt less)
  have inside := velocidad_baja_of_last last descending.velocidad
  have linked : ¬ Unlinked objetivo s := by
    rintro ⟨punto, called, none⟩
    obtain rfl := Option.some.inj ((descending.llamada below).symm.trans called)
    rw [none, UInt8.toNat_zero, Nat.zero_mul] at lower
    omega
  have exceeds : objetivo < s.resultado.qos := by rw [descending.quality]; exact below
  refine ⟨s.descenso Simvoip.simular qos, ejecuta_eq linked ?_, ?_⟩
  · rw [Search.step, descending.place]
    exact if_pos exceeds
  · obtain ⟨place, rfl, quality, count, _, _⟩ := descending
    refine ⟨place, rfl, ?_, congrArg Nat.succ count, inside, lower⟩
    exact (baja_qos s.velocidades s.resultado).trans quality

/-- At a single link of the slowest speed it is over. -/
theorem Descending.unlinked (descending : Descending velocidades k (2 * k) s)
    (last : ((lastIndex velocidades).toUInt8).toNat = k - 1)
    (below : objetivo < Double.ofUint 0) : Unlinked objetivo s := by
  have lower := descending.baja last (Nat.le_refl _)
  refine ⟨_, descending.llamada below, UInt8.toNat_inj.mp ?_⟩
  have less : (Search.baja velocidades s.resultado).enlaces.toNat * k < 1 * k := by omega
  exact Nat.lt_one_iff.mp (Nat.lt_of_mul_lt_mul_right less)

/-- With a target of less than zero FASE II goes down to a single link. -/
theorem comes_unlinked (values : Nat → D) (below : objetivo < Double.ofUint 0)
    (last : ((lastIndex velocidades).toUInt8).toNat = k - 1) (positive : 0 < k) :
    Comes objetivo velocidades values (.unlinked (2 * k)) := by
  have reached : ¬ (Double.ofUint 0 : D) < objetivo := Double.lt_asymm below
  have descends : ∀ n ≤ 2 * k, ∃ s, run (ejecuta objetivo) (Search.start velocidades)
      ((List.range (n + 1)).map values) = some s ∧ Descending velocidades k n s := by
    intro n
    induction n with
    | zero =>
        intro _
        have first : (Search.start velocidades).ejecuta objetivo (values 0) =
            some { Search.start velocidades with place := .faseII } :=
          ejecuta_eq (not_unlinked_start velocidades) (if_neg reached)
        refine ⟨{ Search.start velocidades with place := .faseII }, ?_,
          rfl, rfl, rfl, rfl, positive, rfl⟩
        simp only [List.range_succ, List.range_zero, List.nil_append, List.map_singleton, run,
          first]
    | succ n ih =>
        intro within
        obtain ⟨s, completed, descending⟩ := ih (Nat.le_of_succ_le within)
        obtain ⟨t, taken, further⟩ := descending.next last below within
        refine ⟨t, ?_, further⟩
        rw [List.range_succ, List.map_append, List.map_singleton, run_snoc, completed,
          Option.bind_some, taken]
  obtain ⟨s, completed, descending⟩ := descends (2 * k) (Nat.le_refl _)
  exact ⟨_, s, completed, descending.count, descending.unlinked last below⟩

end

theorem comes_ends (velocidades : StdMap UInt8 UInt64) (values : Nat → D)
    (reached : ¬ (Double.ofUint 0 : D) < objetivo) (settled : ¬ objetivo < Double.ofUint 0) :
    Comes objetivo velocidades values .ends := by
  have first : (Search.start velocidades).ejecuta objetivo (values 0) =
      some { Search.start velocidades with place := .faseII } :=
    ejecuta_eq (not_unlinked_start velocidades) (if_neg reached)
  have linked : ¬ Unlinked objetivo { Search.start velocidades with place := .faseII } := by
    rintro ⟨punto, called, _⟩
    simp only [Search.llamada, Search.start, settled, if_false] at called
    cases called
  have second : { Search.start velocidades with place := .faseII }.ejecuta objetivo
      (values 1) = some { Search.start velocidades with place := .fin } :=
    ejecuta_eq linked (if_neg settled)
  exact ⟨{ Search.start velocidades with place := .fin }, by simp only [run, first, second],
    rfl, rfl⟩

theorem comes_unica (values : Nat → D) :
    Comes objetivo (unicaVelocidad tasa) values (outcome objetivo (some tasa)) := by
  rw [outcome]
  split
  · rename_i above
    split
    · rename_i none
      exact comes_divides _ values above ((congrArg Prod.fst index_unicaVelocidad).trans none)
    · rename_i positive
      exact comes_unfinished values above positive
  · rename_i reached
    split
    · rename_i below
      refine comes_unlinked (k := 1) values below ?_ Nat.one_pos
      rw [lastIndex_unicaVelocidad]
      rfl
    · rename_i settled
      exact comes_ends _ values reached settled

/-- The last index of no speed at all is 255. -/
theorem comes_empty (values : Nat → D) : Comes objetivo ∅ values (outcome objetivo none) := by
  rw [outcome]
  split
  · rename_i above
    exact comes_divides ∅ values above rfl
  · rename_i reached
    split
    · rename_i below
      exact comes_unlinked (k := 256) values below (by decide) (by decide)
    · rename_i settled
      exact comes_ends ∅ values reached settled

/-- For every text of speeds, every target and whatever the simulations measure, at most
one speed is stored.  With a target above zero `main` divides by zero after its first
simulation when that speed is zero or there is none, and otherwise goes on for ever unless
it comes to a configuration without links; with a target below zero it comes to one, after
two simulations of the speed or after 512 without any; else it stops without a
simulation. -/
theorem comes_outcome (DataRate : List Char → UInt64) (texto : List Char) (objetivo : D)
    (values : Nat → D) :
    ∃ fuel lectura, leeVelocidades DataRate fuel texto = some lectura ∧
      StdMap.size lectura.datos ≤ 1 ∧
      Comes objetivo lectura.datos values (outcome objetivo ((tokenLeido texto).map DataRate)) := by
  obtain ⟨fuel, lectura, read, table⟩ := exists_leeVelocidades DataRate texto
  refine ⟨fuel, lectura, read, ?_⟩
  rw [table, velocidadesDe]
  cases tokenLeido texto with
  | none =>
      refine ⟨?_, comes_empty values⟩
      rw [StdMap.size_empty]
      exact Nat.zero_le _
  | some token =>
      refine ⟨?_, comes_unica values⟩
      rw [StdMap.size_insert_of_notMem _ Finmap.notMem_empty, StdMap.size_empty]

/-! ## Whatever the simulations leave, one speed is tried -/

/-- The table holds one rate at most, under the index zero, and every simulation reads that
rate, or zero when there is none. -/
structure OneRate (tasa : UInt64) (s : Search D) : Prop where
  table : ∀ velocidad value, s.velocidades.lookup velocidad = some value →
    velocidad = 0 ∧ value = tasa
  simulated : ∀ punto ∈ s.simulations, (s.velocidades.index punto.velocidad 0).1 = tasa

omit [Double D] in
theorem OneSpeed.oneRate (oneSpeed : OneSpeed tasa s) : OneRate tasa s where
  table velocidad value found := by
    rw [oneSpeed.table, unicaVelocidad, StdMap.lookup_insert_iff] at found
    rcases found with ⟨first, same⟩ | ⟨_, empty⟩
    · exact ⟨first, same.symm⟩
    · rw [Finmap.lookup_empty] at empty
      cases empty
  simulated punto member := by
    rw [oneSpeed.table, oneSpeed.simulated punto member, index_unicaVelocidad]

/-- Without a speed the search begins with an empty table.  Only FASE I reads it, under the
index zero, and the first distribution stops there. -/
structure Unfilled (s : Search D) : Prop where
  table : ∀ velocidad value, s.velocidades.lookup velocidad = some value →
    velocidad = 0 ∧ value = 0
  early : s.place = .faseI ∨ (∃ x, s.place = .reparto x) →
    s.resultado.velocidad = 0 ∧ s.anterior.velocidad = 0

theorem Unfilled.start : Unfilled (start ∅ : Search D) where
  table velocidad value found := by
    simp [Search.start] at found
  early _ := ⟨rfl, rfl⟩

omit [Double D] in
theorem Unfilled.index (unfilled : Unfilled s) (velocidad : UInt8) :
    (s.velocidades.index velocidad 0).1 = 0 := by
  rw [StdMap.index_fst]
  cases found : s.velocidades.lookup velocidad with
  | none => rfl
  | some value => exact (unfilled.table velocidad value found).2

omit [Double D] in
theorem Unfilled.oneRate (unfilled : Unfilled s) : OneRate 0 s :=
  ⟨unfilled.table, fun punto _ => unfilled.index punto.velocidad⟩

/-- An entry that reading adds is zero. -/
theorem lookup_index {velocidades : StdMap UInt8 UInt64}
    (table : ∀ velocidad value, velocidades.lookup velocidad = some value →
      velocidad = 0 ∧ value = 0) :
    ∀ velocidad value, (velocidades.index 0 0).2.lookup velocidad = some value →
      velocidad = 0 ∧ value = 0 := by
  intro velocidad value found
  rw [StdMap.index] at found
  split at found
  · exact table velocidad value found
  · rcases StdMap.lookup_insert_iff.mp found with ⟨first, same⟩ | ⟨_, old⟩
    · exact ⟨first, same.symm⟩
    · exact table velocidad value old

theorem Unfilled.step (keeps : ∀ punto qos, (simular punto qos).velocidad = punto.velocidad)
    (unfilled : Unfilled s) (taken : s.step simular objetivo qos = some t) : Unfilled t := by
  unfold Search.step at taken
  split at taken
  · rename_i place
    obtain ⟨resultado, anterior⟩ := unfilled.early (.inl place)
    split at taken <;> simp only [Option.some.injEq] at taken <;> subst taken
    · have measured : (simular s.resultado qos).velocidad = 0 := by rw [keeps, resultado]
      refine ⟨?_, fun _ => ⟨rfl, measured⟩⟩
      simp only [Search.acercamiento, Search.capacidad, measured, anterior]
      exact lookup_index (lookup_index unfilled.table)
    · exact ⟨unfilled.table, by simp⟩
  · rw [Search.reparto, if_pos (unfilled.index s.resultado.velocidad)] at taken
    cases taken
  · rename_i place
    split at taken <;> simp only [Option.some.injEq] at taken <;> subst taken
    · exact ⟨unfilled.table, by simp [Search.descenso, place]⟩
    · exact ⟨unfilled.table, by simp⟩
  · cases taken

/-- Whatever speeds a text lists, and whatever the simulations measure, a search simulates
nothing but the rate of the last one that a separator follows, or zero where there is no
separator, and the table never holds another. -/
theorem one_speed (DataRate : List Char → UInt64) (texto : List Char)
    (simular : Punto D → D → Punto D)
    (keeps : ∀ punto qos, (simular punto qos).velocidad = punto.velocidad) (objetivo : D)
    (values : List D) :
    ∃ fuel lectura, leeVelocidades DataRate fuel texto = some lectura ∧
      Throughout (Search.step simular objetivo)
        (OneRate (((tokenLeido texto).map DataRate).getD 0)) (Search.start lectura.datos)
        values := by
  obtain ⟨fuel, lectura, read, table⟩ := exists_leeVelocidades DataRate texto
  refine ⟨fuel, lectura, read, ?_⟩
  rw [table, velocidadesDe]
  cases tokenLeido texto with
  | none =>
      exact (throughout_of_invariant (Unfilled.step keeps) Unfilled.start).mono
        fun _ unfilled => unfilled.oneRate
  | some token =>
      exact (throughout_of_invariant (OneSpeed.step keeps) OneSpeed.start).mono
        fun _ oneSpeed => oneSpeed.oneRate

/-- The speeds that the program takes when none are given. -/
theorem one_speed_default : ∃ fuel lectura,
    leeVelocidades (fun _ => 2000000) fuel "1Mbps;2Mbps;5Mbps".toList = some lectura ∧
      Throughout (Search.step Punto.measured (1 : ℚ))
        (OneRate (((tokenLeido "1Mbps;2Mbps;5Mbps".toList).map fun _ => 2000000).getD 0))
        (Search.start lectura.datos) [1 / 2, 2] :=
  one_speed (fun _ => 2000000) _ Punto.measured (fun _ _ => rfl) 1 [1 / 2, 2]

end Search

end Simvoip
