import Mathlib.Algebra.Order.Ring.Rat
import Simvoip.Data.StdMap
import Simvoip.Semantics.Run

namespace Simvoip

open Simvoip.Data Simvoip.Semantics

/-! # The search for the cheapest capacity

The two loops of `main` and the loop between them run as one machine: every test
of a loop is a step, and a step that simulates takes the quality of service that
comes out of the simulation as its input.
-/

/-- What the search uses of `double`.  Conversions that are out of range, and
every rounding, are left open. -/
class Double (D : Type) extends LT D, LE D, Sub D, Div D where
  ofUint : UInt64 → D
  toUint : D → UInt32
  decidableLT : DecidableLT D
  lt_asymm : ∀ {x y : D}, x < y → ¬ y < x
  not_lt_of_le : ∀ {x y : D}, x ≤ y → ¬ y < x

instance double_decidableLT {D : Type} [Double D] : DecidableLT D := Double.decidableLT

instance : Double ℚ where
  ofUint n := (n.toNat : ℚ)
  toUint x := UInt32.ofNat (x.num / x.den).toNat
  decidableLT := inferInstance
  lt_asymm := lt_asymm
  not_lt_of_le := not_lt_of_ge

structure Punto (D : Type) where
  enlaces : UInt8
  velocidad : UInt8
  qos : D
deriving DecidableEq

inductive Place where
  | faseI
  | reparto (x : UInt32)
  | faseII
  | fin
deriving DecidableEq

/-- The variables of `main`, and the simulations that each phase has made so far
with the value that `GetQoS` had in them, latest first. -/
structure Search (D : Type) where
  place : Place
  velocidades : StdMap UInt8 UInt64
  anterior : Punto D
  resultado : Punto D
  faseI : List (Punto D)
  faseII : List (Punto D)

variable {D : Type} [Double D]

/-- What `simular` does, where it returns, with the quality of service it computes: it
keeps it in a variable of its own, and `resultado` is left as it was. -/
def simular (resultado : Punto D) (_QoS : D) : Punto D := resultado

/-- A simulation that leaves the quality of service in its argument. -/
def Punto.measured (punto : Punto D) (qos : D) : Punto D := { punto with qos }

namespace Search

def simulations (s : Search D) : List (Punto D) := s.faseII ++ s.faseI

/-- `velocidades.size() - 1`. -/
def lastIndex (velocidades : StdMap UInt8 UInt64) : UInt64 :=
  UInt64.ofNat velocidades.size - 1

/-- `enlaces*velocidades[velocidad].GetBitRate() / 1e6`, and the table after its
`operator[]`; a default `DataRate` is zero. -/
def capacidad (velocidades : StdMap UInt8 UInt64) (punto : Punto D) :
    D × StdMap UInt8 UInt64 :=
  let tasa := velocidades.index punto.velocidad 0
  (Double.ofUint (punto.enlaces.toUInt64 * tasa.1) / Double.ofUint 1000000, tasa.2)

/-- An iteration of FASE I up to the distribution of `x`. -/
def acercamiento (simular : Punto D → D → Punto D) (objetivo : D) (s : Search D) (qos : D) :
    Search D :=
  let resultado := simular s.resultado qos
  let actual := capacidad s.velocidades resultado
  let previa := capacidad actual.2 s.anterior
  let m := (resultado.qos - s.anterior.qos) / (actual.1 - previa.1)
  let x := Double.toUint (objetivo / m)
  { s with
    place := .reparto x
    velocidades := previa.2
    anterior := resultado
    resultado := { resultado with enlaces := 0, velocidad := 0 }
    faseI := { s.resultado with qos } :: s.faseI }

def Remains (s : Search D) (x : UInt32) : Prop :=
  let tasa := (s.velocidades.index s.resultado.velocidad 0).1
  (Double.ofUint s.resultado.enlaces.toUInt64 : D) <
    Double.ofUint (x.toUInt64 / tasa) / Double.ofUint 1000000

instance (s : Search D) (x : UInt32) : Decidable (s.Remains x) :=
  inferInstanceAs (Decidable (_ < _))

/-- One turn of that loop.  A rate of zero divides by zero. -/
def reparto (s : Search D) (x : UInt32) : Option (Search D) :=
  let tasa := s.velocidades.index s.resultado.velocidad 0
  if tasa.1 = 0 then none
  else if s.Remains x then
    if s.resultado.velocidad.toUInt64 = lastIndex tasa.2 then
      some { s with
        velocidades := tasa.2
        resultado := { s.resultado with enlaces := s.resultado.enlaces + 1, velocidad := 0 } }
    else
      some { s with
        velocidades := tasa.2
        resultado := { s.resultado with velocidad := s.resultado.velocidad + 1 } }
  else some { s with place := .faseI, velocidades := tasa.2 }

def baja (velocidades : StdMap UInt8 UInt64) (punto : Punto D) : Punto D :=
  if punto.velocidad = 0 then
    { punto with velocidad := (lastIndex velocidades).toUInt8, enlaces := punto.enlaces - 1 }
  else { punto with velocidad := punto.velocidad - 1 }

def descenso (simular : Punto D → D → Punto D) (s : Search D) (qos : D) : Search D :=
  let punto := baja s.velocidades s.resultado
  let resultado := simular punto qos
  { s with
    anterior := resultado
    resultado := resultado
    faseII := { punto with qos } :: s.faseII }

def step (simular : Punto D → D → Punto D) (objetivo : D) (s : Search D) (qos : D) :
    Option (Search D) :=
  match s.place with
  | .faseI =>
      if s.resultado.qos < objetivo then some (s.acercamiento simular objetivo qos)
      else some { s with place := .faseII }
  | .reparto x => s.reparto x
  | .faseII =>
      if objetivo < s.resultado.qos then some (s.descenso simular qos)
      else some { s with place := .fin }
  | .fin => none

/-- The configuration that the next step hands to `simular`. -/
def llamada (objetivo : D) (s : Search D) : Option (Punto D) :=
  match s.place with
  | .faseI => if s.resultado.qos < objetivo then some s.resultado else none
  | .faseII => if objetivo < s.resultado.qos then some (baja s.velocidades s.resultado) else none
  | .reparto _ | .fin => none

/-- `simular` is about to take the trunk devices of the first link, and there is none. -/
def Unlinked (objetivo : D) (s : Search D) : Prop :=
  ∃ punto, s.llamada objetivo = some punto ∧ punto.enlaces = 0

instance (objetivo : D) (s : Search D) : Decidable (Unlinked objetivo s) :=
  match called : s.llamada objetivo with
  | none => isFalse (by simp [Unlinked, called])
  | some punto => decidable_of_iff (punto.enlaces = 0) (by simp [Unlinked, called])

/-- A step of the program, which comes to its end where `simular` finds no link. -/
def ejecuta (objetivo : D) (s : Search D) (qos : D) : Option (Search D) :=
  if Unlinked objetivo s then none else s.step simular objetivo qos

def start (velocidades : StdMap UInt8 UInt64) : Search D where
  place := .faseI
  velocidades := velocidades
  anterior := { enlaces := 0, velocidad := 0, qos := Double.ofUint 0 }
  resultado := { enlaces := 3, velocidad := 0, qos := Double.ofUint 0 }
  faseI := []
  faseII := []

variable {s t : Search D}

omit [Double D] in
@[simp] theorem baja_qos (velocidades : StdMap UInt8 UInt64) (punto : Punto D) :
    (baja velocidades punto).qos = punto.qos := by
  unfold baja
  split <;> rfl

theorem step_of_ejecuta {objetivo qos : D} (taken : s.ejecuta objetivo qos = some t) :
    s.step simular objetivo qos = some t := by
  unfold ejecuta at taken
  split at taken
  · cases taken
  · exact taken

/-- Reading a capacity never changes what another read returns. -/
theorem index_capacidad (velocidades : StdMap UInt8 UInt64) (punto : Punto D)
    (velocidad : UInt8) : ((capacidad velocidades punto).2.index velocidad 0).1 =
      (velocidades.index velocidad 0).1 := by
  rw [StdMap.index_fst, StdMap.index_fst]
  exact StdMap.getD_lookup_index velocidades punto.velocidad 0

theorem capacidad_capacidad (velocidades : StdMap UInt8 UInt64) (punto otro : Punto D) :
    (capacidad (capacidad velocidades punto).2 otro).1 = (capacidad velocidades otro).1 := by
  show Double.ofUint (otro.enlaces.toUInt64 *
    ((capacidad velocidades punto).2.index otro.velocidad 0).1) / _ = _
  rw [index_capacidad]
  rfl

/-- The distribution of `x` only moves the coordinates of `resultado`, as long as
something remains to distribute. -/
theorem reparto_spec {x : UInt32} (taken : s.reparto x = some t) :
    t.anterior = s.anterior ∧ t.resultado.qos = s.resultado.qos ∧ t.faseI = s.faseI ∧
      t.faseII = s.faseII ∧
      (s.Remains x ∧ t.place = s.place ∨
        ¬ s.Remains x ∧ t.place = .faseI ∧ t.resultado = s.resultado) := by
  simp only [reparto] at taken
  split at taken
  · cases taken
  · split at taken
    · rename_i remains
      split at taken <;> simp only [Option.some.injEq] at taken <;> subst taken <;>
        exact ⟨rfl, rfl, rfl, rfl, .inl ⟨remains, rfl⟩⟩
    · rename_i ended
      simp only [Option.some.injEq] at taken
      subst taken
      exact ⟨rfl, rfl, rfl, rfl, .inr ⟨ended, rfl, rfl⟩⟩

theorem exists_reparto {x : UInt32}
    (divides : (s.velocidades.index s.resultado.velocidad 0).1 ≠ 0) :
    ∃ t, s.reparto x = some t := by
  rw [Search.reparto, if_neg divides]
  split
  · split
    · exact ⟨_, rfl⟩
    · exact ⟨_, rfl⟩
  · exact ⟨_, rfl⟩

end Search

def oneSpeed : StdMap UInt8 UInt64 := (∅ : StdMap UInt8 UInt64).insert 0 1000000

end Simvoip
