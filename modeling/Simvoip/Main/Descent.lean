import Simvoip.Main.Places

namespace Simvoip.Search

open Simvoip.Data Simvoip.Semantics

variable {D : Type} [Double D] {objetivo : D} {s t : Search D} {velocidades : StdMap UInt8 UInt64}
  {values : Nat → D} {n : Nat}

/-! # The descent

FASE II counts down through the configurations, links first and speeds second.
The count wraps below the smallest of them.
-/

/-- What the descent makes of the qualities that its simulations leave: it ends,
every configuration it simulates is smaller than those before it, and there are no
more of them than there are smaller ones than the first. -/
structure Descends (objetivo : D) (s : Search D) (values : Nat → D) : Prop where
  ends : ∃ n t, run (step Punto.measured objetivo) s ((List.range n).map values) = some t ∧
    t.place = .fin
  falls : ∀ n t, run (step Punto.measured objetivo) s ((List.range n).map values) = some t →
    (t.faseII ++ [s.resultado]).Pairwise fun later earlier =>
      Antes later.enlaces later.velocidad earlier.enlaces earlier.velocidad
  bounded : ∀ n t, run (step Punto.measured objetivo) s ((List.range n).map values) = some t →
    t.faseII.length ≤ rank s.velocidades s.resultado

/-- The quality before the first simulation of the descent, and after each. -/
def left (s : Search D) (values : Nat → D) : Nat → D
  | 0 => s.resultado.qos
  | n + 1 => values n

/-- After so many simulations, none of which brought the quality to the target. -/
structure Descended (s : Search D) (values : Nat → D) (n : Nat) (t : Search D) : Prop where
  place : t.place = .faseII
  table : t.velocidades = s.velocidades
  quality : t.resultado.qos = left s values n
  count : t.faseII.length = n
  velocidad : t.resultado.velocidad.toNat < s.velocidades.size
  lower : n ≤ rank s.velocidades s.resultado →
    rank s.velocidades t.resultado + n = rank s.velocidades s.resultado ∧
      (t.faseII ++ [s.resultado]).Pairwise (fun later earlier =>
        Antes later.enlaces later.velocidad earlier.enlaces earlier.velocidad) ∧
      ∀ punto ∈ t.faseII ++ [s.resultado], punto.velocidad.toNat < s.velocidades.size ∧
        rank s.velocidades t.resultado ≤ rank s.velocidades punto

omit [Double D] in
theorem Descended.start (place : s.place = .faseII) (fresh : s.faseII = [])
    (inside : s.resultado.velocidad.toNat < s.velocidades.size) : Descended s values 0 s where
  place := place
  table := rfl
  quality := rfl
  count := by rw [fresh, List.length_nil]
  velocidad := inside
  lower _ := by
    rw [fresh, List.nil_append]
    refine ⟨rfl, List.pairwise_singleton _ _, fun punto member => ?_⟩
    rw [List.mem_singleton.mp member]
    exact ⟨inside, Nat.le_refl _⟩

omit [Double D] in
theorem Descended.next (descended : Descended s values n t) :
    Descended s values (n + 1) (t.descenso Punto.measured (values n)) where
  place := descended.place
  table := descended.table
  quality := rfl
  count := congrArg Nat.succ descended.count
  velocidad := by
    have inside := descended.velocidad
    rw [← descended.table] at inside ⊢
    exact velocidad_baja inside
  lower within := by
    obtain ⟨rest, sorted, above⟩ := descended.lower (Nat.le_of_succ_le within)
    have fewer : rank s.velocidades (baja s.velocidades t.resultado) + 1 =
        rank s.velocidades t.resultado :=
      rank_baja descended.velocidad (by omega)
    have lowered : (t.descenso Punto.measured (values n)).resultado =
        { baja s.velocidades t.resultado with qos := values n } := by
      rw [← descended.table]
      rfl
    have tried : (t.descenso Punto.measured (values n)).faseII =
        { baja s.velocidades t.resultado with qos := values n } :: t.faseII := by
      rw [← descended.table]
      rfl
    have same : rank s.velocidades { baja s.velocidades t.resultado with qos := values n } =
        rank s.velocidades (baja s.velocidades t.resultado) := rfl
    rw [lowered, tried, List.cons_append, same]
    refine ⟨by omega, List.pairwise_cons.mpr ⟨fun punto member => ?_, sorted⟩, ?_⟩
    · obtain ⟨inside, beyond⟩ := above punto member
      refine antes_of_rank inside (Nat.lt_of_lt_of_le ?_ beyond)
      rw [same]
      omega
    · intro punto member
      rcases List.mem_cons.mp member with rfl | old
      · exact ⟨velocidad_baja descended.velocidad, Nat.le_of_eq same.symm⟩
      · obtain ⟨inside, beyond⟩ := above punto old
        exact ⟨inside, by omega⟩

section

variable (place : s.place = .faseII) (fresh : s.faseII = [])
  (inside : s.resultado.velocidad.toNat < s.velocidades.size)

include place fresh inside

theorem exists_descended (exceeds : ∀ i < n, objetivo < left s values i) :
    ∃ t, run (step Punto.measured objetivo) s ((List.range n).map values) = some t ∧
      Descended s values n t := by
  induction n with
  | zero => exact ⟨s, rfl, .start place fresh inside⟩
  | succ n ih =>
      obtain ⟨t, completed, descended⟩ := ih fun i less => exceeds i (Nat.lt_succ_of_lt less)
      have test := exceeds n (Nat.lt_succ_self n)
      rw [← descended.quality] at test
      refine ⟨_, ?_, descended.next⟩
      rw [List.range_succ, List.map_append, List.map_singleton, run_snoc, completed,
        Option.bind_some, step, descended.place]
      exact if_pos test

/-- A descent that comes to its end after `i` simulations is over one step later. -/
theorem descended_or_ended {i : Nat} (exceeds : ∀ j < i, objetivo < left s values j)
    (ended : ¬ objetivo < left s values i)
    (completed : run (step Punto.measured objetivo) s ((List.range n).map values) = some t) :
    n ≤ i ∧ Descended s values n t ∨
      n = i + 1 ∧ ∃ u, Descended s values i u ∧ t = { u with place := .fin } := by
  induction n generalizing t with
  | zero =>
      cases completed
      exact .inl ⟨Nat.zero_le _, .start place fresh inside⟩
  | succ n ih =>
      rw [List.range_succ, List.map_append, List.map_singleton, run_snoc,
        Option.bind_eq_some_iff] at completed
      obtain ⟨u, earlier, taken⟩ := completed
      rcases ih earlier with ⟨within, descended⟩ | ⟨rfl, v, descended, rfl⟩
      · simp only [step, descended.place, descended.quality] at taken
        split at taken <;> rename_i test <;> simp only [Option.some.injEq] at taken <;>
          subst taken
        · have further : n ≠ i := fun same => ended (same ▸ test)
          exact .inl ⟨by omega, descended.next⟩
        · have last : n = i := by
            by_contra further
            exact test (exceeds n (by omega))
          subst last
          exact .inr ⟨rfl, u, descended, rfl⟩
      · cases taken

omit [Double D] place fresh inside in
theorem Descended.within (descended : Descended s values n t)
    (bounded : n ≤ rank s.velocidades s.resultado) :
    (t.faseII ++ [s.resultado]).Pairwise (fun later earlier =>
        Antes later.enlaces later.velocidad earlier.enlaces earlier.velocidad) ∧
      t.faseII.length ≤ rank s.velocidades s.resultado := by
  rw [descended.count]
  exact ⟨(descended.lower bounded).2.1, bounded⟩

end

/-- The descent is right exactly when some quality, up to the one that the smallest
configuration leaves, does not exceed the target. -/
theorem descends_iff (objetivo : D) (s : Search D) (values : Nat → D) (place : s.place = .faseII)
    (fresh : s.faseII = []) (inside : s.resultado.velocidad.toNat < s.velocidades.size) :
    Descends objetivo s values ↔
      ∃ i ≤ rank s.velocidades s.resultado, ¬ objetivo < left s values i := by
  constructor
  · intro descends
    by_contra none
    simp only [not_exists, not_and, not_not] at none
    -- with nothing at the target the descent goes on below the smallest configuration
    obtain ⟨t, completed, descended⟩ := exists_descended place fresh inside
      (n := rank s.velocidades s.resultado + 1) fun i less => none i (Nat.le_of_lt_succ less)
    have bounded := descends.bounded _ t completed
    rw [descended.count] at bounded
    omega
  · intro reached
    let first := Nat.find reached
    obtain ⟨within, ended⟩ := Nat.find_spec reached
    have exceeds : ∀ j < first, objetivo < left s values j := by
      intro j less
      have earlier := Nat.find_min reached less
      simp only [not_and, not_not] at earlier
      exact earlier (by omega)
    have cases := fun {n t} => descended_or_ended (n := n) (t := t) place fresh inside exceeds ended
    constructor
    · obtain ⟨t, completed, descended⟩ := exists_descended place fresh inside exceeds
      refine ⟨first + 1, { t with place := .fin }, ?_, rfl⟩
      rw [List.range_succ, List.map_append, List.map_singleton, run_snoc, completed,
        Option.bind_some, step, descended.place]
      simp only [descended.quality]
      exact if_neg ended
    · intro n t completed
      rcases cases completed with ⟨less, descended⟩ | ⟨_, u, descended, rfl⟩
      · exact (descended.within (by omega)).1
      · exact (descended.within within).1
    · intro n t completed
      rcases cases completed with ⟨less, descended⟩ | ⟨_, u, descended, rfl⟩
      · exact (descended.within (by omega)).2
      · exact (descended.within within).2

/-- FASE II begins above the target, with one link at the only speed. -/
def oneLink : Search ℚ where
  place := .faseII
  velocidades := oneSpeed
  anterior := { enlaces := 3, velocidad := 0, qos := 2 }
  resultado := { enlaces := 1, velocidad := 0, qos := 2 }
  faseI := []
  faseII := []

/-- The quality never falls, and the second simulation has 255 links. -/
theorem descends_fails : ¬ Descends 1 oneLink fun _ => 2 := by
  intro descends
  have bounded := descends.bounded 2 _ rfl
  exact absurd bounded (by decide)

def threeLinks : Search ℚ :=
  { oneLink with resultado := { enlaces := 3, velocidad := 0, qos := 3 } }

/-- With two links the quality is above the target still, with one it is below. -/
theorem descends_holds : Descends 1 threeLinks fun n => if n = 0 then 2 else 1 / 2 :=
  (descends_iff 1 threeLinks _ rfl rfl (by decide)).mpr ⟨2, by decide, by decide +kernel⟩

end Simvoip.Search
