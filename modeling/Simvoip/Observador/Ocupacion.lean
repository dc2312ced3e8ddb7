import Simvoip.Observador.Reset

namespace Simvoip.Observador

/-! # The occupation of a link

`getOcupacion` divides the window by the time that the link was busy, and not the
other way round.
-/

/-- Transmissions begin and end by turns, and the last of them has ended. -/
inductive Alternating : List Notice → Prop where
  | nil : Alternating []
  | interval {rest : List Notice} (empieza termina : Nat) (later : Alternating rest) :
      Alternating (.empiezaTransmitir empieza :: .terminaTransmitir termina :: rest)

def lengths : List Notice → List Int
  | .empiezaTransmitir empieza :: .terminaTransmitir termina :: rest =>
      (termina - empieza) :: lengths rest
  | _ => []

/-- The instant of a notice about a transmission. -/
def Notice.marca? : Notice → Option Nat
  | .empiezaTransmitir ahora => some ahora
  | .terminaTransmitir ahora => some ahora
  | _ => none

/-- Transmissions one after the other, all of them in the window. -/
structure Within (inicio final : Int) (notices : List Notice) : Prop where
  alternating : Alternating notices
  ordered : (notices.filterMap Notice.marca?).Pairwise (· ≤ ·)
  inside : ∀ ahora ∈ notices.filterMap Notice.marca?, inicio ≤ ahora ∧ (ahora : Int) ≤ final

/-- The occupation is the part of the window in which the link is busy, and does not
fall when the link is busy in more of it. -/
structure Occupied (inicio final : Int) (notices : List Notice) : Prop where
  accumulated : (new.observe notices).acumulaTiempo = (lengths notices).sum
  fraction : (new.observe notices).getOcupacion inicio final =
    some (((lengths notices).sum : ℚ) / ((final - inicio : Int) : ℚ))
  unit : ∀ part, (new.observe notices).getOcupacion inicio final = some part →
    0 ≤ part ∧ part ≤ 1
  grows : ∀ earlier later empieza termina, notices = earlier ++ later →
    Within inicio final
      (earlier ++ .empiezaTransmitir empieza :: .terminaTransmitir termina :: later) →
    ∃ part more, (new.observe notices).getOcupacion inicio final = some part ∧
      (new.observe (earlier ++ .empiezaTransmitir empieza :: .terminaTransmitir termina ::
        later)).getOcupacion inicio final = some more ∧ part ≤ more

section

variable {inicio final : Int} {notices : List Notice}

theorem busy_alternating (alternating : Alternating notices) (inicial : Int) :
    busy inicial notices = (lengths notices).sum := by
  induction alternating generalizing inicial with
  | nil => rfl
  | interval empieza termina later ih => rw [busy, busy, lengths, List.sum_cons, ih]

theorem acumulaTiempo_within (within : Within inicio final notices) :
    (new.observe notices).acumulaTiempo = (lengths notices).sum := by
  rw [acumulaTiempo_observe, busy_alternating within.alternating]

/-- What is left of the window after a transmission holds the later ones. -/
theorem Within.rest {rest : List Notice} {empieza termina : Nat}
    (within : Within inicio final
      (.empiezaTransmitir empieza :: .terminaTransmitir termina :: rest)) :
    inicio ≤ empieza ∧ empieza ≤ termina ∧ (termina : Int) ≤ final ∧ Within termina final rest := by
  obtain ⟨alternating, ordered, inside⟩ := within
  simp only [List.filterMap_cons, Notice.marca?, List.pairwise_cons, List.forall_mem_cons]
    at ordered inside
  obtain ⟨⟨before, _⟩, after, sorted⟩ := ordered
  obtain ⟨⟨lower, _⟩, ⟨_, upper⟩, rest⟩ := inside
  refine ⟨lower, before, upper, ?_, sorted, ?_⟩
  · cases alternating with
    | interval _ _ later => exact later
  · intro ahora member
    exact ⟨by exact_mod_cast after ahora member, (rest ahora member).2⟩

/-- The transmissions fit the window. -/
theorem Within.bounds (window : inicio ≤ final) (within : Within inicio final notices) :
    0 ≤ (lengths notices).sum ∧ (lengths notices).sum ≤ final - inicio := by
  have alternating := within.alternating
  induction alternating generalizing inicio with
  | nil => exact ⟨le_refl _, by simpa [lengths] using window⟩
  | interval empieza termina later ih =>
      obtain ⟨lower, before, upper, rest⟩ := within.rest
      obtain ⟨nonneg, fits⟩ := ih upper rest
      rw [lengths, List.sum_cons]
      omega

/-- A further transmission adds its length. -/
theorem sum_lengths_insert {earlier later : List Notice} {empieza termina : Nat}
    (alternating : Alternating
      (earlier ++ .empiezaTransmitir empieza :: .terminaTransmitir termina :: later)) :
    (lengths (earlier ++ .empiezaTransmitir empieza :: .terminaTransmitir termina :: later)).sum =
      (termina - empieza) + (lengths (earlier ++ later)).sum := by
  generalize whole : earlier ++ .empiezaTransmitir empieza :: .terminaTransmitir termina :: later =
    notices at alternating
  induction alternating generalizing earlier with
  | nil => simp at whole
  | interval begins ends rest ih =>
      cases earlier with
      | nil =>
          cases whole
          rw [List.nil_append, lengths, List.sum_cons]
      | cons first earlier =>
          cases earlier with
          | nil => cases whole
          | cons second earlier =>
              simp only [List.cons_append, List.cons.injEq] at whole
              obtain ⟨rfl, rfl, more⟩ := whole
              rw [List.cons_append, List.cons_append, lengths, lengths, List.sum_cons,
                List.sum_cons, ih more]
              omega

theorem Within.forward {earlier later : List Notice} {empieza termina : Nat}
    (within : Within inicio final
      (earlier ++ .empiezaTransmitir empieza :: .terminaTransmitir termina :: later)) :
    empieza ≤ termina := by
  have ordered := within.ordered
  rw [List.filterMap_append, List.pairwise_append] at ordered
  exact (List.pairwise_cons.mp ordered.2.1).1 termina (by simp [Notice.marca?])

/-- A link that is busy all the time is occupied completely. -/
theorem getOcupacion_full (window : inicio < final) (within : Within inicio final notices)
    (full : (lengths notices).sum = final - inicio) :
    (new.observe notices).getOcupacion inicio final = some 1 := by
  have length : final - inicio ≠ 0 := by omega
  rw [getOcupacion, acumulaTiempo_within within, full, if_neg length,
    div_self (Int.cast_ne_zero.mpr length)]

/-- A part and its inverse are the same only where the part is all. -/
theorem inverse_iff {part whole : ℚ} (nonneg : 0 < part) (positive : 0 < whole) :
    whole / part = part / whole ↔ part = whole := by
  rw [div_eq_div_iff nonneg.ne' positive.ne', mul_self_eq_mul_self_iff]
  constructor
  · rintro (same | opposite)
    · exact same.symm
    · linarith
  · exact fun same => .inl same.symm

end

/-- The occupation is right exactly when the transmissions fill the window. -/
theorem occupied_iff (inicio final : Int) (window : inicio < final) (notices : List Notice)
    (within : Within inicio final notices) :
    Occupied inicio final notices ↔ (lengths notices).sum = final - inicio := by
  obtain ⟨nonneg, fits⟩ := within.bounds window.le
  constructor
  · intro occupied
    have fraction := occupied.fraction
    rw [getOcupacion, acumulaTiempo_within within] at fraction
    split at fraction
    · cases fraction
    · rename_i busy
      have positive : 0 < (lengths notices).sum := by omega
      have length : 0 < final - inicio := by omega
      rw [Option.some.injEq, inverse_iff (Int.cast_pos.mpr positive) (Int.cast_pos.mpr length),
        Int.cast_inj] at fraction
      exact fraction
  · intro full
    have complete := getOcupacion_full window within full
    refine ⟨acumulaTiempo_within within, ?_, ?_, ?_⟩
    · have length : final - inicio ≠ 0 := by omega
      rw [complete, full, div_self (Int.cast_ne_zero.mpr length)]
    · intro part known
      cases complete.symm.trans known
      norm_num
    · rintro earlier later empieza termina rfl further
      have added := sum_lengths_insert further.alternating
      have forward := further.forward
      have still := (further.bounds window.le).2
      exact ⟨1, 1, complete, getOcupacion_full window further (by omega), le_refl _⟩

/-- The link is busy for the first five seconds of ten. -/
def halfBusy : List Notice := [.empiezaTransmitir 0, .terminaTransmitir 5000000]

theorem occupied_fails : Within 0 10000000 halfBusy ∧ ¬ Occupied 0 10000000 halfBusy := by
  constructor
  · exact ⟨.interval _ _ .nil, by decide, by decide⟩
  · intro occupied
    have part : (new.observe halfBusy).getOcupacion 0 10000000 = some 2 := by decide +kernel
    have bound := (occupied.unit 2 part).2
    norm_num at bound

/-- The link is never idle. -/
def alwaysBusy : List Notice :=
  [.empiezaTransmitir 0, .terminaTransmitir 4000000, .empiezaTransmitir 4000000,
    .terminaTransmitir 10000000]

theorem occupied_alwaysBusy : Occupied 0 10000000 alwaysBusy :=
  (occupied_iff 0 10000000 (by decide) alwaysBusy
    ⟨.interval _ _ (.interval _ _ .nil), by decide, by decide⟩).mpr (by decide)

end Simvoip.Observador
