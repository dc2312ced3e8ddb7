import Simvoip.Observador.Quality

namespace Simvoip.Observador

open Simvoip.Data Simvoip.Net Simvoip.Average

/-! # The variation of the delay

The specification remembers that there was no packet yet, where the observer
remembers a delay of zero.
-/

/-- The delays of consecutive packets to a destination, in the order of the second
of them. -/
def consecutive (before : Ipv4Address → Option Int) :
    List (Ipv4Address × Int) → List (Ipv4Address × Int × Int)
  | [] => []
  | (destino, transit) :: rest =>
      ((before destino).toList.map fun earlier => (destino, earlier, transit)) ++
        consecutive (Function.update before destino (some transit)) rest

/-- An absolute difference of delays, in whole milliseconds. -/
def distance (earlier later : Int) : ℚ := |(milliSeconds (later - earlier) : ℚ)|

/-- The variation that each packet after the first to its destination makes. -/
def differences (transits : List (Ipv4Address × Int)) : List (Ipv4Address × ℚ) :=
  (consecutive (fun _ => none) transits).map fun pair => (pair.1, distance pair.2.1 pair.2.2)

/-- The delays of the packets to one destination. -/
def delaysTo (destino : Ipv4Address) (transits : List (Ipv4Address × Int)) : List Int :=
  (transits.filter (·.1 = destino)).map (·.2)

/-- The jitter is given the distance between the delays of each packet and the one
before it to its destination, one sample for each packet but the first, and is
never negative. -/
structure Varies (notices : List Notice) : Prop where
  samples : ∀ earlier, earlier <+: notices →
    (new.observe earlier).jitter = ofSamples ((differences (transits earlier)).map (·.2))
  each : ∀ destino, ((differences (transits notices)).filter (·.1 = destino)).map (·.2) =
    List.zipWith distance (delaysTo destino (transits notices))
      (delaysTo destino (transits notices)).tail
  count : ∀ destino, ((differences (transits notices)).filter (·.1 = destino)).length =
    (delaysTo destino (transits notices)).length - 1
  nonneg : ∀ mean, (new.observe notices).getJitter = some mean → 0 ≤ mean

/-- No packet to a destination follows one of no delay, or one that took at least a
millisecond more. -/
def Growing (notices : List Notice) : Prop :=
  ∀ pair ∈ consecutive (fun _ => none) (transits notices),
    pair.2.1 ≠ 0 ∧ pair.2.1 < pair.2.2 + 1000

section

variable {before : Ipv4Address → Option Int} {list first second : List (Ipv4Address × Int)}

theorem consecutive_append : ∃ later,
    consecutive before (first ++ second) = consecutive before first ++ later := by
  induction first generalizing before with
  | nil => exact ⟨_, rfl⟩
  | cons transit first ih =>
      obtain ⟨later, continued⟩ := @ih (Function.update before transit.1 (some transit.2))
      refine ⟨later, ?_⟩
      rw [List.cons_append, consecutive, continued, consecutive, List.append_assoc]

/-- One destination sees its own packets only. -/
theorem consecutive_destino (destino : Ipv4Address) :
    ((consecutive before list).filter (·.1 = destino)).map (·.2) =
      ((before destino).toList ++ delaysTo destino list).zip
        ((before destino).toList ++ delaysTo destino list).tail := by
  induction list generalizing before with
  | nil =>
      cases known : before destino with
      | none => simp [consecutive, delaysTo]
      | some earlier => simp [consecutive, delaysTo]
  | cons transit rest ih =>
      obtain ⟨target, transit⟩ := transit
      rw [consecutive, List.filter_append, List.map_append, ih]
      by_cases same : target = destino
      · subst same
        have listed : delaysTo target ((target, transit) :: rest) =
            transit :: delaysTo target rest := by simp [delaysTo]
        rw [listed, Function.update_self]
        cases before target with
        | none => simp
        | some earlier => simp
      · have skipped : delaysTo destino ((target, transit) :: rest) = delaysTo destino rest := by
          simp [delaysTo, same]
        rw [skipped, Function.update_of_ne (Ne.symm same)]
        cases before target with
        | none => simp
        | some earlier => simp [same]

theorem differences_destino (destino : Ipv4Address) :
    ((differences list).filter (·.1 = destino)).map (·.2) =
      List.zipWith distance (delaysTo destino list) (delaysTo destino list).tail := by
  have own := @consecutive_destino (fun _ => none) list destino
  rw [Option.toList_none, List.nil_append] at own
  rw [← List.map_uncurry_zip_eq_zipWith, ← own, differences, List.filter_map, List.map_map,
    List.map_map]
  rfl

theorem differences_nonneg : ∀ difference ∈ differences list, 0 ≤ difference.2 := by
  intro difference listed
  obtain ⟨pair, _, rfl⟩ := List.mem_map.mp listed
  exact abs_nonneg _

/-- What the observer gives the jitter, from what it remembers. -/
theorem variations_eq : variations (fun destino => (before destino).getD 0) list =
    ((consecutive before list).filter (·.2.1 ≠ 0)).map
      fun pair => (milliSeconds (pair.2.2 - pair.2.1) : ℚ) := by
  induction list generalizing before with
  | nil => rfl
  | cons transit rest ih =>
      obtain ⟨destino, transit⟩ := transit
      have memory : Function.update (fun destino => (before destino).getD 0) destino transit =
          fun other => (Function.update before destino (some transit) other).getD 0 := by
        funext other
        by_cases same : other = destino
        · simp [same]
        · simp [same]
      rw [variations, memory, ih, consecutive, List.filter_append, List.map_append]
      cases before destino with
      | none => simp
      | some earlier =>
          by_cases none : earlier = 0
          · simp [none]
          · simp [none]

end

theorem milliSeconds_nonneg_iff {time : Int} : 0 ≤ milliSeconds time ↔ -1000 < time := by
  by_cases nonneg : 0 ≤ time
  · exact iff_of_true (milliSeconds_bounds nonneg).1 (by omega)
  · have opposite := @milliSeconds_bounds (-time) (by omega)
    rw [milliSeconds, Int.neg_tdiv, ← milliSeconds] at opposite
    omega

/-- The observer's samples are the distances just when it forgets no delay and none
falls. -/
theorem samples_iff {pairs : List (Ipv4Address × Int × Int)} :
    ofSamples ((pairs.filter (·.2.1 ≠ 0)).map
        fun pair => (milliSeconds (pair.2.2 - pair.2.1) : ℚ)) =
      ofSamples (pairs.map fun pair => distance pair.2.1 pair.2.2) ↔
        ∀ pair ∈ pairs, pair.2.1 ≠ 0 ∧ pair.2.1 < pair.2.2 + 1000 := by
  constructor
  · intro same
    obtain ⟨length, sum⟩ := length_sum_of_ofSamples_eq same
    rw [List.length_map, List.length_map] at length
    have kept := List.filter_sublist.eq_of_length length
    rw [kept] at sum
    intro pair member
    have known := List.filter_eq_self.mp kept pair member
    refine ⟨by simpa using known, ?_⟩
    by_contra falls
    have negative : (milliSeconds (pair.2.2 - pair.2.1) : ℚ) < 0 := by
      have fell := mt milliSeconds_nonneg_iff.mp (show ¬ -1000 < pair.2.2 - pair.2.1 by omega)
      exact_mod_cast not_le.mp fell
    refine absurd sum (ne_of_lt ?_)
    apply List.sum_lt_sum
    · exact fun other _ => le_abs_self _
    · exact ⟨pair, member, negative.trans_le (abs_nonneg _)⟩
  · intro growing
    have kept : pairs.filter (·.2.1 ≠ 0) = pairs :=
      List.filter_eq_self.mpr fun pair member => by simpa using (growing pair member).1
    rw [kept]
    refine congrArg ofSamples (List.map_congr_left fun pair member => ?_)
    have grew := (growing pair member).2
    have nonneg : 0 ≤ milliSeconds (pair.2.2 - pair.2.1) :=
      milliSeconds_nonneg_iff.mpr (by omega)
    exact (abs_of_nonneg (by exact_mod_cast nonneg)).symm

section

variable {notices : List Notice}

theorem jitter_traza (traza : Traza notices) : (new.observe notices).jitter =
    ofSamples (((consecutive (fun _ => none) (transits notices)).filter (·.2.1 ≠ 0)).map
      fun pair => (milliSeconds (pair.2.2 - pair.2.1) : ℚ)) := by
  have given := @variations_eq (fun _ => none) (transits notices)
  rw [(accounts_traza traza).jitter, memory_new]
  exact congrArg ofSamples given

theorem Growing.initial {earlier : List Notice} (growing : Growing notices)
    (initial : earlier <+: notices) : Growing earlier := by
  obtain ⟨further, listed⟩ := transits_prefix initial
  obtain ⟨later, continued⟩ := @consecutive_append (fun _ => none) (transits earlier) further
  rw [Growing, ← listed, continued] at growing
  exact fun pair member => growing pair (List.mem_append_left _ member)

end

theorem varies_iff (notices : List Notice) (traza : Traza notices) :
    Varies notices ↔ Growing notices := by
  constructor
  · intro varies
    have samples := varies.samples notices (List.prefix_refl notices)
    rw [jitter_traza traza, differences, List.map_map] at samples
    exact samples_iff.mp samples
  · intro growing
    have samples : ∀ earlier, earlier <+: notices →
        (new.observe earlier).jitter = ofSamples ((differences (transits earlier)).map (·.2)) := by
      intro earlier initial
      rw [jitter_traza (traza.initial initial), differences, List.map_map]
      exact samples_iff.mpr (growing.initial initial)
    refine ⟨samples, differences_destino, ?_, ?_⟩
    · intro destino
      have own := congrArg List.length (@differences_destino (transits notices) destino)
      rw [List.length_map, List.length_zipWith, List.length_tail] at own
      omega
    · intro mean known
      rw [getJitter, samples notices (List.prefix_refl notices), mean_ofSamples] at known
      split at known
      · cases known
      · cases known
        apply sampleMean_nonneg
        intro sample member
        obtain ⟨difference, listed, rfl⟩ := List.mem_map.mp member
        exact differences_nonneg difference listed

theorem traza_falling : Traza falling := ⟨by simp [falling, Notice.instante?], by decide⟩

/-- Two packets to one destination, the first of them with no delay. -/
def immediate : List Notice :=
  [.pktEnviado 0 { uid := 0, tipo := 0x21, destino := 1 },
    .pktRecibido 0 { uid := 0, tipo := 0x21, destino := 1 },
    .pktEnviado 0 { uid := 1, tipo := 0x21, destino := 1 },
    .pktRecibido 5000 { uid := 1, tipo := 0x21, destino := 1 }]

theorem varies_fails : (Traza falling ∧ ¬ Varies falling) ∧
    Traza immediate ∧ ¬ Varies immediate := by
  refine ⟨⟨traza_falling, fun varies => ?_⟩, ?_, fun varies => ?_⟩
  · have mean : (new.observe falling).getJitter = some (-299) := by decide +kernel
    have nonneg := varies.nonneg (-299) mean
    norm_num at nonneg
  · exact ⟨by simp [immediate, Notice.instante?], by decide⟩
  · have samples := congrArg size (varies.samples immediate (List.prefix_refl immediate))
    have none : (new.observe immediate).jitter.size = 0 := by decide +kernel
    have one : (differences (transits immediate)).length = 1 := by decide +kernel
    rw [none, size_ofSamples, List.length_map, one] at samples
    cases samples

theorem varies_rising : Varies rising := by
  refine (varies_iff rising ⟨by simp [rising, Notice.instante?], by decide⟩).mpr ?_
  intro pair member
  revert pair
  decide +kernel

end Simvoip.Observador
