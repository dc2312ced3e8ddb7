import Mathlib.Algebra.Order.BigOperators.Group.List
import Mathlib.Tactic.Linarith
import Simvoip.Data.Matching
import Simvoip.Observador.Average
import Simvoip.Observador.Conservation

namespace Simvoip.Observador

open Simvoip.Data Simvoip.Net

/-! # The packets that the observer matches -/

/-- What a notice tells of an IPv4 packet. -/
def transfer : Notice → Option (Transfer Nat Nat (Nat × Ipv4Address))
  | .pktEnviado ahora paquete =>
      if paquete.tipo = ipv4Protocol then some (.sent paquete.uid ahora) else none
  | .pktRecibido ahora paquete =>
      if paquete.tipo = ipv4Protocol then some (.received paquete.uid (ahora, paquete.destino))
      else none
  | _ => none

def transfers (notices : List Notice) : List (Transfer Nat Nat (Nat × Ipv4Address)) :=
  notices.filterMap transfer

/-- The receptions of pending packets: to where, and how long after the most
recent send. -/
def transits (notices : List Notice) : List (Ipv4Address × Int) :=
  (Transfer.matching (transfers notices)).map fun pair => (pair.2.2, (pair.2.1 : Int) - pair.1)

def delays (transits : List (Ipv4Address × Int)) : List ℚ :=
  transits.map fun transit => (milliSeconds transit.2 : ℚ)

theorem delays_append (first second : List (Ipv4Address × Int)) :
    delays (first ++ second) = delays first ++ delays second :=
  List.map_append

/-- The differences between the delays of consecutive packets to a destination.  A
delay of zero is forgotten. -/
def variations (memory : Ipv4Address → Int) : List (Ipv4Address × Int) → List ℚ
  | [] => []
  | (destino, transit) :: rest =>
      (if memory destino = 0 then [] else [(milliSeconds (transit - memory destino) : ℚ)]) ++
        variations (Function.update memory destino transit) rest

def remember (memory : Ipv4Address → Int) (transits : List (Ipv4Address × Int)) :
    Ipv4Address → Int :=
  transits.foldl (fun memory transit => Function.update memory transit.1 transit.2) memory

theorem variations_append (memory : Ipv4Address → Int) (first second : List (Ipv4Address × Int)) :
    variations memory (first ++ second) =
      variations memory first ++ variations (remember memory first) second := by
  induction first generalizing memory with
  | nil => rfl
  | cons transit first ih =>
      rw [List.cons_append, variations, ih, variations, List.append_assoc]
      rfl

/-- The delays that the observer remembers, zero where it has none. -/
def memory (o : Observador) (destino : Ipv4Address) : Int :=
  (o.arrayTiempoAnterior.lookup destino).getD 0

theorem pktRecibido_ignored {o : Observador} {paquete : Paquete} (ahora : Nat)
    (ignored : paquete.tipo ≠ ipv4Protocol ∨ o.array.lookup paquete.uid = none) :
    o.pktRecibido ahora paquete = o := by
  unfold pktRecibido
  rcases ignored with other | absent
  · rw [if_neg other]
  · split
    · rw [absent]
    · rfl

/-- The effect of the reception of a pending packet. -/
structure Matched (o : Observador) (destino : Ipv4Address) (transit : Int) (next : Observador) :
    Prop where
  retardo : next.retardo = o.retardo.update (milliSeconds transit)
  jitter : next.jitter = (variations o.memory [(destino, transit)]).foldl Average.update o.jitter
  recibidos : next.recibidos = o.recibidos + 1
  memory : next.memory = Function.update o.memory destino transit

theorem pktRecibido_matched {o : Observador} {paquete : Paquete} (ahora : Nat) {envio : Nat}
    (ipv4 : paquete.tipo = ipv4Protocol) (found : o.array.lookup paquete.uid = some envio) :
    Matched o paquete.destino (ahora - envio) (o.pktRecibido ahora paquete) ∧
      (o.pktRecibido ahora paquete).array = o.array.erase paquete.uid := by
  have anterior := StdMap.index_fst o.arrayTiempoAnterior paquete.destino 0
  have received := pktRecibido.eq_def o ahora paquete
  rw [if_pos ipv4, found] at received
  rw [received]
  refine ⟨⟨rfl, ?_, rfl, ?_⟩, rfl⟩
  · simp only [anterior, variations, memory]
    by_cases unknown : (o.arrayTiempoAnterior.lookup paquete.destino).getD 0 = 0
    · simp only [unknown, if_true]
      rfl
    · simp only [unknown, if_false]
      rfl
  · funext destino
    by_cases same : destino = paquete.destino
    · subst same
      simp [memory, Finmap.lookup_insert]
    · simp [memory, Finmap.lookup_insert_of_ne _ same, Function.update_of_ne same,
        StdMap.getD_lookup_index]

/-- What a run over these notices, which reset nothing, makes of an observer for
which none of their packets is pending. -/
structure Accounts (o : Observador) (notices : List Notice) (after : Observador) : Prop where
  array : ∀ uid ∉ o.array, after.array.lookup uid = Transfer.outstanding (transfers notices) uid
  retardo : after.retardo = (delays (transits notices)).foldl Average.update o.retardo
  jitter : after.jitter =
    (variations o.memory (transits notices)).foldl Average.update o.jitter
  recibidos : after.recibidos = o.recibidos + (transits notices).length
  memory : after.memory = remember o.memory (transits notices)

/-- The packet of a notice. -/
def Notice.uid? : Notice → Option Nat
  | .pktEnviado _ paquete => some paquete.uid
  | .pktRecibido _ paquete => some paquete.uid
  | _ => none

section

variable {o before next : Observador} {notices : List Notice} {notice : Notice}

theorem transfer_cases {told : Transfer Nat Nat (Nat × Ipv4Address)}
    (tells : transfer notice = some told) :
    (∃ ahora paquete, notice = .pktEnviado ahora paquete ∧ told = .sent paquete.uid ahora) ∨
      ∃ ahora paquete, notice = .pktRecibido ahora paquete ∧
        told = .received paquete.uid (ahora, paquete.destino) := by
  cases notice with
  | pktEnviado ahora paquete =>
      obtain ⟨_, same⟩ := Option.ite_none_right_eq_some.mp tells
      exact .inl ⟨ahora, paquete, rfl, (Option.some.inj same).symm⟩
  | pktRecibido ahora paquete =>
      obtain ⟨_, same⟩ := Option.ite_none_right_eq_some.mp tells
      exact .inr ⟨ahora, paquete, rfl, (Option.some.inj same).symm⟩
  | actualizarNumLlamadas number => cases tells
  | empiezaTransmitir ahora => cases tells
  | terminaTransmitir ahora => cases tells
  | reset => cases tells

theorem transfers_skipped (silent : transfer notice = none) :
    transfers (notices ++ [notice]) = transfers notices := by
  simp [transfers, silent]

theorem transfers_told {told : Transfer Nat Nat (Nat × Ipv4Address)}
    (tells : transfer notice = some told) :
    transfers (notices ++ [notice]) = transfers notices ++ [told] := by
  simp [transfers, tells]

/-- A notice of no match leaves all of these as they are. -/
theorem Accounts.unmatched (accounts : Accounts o notices before)
    (unmatched : transits (notices ++ [notice]) = transits notices)
    (array : ∀ uid ∉ o.array, next.array.lookup uid =
      Transfer.outstanding (transfers (notices ++ [notice])) uid)
    (same : next.retardo = before.retardo ∧ next.jitter = before.jitter ∧
      next.recibidos = before.recibidos ∧ next.arrayTiempoAnterior = before.arrayTiempoAnterior) :
    Accounts o (notices ++ [notice]) next := by
  obtain ⟨retardo, jitter, recibidos, anterior⟩ := same
  refine ⟨array, ?_, ?_, ?_, ?_⟩
  · rw [unmatched, retardo, accounts.retardo]
  · rw [unmatched, jitter, accounts.jitter]
  · rw [unmatched, recibidos, accounts.recibidos]
  · rw [unmatched, ← accounts.memory]
    funext destino
    simp only [Observador.memory, anterior]

theorem Accounts.skipped (accounts : Accounts o notices before) (silent : transfer notice = none)
    (array : next.array = before.array)
    (same : next.retardo = before.retardo ∧ next.jitter = before.jitter ∧
      next.recibidos = before.recibidos ∧ next.arrayTiempoAnterior = before.arrayTiempoAnterior) :
    Accounts o (notices ++ [notice]) next := by
  refine accounts.unmatched ?_ ?_ same
  · rw [transits, transfers_skipped silent]
    rfl
  · intro uid absent
    rw [transfers_skipped silent, array, accounts.array uid absent]

theorem Accounts.matched {destino : Ipv4Address} {transit : Int}
    (accounts : Accounts o notices before) (matched : Matched before destino transit next)
    (listed : transits (notices ++ [notice]) = transits notices ++ [(destino, transit)])
    (array : ∀ uid ∉ o.array, next.array.lookup uid =
      Transfer.outstanding (transfers (notices ++ [notice])) uid) :
    Accounts o (notices ++ [notice]) next := by
  refine ⟨array, ?_, ?_, ?_, ?_⟩
  · rw [listed, matched.retardo, accounts.retardo, delays_append, List.foldl_append]
    rfl
  · rw [listed, matched.jitter, accounts.jitter, variations_append, List.foldl_append,
      accounts.memory]
  · rw [listed, matched.recibidos, accounts.recibidos, List.length_append, Nat.add_assoc]
    rfl
  · rw [listed, matched.memory, accounts.memory, remember, remember, List.foldl_append]
    rfl

theorem Accounts.step (accounts : Accounts o notices before) (kept : notice ≠ .reset)
    (fresh : ∀ uid ∈ notice.uid?, uid ∉ o.array) :
    Accounts o (notices ++ [notice]) (before.handle notice) := by
  cases notice with
  | pktEnviado ahora paquete =>
      by_cases ipv4 : paquete.tipo = ipv4Protocol
      · have told : transfers (notices ++ [.pktEnviado ahora paquete]) =
            transfers notices ++ [.sent paquete.uid ahora] := transfers_told (if_pos ipv4)
        have array : (before.pktEnviado ahora paquete).array =
            before.array.insert paquete.uid ahora := by
          simp only [pktEnviado, ipv4, if_true]
        refine accounts.unmatched ?_ ?_ (by simp [handle, pktEnviado, ipv4])
        · rw [transits, told, Transfer.matching_sent]
          rfl
        · intro uid absent
          rw [told, Transfer.outstanding_sent, handle, array]
          by_cases same : uid = paquete.uid
          · rw [if_pos same, same, Finmap.lookup_insert]
          · rw [if_neg same, Finmap.lookup_insert_of_ne _ same, accounts.array uid absent]
      · exact accounts.skipped (if_neg ipv4) (by simp [handle, pktEnviado, ipv4])
          (by simp [handle, pktEnviado, ipv4])
  | pktRecibido ahora paquete =>
      by_cases ipv4 : paquete.tipo = ipv4Protocol
      · have told : transfers (notices ++ [.pktRecibido ahora paquete]) =
            transfers notices ++ [.received paquete.uid (ahora, paquete.destino)] :=
          transfers_told (if_pos ipv4)
        have pending := accounts.array paquete.uid (fresh paquete.uid rfl)
        cases found : before.array.lookup paquete.uid with
        | none =>
            rw [handle, pktRecibido_ignored ahora (.inr found)]
            refine accounts.unmatched ?_ ?_ ⟨rfl, rfl, rfl, rfl⟩
            · rw [transits, told, Transfer.matching_received, ← pending, found]
              exact congrArg _ (List.append_nil _)
            · intro uid absent
              rw [told, Transfer.outstanding_received]
              by_cases same : uid = paquete.uid
              · rw [if_pos same, same, found]
              · rw [if_neg same, accounts.array uid absent]
        | some envio =>
            obtain ⟨matched, array⟩ := pktRecibido_matched ahora ipv4 found
            refine accounts.matched matched ?_ ?_
            · rw [transits, told, Transfer.matching_received, ← pending, found, List.map_append]
              rfl
            · intro uid absent
              rw [told, Transfer.outstanding_received, handle, array]
              by_cases same : uid = paquete.uid
              · rw [if_pos same, same, Finmap.lookup_erase]
              · rw [if_neg same, Finmap.lookup_erase_ne same, accounts.array uid absent]
      · rw [handle, pktRecibido_ignored ahora (.inl ipv4)]
        exact accounts.skipped (if_neg ipv4) rfl ⟨rfl, rfl, rfl, rfl⟩
  | actualizarNumLlamadas number => exact accounts.skipped rfl rfl ⟨rfl, rfl, rfl, rfl⟩
  | empiezaTransmitir ahora => exact accounts.skipped rfl rfl ⟨rfl, rfl, rfl, rfl⟩
  | terminaTransmitir ahora => exact accounts.skipped rfl rfl ⟨rfl, rfl, rfl, rfl⟩
  | reset => exact absurd rfl kept

theorem accounts_observe (kept : ∀ notice ∈ notices, notice ≠ .reset)
    (fresh : ∀ notice ∈ notices, ∀ uid ∈ notice.uid?, uid ∉ o.array) :
    Accounts o notices (o.observe notices) := by
  induction notices using List.reverseRecOn with
  | nil =>
      refine ⟨fun uid absent => ?_, rfl, rfl, rfl, rfl⟩
      exact Finmap.lookup_eq_none.mpr absent
  | append_singleton notices notice ih =>
      have earlier := ih
        (fun other member => kept other (List.mem_append_left _ member))
        (fun other member => fresh other (List.mem_append_left _ member))
      have last : notice ∈ notices ++ [notice] := by simp
      rw [observe, List.foldl_append]
      exact earlier.step (kept notice last) (fresh notice last)

theorem accounts_new (kept : ∀ notice ∈ notices, notice ≠ .reset) :
    Accounts new notices (new.observe notices) :=
  accounts_observe kept fun _ _ _ _ => Finmap.notMem_empty

end

/-! # The specification by history -/

/-- The instant of a notice about a packet. -/
def Notice.instante? : Notice → Option Nat
  | .pktEnviado ahora _ => some ahora
  | .pktRecibido ahora _ => some ahora
  | _ => none

/-- Notices about packets only, in the order of their instants. -/
structure Traza (notices : List Notice) : Prop where
  packets : ∀ notice ∈ notices, notice.instante?.isSome
  ordered : (notices.filterMap Notice.instante?).Pairwise (· ≤ ·)

/-- The exact mean of the delays, in milliseconds. -/
def meanDelay (transits : List (Ipv4Address × Int)) : ℚ :=
  ((transits.map (·.2)).sum : Int) / 1000 / transits.length

/-- What the fields of the observer mean in terms of the history of its packets. -/
structure Matches (notices : List Notice) : Prop where
  pending : ∀ uid envio, (new.observe notices).array.lookup uid = some envio ↔
    Transfer.Outstanding (transfers notices) uid envio
  samples : ∀ earlier, earlier <+: notices →
    (new.observe earlier).retardo = Average.ofSamples (delays (transits earlier)) ∧
      transits earlier <+: transits notices
  received : (new.observe notices).recibidos = (transits notices).length
  nonneg : ∀ sample ∈ delays (transits notices), 0 ≤ sample
  accurate : transits notices ≠ [] → ∃ mean, (new.observe notices).retardo.mean = some mean ∧
    |mean - meanDelay (transits notices)| < 1
  ignored : ∀ ahora paquete, paquete.tipo ≠ ipv4Protocol ∨
    (∀ envio, ¬ Transfer.Outstanding (transfers notices) paquete.uid envio) →
      (new.observe notices).pktRecibido ahora paquete = new.observe notices

section

variable {notices : List Notice}

/-- The instant of a transfer. -/
def instante : Transfer Nat Nat (Nat × Ipv4Address) → Nat
  | .sent _ ahora => ahora
  | .received _ (ahora, _) => ahora

theorem instante_of_transfer {notice : Notice} {told : Transfer Nat Nat (Nat × Ipv4Address)}
    (tells : transfer notice = some told) : notice.instante? = some (instante told) := by
  rcases transfer_cases tells with ⟨ahora, paquete, rfl, rfl⟩ | ⟨ahora, paquete, rfl, rfl⟩
  · rfl
  · rfl

/-- A packet is not received before it was sent. -/
theorem transit_nonneg (ordered : (notices.filterMap Notice.instante?).Pairwise (· ≤ ·))
    {transit : Ipv4Address × Int} (member : transit ∈ transits notices) : 0 ≤ transit.2 := by
  obtain ⟨⟨envio, ahora, destino⟩, listed, rfl⟩ := List.mem_map.mp member
  obtain ⟨before, uid, after, split, found⟩ := Transfer.received_of_matching listed
  have sorted : (transfers notices).Pairwise fun first second =>
      instante first ≤ instante second := by
    rw [transfers, List.pairwise_filterMap]
    rw [List.pairwise_filterMap] at ordered
    refine ordered.imp fun later first one second other => ?_
    exact later _ (instante_of_transfer one) _ (instante_of_transfer other)
  rw [split, List.pairwise_append] at sorted
  have order := sorted.2.2 _ (Transfer.sent_of_outstanding found) _ (List.mem_cons_self ..)
  change envio ≤ ahora at order
  change 0 ≤ (ahora : Int) - envio
  omega

theorem milliSeconds_bounds {time : Int} (nonneg : 0 ≤ time) :
    0 ≤ milliSeconds time ∧ milliSeconds time * 1000 ≤ time ∧
      time ≤ milliSeconds time * 1000 + 999 := by
  rw [milliSeconds, Int.tdiv_eq_ediv_of_nonneg nonneg]
  omega

/-- The delays in whole milliseconds add up to the sum of the delays, short of less
than one millisecond for each. -/
theorem sum_delays (list : List (Ipv4Address × Int)) (nonneg : ∀ transit ∈ list, 0 ≤ transit.2) :
    ∃ total : Int, (delays list).sum = total ∧ total * 1000 ≤ (list.map (·.2)).sum ∧
      (list.map (·.2)).sum ≤ total * 1000 + 999 * list.length := by
  induction list with
  | nil => exact ⟨0, by simp [delays]⟩
  | cons transit rest ih =>
      obtain ⟨total, exactly, lower, upper⟩ :=
        ih fun other member => nonneg other (List.mem_cons_of_mem _ member)
      have bounds := milliSeconds_bounds (nonneg transit (List.mem_cons_self ..))
      refine ⟨milliSeconds transit.2 + total, ?_, ?_, ?_⟩
      · rw [delays, List.map_cons, List.sum_cons]
        push_cast
        exact congrArg _ exactly
      · rw [List.map_cons, List.sum_cons]
        omega
      · rw [List.map_cons, List.sum_cons, List.length_cons]
        push_cast
        omega

theorem mean_accurate {list : List (Ipv4Address × Int)} (inhabited : list ≠ [])
    (nonneg : ∀ transit ∈ list, 0 ≤ transit.2) :
    |Average.sampleMean (delays list) - meanDelay list| < 1 := by
  obtain ⟨total, exactly, lower, upper⟩ := sum_delays list nonneg
  have positive : (0 : ℚ) < list.length := Nat.cast_pos.mpr (List.length_pos_iff.mpr inhabited)
  have lower' : (total : ℚ) * 1000 ≤ ((list.map (·.2)).sum : ℤ) := by exact_mod_cast lower
  have upper' : (((list.map (·.2)).sum : ℤ) : ℚ) ≤ total * 1000 + 999 * list.length := by
    exact_mod_cast upper
  have length : (delays list).length = list.length := List.length_map ..
  rw [Average.sampleMean, meanDelay, exactly, length, ← sub_div, abs_lt, lt_div_iff₀ positive, div_lt_iff₀ positive]
  constructor
  · linarith
  · linarith

theorem transits_prefix {earlier : List Notice} (initial : earlier <+: notices) :
    transits earlier <+: transits notices := by
  obtain ⟨later, rfl⟩ := initial
  rw [transits, transits, transfers, transfers, List.filterMap_append]
  exact (Transfer.matching_prefix _ _).map _

theorem Traza.initial {earlier : List Notice} (traza : Traza notices)
    (initial : earlier <+: notices) : Traza earlier where
  packets notice member := traza.packets notice (initial.subset member)
  ordered := traza.ordered.sublist (initial.sublist.filterMap _)

theorem accounts_traza (traza : Traza notices) : Accounts new notices (new.observe notices) := by
  apply accounts_new
  intro notice member same
  have packet := traza.packets notice member
  rw [same] at packet
  cases packet

theorem pending_iff (traza : Traza notices) (uid envio : Nat) :
    (new.observe notices).array.lookup uid = some envio ↔
      Transfer.Outstanding (transfers notices) uid envio := by
  rw [(accounts_traza traza).array uid Finmap.notMem_empty, Transfer.outstanding_iff]

theorem matches_observe (notices : List Notice) (traza : Traza notices) : Matches notices := by
  have accounts := accounts_traza traza
  have samples : ∀ earlier, earlier <+: notices →
      (new.observe earlier).retardo = Average.ofSamples (delays (transits earlier)) := by
    intro earlier initial
    exact (accounts_traza (traza.initial initial)).retardo
  have nonneg : ∀ transit ∈ transits notices, 0 ≤ transit.2 :=
    fun transit member => transit_nonneg traza.ordered member
  refine ⟨pending_iff traza, ?_, ?_, ?_, ?_, ?_⟩
  · intro earlier initial
    exact ⟨samples earlier initial, transits_prefix initial⟩
  · exact accounts.recibidos.trans (Nat.zero_add _)
  · intro sample member
    obtain ⟨transit, listed, rfl⟩ := List.mem_map.mp member
    exact_mod_cast (milliSeconds_bounds (nonneg transit listed)).1
  · intro inhabited
    have some : delays (transits notices) ≠ [] := mt List.map_eq_nil_iff.mp inhabited
    refine ⟨_, ?_, mean_accurate inhabited nonneg⟩
    rw [samples notices (List.prefix_refl notices), Average.mean_ofSamples, if_neg some]
  · intro ahora paquete unmatched
    refine pktRecibido_ignored ahora (unmatched.imp_right fun none => ?_)
    rw [Option.eq_none_iff_forall_ne_some]
    intro envio found
    exact none envio ((pending_iff traza _ _).mp found)

end

/-- A packet that is sent again before it arrives, then arrives a second time, and one
that was never sent. -/
def resent : List Notice :=
  [.pktEnviado 0 { uid := 7, tipo := 0x21, destino := 1 },
    .pktEnviado 400 { uid := 8, tipo := 0x21, destino := 2 },
    .pktEnviado 1000 { uid := 7, tipo := 0x21, destino := 1 },
    .pktRecibido 2500 { uid := 7, tipo := 0x21, destino := 1 },
    .pktRecibido 2600 { uid := 9, tipo := 0x21, destino := 2 },
    .pktRecibido 2700 { uid := 7, tipo := 0x21, destino := 1 },
    .pktRecibido 3400 { uid := 8, tipo := 0x21, destino := 2 }]

theorem matches_resent : Matches resent :=
  matches_observe resent ⟨by simp [resent, Notice.instante?], by decide⟩

end Simvoip.Observador
