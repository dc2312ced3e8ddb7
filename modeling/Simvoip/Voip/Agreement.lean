import Simvoip.Voip.Step

namespace Simvoip.System

open Simvoip.Data Simvoip.Net Simvoip.Semantics

variable {scenario : Scenario} {s t : System} {queue : EventQueue Action}
  {event : Event Action} {draws : Draws scenario} {phone : Nat}

/-! # The busy flag and the exchange

`m_ocupado` belongs to the phones and `llamadas` to the exchange.  Between the
events of one instant they may differ, if the event that brings them together
again is still to come.
-/

def Agree (scenario : Scenario) (s : System) : Prop :=
  s.queue.Quiescent → ∀ phone < scenario.phones,
    ((s.voips phone).ocupado = true ↔ s.central.Talking phone)

def End (s : System) (llamante phone : Nat) : Prop :=
  llamante ∈ s.central.llamadas ∧
    (phone = llamante ∨ s.central.llamadas.lookup llamante = some phone)

instance (s : System) (llamante phone : Nat) : Decidable (End s llamante phone) :=
  inferInstanceAs (Decidable (_ ∧ _))

theorem talking_iff_end : s.central.Talking phone ↔ ∃ llamante, End s llamante phone := by
  constructor
  · rintro (caller | ⟨llamante, callee⟩)
    · exact ⟨phone, caller, .inl rfl⟩
    · exact ⟨llamante, Finmap.mem_of_lookup_eq_some callee, .inr callee⟩
  · rintro ⟨llamante, present, rfl | callee⟩
    · exact .inl present
    · exact .inr ⟨llamante, callee⟩

/-- A busy phone talks or hangs up at this instant, and the calls of an idle
phone all end at this instant. -/
def Settling (s : System) (phone : Nat) : Prop :=
  if (s.voips phone).ocupado = true then
    s.central.Talking phone ∨ s.queue.Due s.queue.now (.cuelga phone)
  else ∀ llamante, End s llamante phone → s.queue.Due s.queue.now (.colgar llamante)

/-- What one event needs for the two sides to agree when its instant is over: a
refused caller is talking or hangs up now; a called phone is flagged already, or
the call ends now; a phone hangs up when its calls end; and when a call ends, its
flagged ends talk to somebody else or hang up now. -/
def Consistent (s : System) (draws : Draws scenario) (event : Event Action) : Prop :=
  match event.action with
  | .llama phone =>
      if (draws.llamado : Nat) ∈ s.central.llamadas then
        s.central.Talking phone ∨ s.queue.Due event.time (.cuelga phone)
      else phone ∈ s.central.llamadas ∨ (draws.llamado : Nat) = phone ∨
        (s.voips draws.llamado).ocupado = true ∨ draws.duracion = 0
  | .cuelga phone => ∀ llamante ∈ s.central.llamadas.keys,
      End s llamante phone → s.queue.Due event.time (.colgar llamante)
  | .colgar llamante =>
      ∀ phone ∈ llamante :: (s.central.llamadas.lookup llamante).toList,
        End s llamante phone → (s.voips phone).ocupado = true →
          (s.central.colgar llamante).Talking phone ∨ s.queue.Due event.time (.cuelga phone)
  | _ => True

instance (s : System) (draws : Draws scenario) : DecidablePred (Consistent s draws)
  | ⟨_, _, .llama _⟩ => inferInstanceAs (Decidable
      (if (draws.llamado : Nat) ∈ s.central.llamadas then _ ∨ _ else _ ∨ _ ∨ _ ∨ _))
  | ⟨_, _, .cuelga _⟩ => inferInstanceAs (Decidable (∀ llamante ∈ s.central.llamadas.keys, _))
  | ⟨_, _, .colgar llamante⟩ => inferInstanceAs (Decidable
      (∀ phone ∈ llamante :: (s.central.llamadas.lookup llamante).toList, _))
  | ⟨_, _, .startApplication _⟩ | ⟨_, _, .stopApplication _⟩ | ⟨_, _, .descuelga _ _ _⟩ =>
      inferInstanceAs (Decidable True)

theorem agree_of_settling (settling : ∀ phone, Settling s phone) : Agree scenario s := by
  intro quiescent phone _
  have here := settling phone
  unfold Settling at here
  constructor
  · intro flag
    rw [if_pos flag] at here
    exact here.resolve_right quiescent.not_due
  · intro talking
    by_contra idle
    rw [if_neg idle] at here
    obtain ⟨llamante, ends⟩ := talking_iff_end.mp talking
    exact quiescent.not_due (here llamante ends)

theorem due_step (wellFormed : WellFormed scenario s)
    (advances : EventQueue.Advances s.queue event queue)
    (change : Transition scenario s queue draws event t) {action : Action}
    (lasting : ∀ number, action ≠ .llama number) (different : event.action ≠ action)
    (due : s.queue.Due event.time action) : t.queue.Due t.queue.now action := by
  obtain ⟨other, member, instant, same⟩ := due
  subst same
  have known := s.queue.fresh other member
  have kept := (step_kept wellFormed advances change known lasting).mpr
    ⟨member, fun same => different (by rw [same])⟩
  exact ⟨other, kept, by rw [instant, change.now, advances.clock], rfl⟩

/-- An event that touches neither the flag of a phone nor the calls, and is no
hang-up of the phone or of a call, leaves the phone as settled as it was. -/
theorem settling_kept (wellFormed : WellFormed scenario s)
    (advances : EventQueue.Advances s.queue event queue)
    (change : Transition scenario s queue draws event t) (settling : Settling s phone)
    (flag : (t.voips phone).ocupado = (s.voips phone).ocupado)
    (entries : t.central.llamadas = s.central.llamadas)
    (notEnding : event.action ≠ .cuelga phone)
    (notHangUp : ∀ llamante, event.action ≠ .colgar llamante) : Settling t phone := by
  have lasts : ∀ {action : Action}, (∀ number, action ≠ .llama number) →
      event.action ≠ action → s.queue.Due s.queue.now action →
      t.queue.Due t.queue.now action :=
    fun lasting different due =>
      due_step wellFormed advances change lasting different (advances.due due)
  unfold Settling at settling ⊢
  rw [flag]
  by_cases occupied : (s.voips phone).ocupado = true
  · rw [if_pos occupied] at settling ⊢
    rcases settling with talking | due
    · left
      unfold Central.Talking Central.Callee at talking ⊢
      rw [entries]
      exact talking
    · exact .inr (lasts (by simp) notEnding due)
  · rw [if_neg occupied] at settling ⊢
    intro llamante ends
    unfold End at ends
    rw [entries] at ends
    exact lasts (by simp) (notHangUp llamante) (settling llamante ends)

theorem end_emplace {after : System} {llamante llamado number : Nat}
    (entries : after.central.llamadas = s.central.llamadas.emplace phone llamado)
    (ends : End after llamante number) :
    End s llamante number ∨ llamante = phone ∧ (number = phone ∨ number = llamado) := by
  obtain ⟨present, side⟩ := ends
  rw [entries] at present side
  unfold StdMap.emplace at present side
  split at present
  · rename_i engaged
    rw [if_pos engaged] at side
    exact .inl ⟨present, side⟩
  · rename_i idle
    rw [if_neg idle, StdMap.lookup_insert_iff] at side
    rw [Finmap.mem_insert] at present
    by_cases own : llamante = phone
    · refine .inr ⟨own, ?_⟩
      rcases side with same | ⟨_, same⟩ | ⟨other, _⟩
      · exact .inl (same.trans own)
      · exact .inr same.symm
      · exact absurd own other
    · refine .inl ⟨present.resolve_left own, ?_⟩
      exact side.imp id fun callee => (callee.resolve_left fun same => own same.1).2

theorem end_of_emplace {after : System} {llamante llamado number : Nat}
    (entries : after.central.llamadas = s.central.llamadas.emplace phone llamado)
    (ends : End s llamante number) : End after llamante number := by
  unfold End
  rw [entries]
  unfold StdMap.emplace
  split
  · exact ends
  · rename_i idle
    have other : llamante ≠ phone := fun same => idle (same ▸ ends.1)
    rw [Finmap.mem_insert, Finmap.lookup_insert_of_ne _ other]
    exact ⟨.inr ends.1, ends.2⟩

theorem settling_setUp (settling : ∀ phone, Settling s phone) {llamado duracion : Nat}
    (soon : ∀ {action : Action}, (∀ number, action ≠ .llama number) → event.action ≠ action →
      s.queue.Due event.time action → t.queue.Due t.queue.now action)
    (advances : EventQueue.Advances s.queue event queue) (action : event.action = .llama phone)
    (entries : t.central.llamadas = s.central.llamadas.emplace phone llamado)
    (flag : (t.voips phone).ocupado = true)
    (others : ∀ number, number ≠ phone →
      (t.voips number).ocupado = (s.voips number).ocupado)
    (hangUp : duracion = 0 → t.queue.Due t.queue.now (.colgar phone))
    (consistent : phone ∈ s.central.llamadas ∨ llamado = phone ∨
      (s.voips llamado).ocupado = true ∨ duracion = 0) : ∀ phone, Settling t phone := by
  intro number
  unfold Settling
  by_cases own : number = phone
  · subst own
    rw [if_pos flag]
    refine .inl (.inl ?_)
    rw [entries]
    exact StdMap.mem_emplace
  · have before := settling number
    unfold Settling at before
    rw [others number own]
    by_cases occupied : (s.voips number).ocupado = true
    · rw [if_pos occupied] at before ⊢
      rcases before with talking | due
      · obtain ⟨llamante, ends⟩ := talking_iff_end.mp talking
        exact .inl (talking_iff_end.mpr ⟨llamante, end_of_emplace entries ends⟩)
      · exact .inr (soon (by simp) (by simp [action]) (advances.due due))
    · rw [if_neg occupied] at before ⊢
      intro llamante ends
      rcases end_emplace entries ends with old | ⟨rfl, same | rfl⟩
      · exact soon (by simp) (by simp [action]) (advances.due (before llamante old))
      · exact absurd same own
      · rcases consistent with engaged | same | called | instantly
        · -- the caller keeps an older entry, so this end belongs to that one
          have kept : End s llamante number := by
            unfold End at ends
            rw [entries, StdMap.emplace_of_mem _ engaged] at ends
            exact ends
          exact soon (by simp) (by simp [action]) (advances.due (before llamante kept))
        · exact absurd same own
        · exact absurd called occupied
        · exact hangUp instantly

/-- A flagged end of the call that ends talks on, or hangs up now; an idle end of
another call keeps its own. -/
theorem settling_colgar (settling : ∀ phone, Settling s phone) {hung : Nat}
    (soon : ∀ {action : Action}, (∀ number, action ≠ .llama number) → event.action ≠ action →
      s.queue.Due event.time action → t.queue.Due t.queue.now action)
    (advances : EventQueue.Advances s.queue event queue) (action : event.action = .colgar hung)
    (central : t.central = s.central.colgar hung) (voips : t.voips = s.voips)
    (consistent : ∀ phone ∈ hung :: (s.central.llamadas.lookup hung).toList,
      End s hung phone → (s.voips phone).ocupado = true →
        (s.central.colgar hung).Talking phone ∨ s.queue.Due event.time (.cuelga phone)) :
    ∀ phone, Settling t phone := by
  intro number
  have before := settling number
  unfold Settling at before ⊢
  rw [voips, central]
  by_cases occupied : (s.voips number).ocupado = true
  · rw [if_pos occupied] at before ⊢
    rcases before with talking | due
    · obtain ⟨llamante, ends⟩ := talking_iff_end.mp talking
      by_cases same : llamante = hung
      · subst same
        have listed : number ∈ llamante :: (s.central.llamadas.lookup llamante).toList := by
          rcases ends.2 with rfl | callee
          · exact List.mem_cons_self
          · exact List.mem_cons_of_mem _ (Option.mem_toList.mpr callee)
        exact (consistent number listed ends occupied).imp id (soon (by simp) (by simp [action]))
      · left
        rw [← central]
        apply talking_iff_end.mpr
        refine ⟨llamante, ?_⟩
        rw [End, central]
        refine ⟨Finmap.mem_erase.mpr ⟨same, ends.1⟩, ends.2.imp id fun callee => ?_⟩
        exact StdMap.lookup_erase_iff.mpr ⟨same, callee⟩
    · exact .inr (soon (by simp) (by simp [action]) (advances.due due))
  · rw [if_neg occupied] at before ⊢
    intro llamante ends
    rw [End, central] at ends
    obtain ⟨present, side⟩ := ends
    obtain ⟨other, found⟩ := Finmap.mem_erase.mp present
    have older : End s llamante number :=
      ⟨found, side.imp id fun callee => (StdMap.lookup_erase_iff.mp callee).2⟩
    exact soon (by simp) (by simpa [action] using Ne.symm other)
      (advances.due (before llamante older))

theorem settling_step (wellFormed : WellFormed scenario s) (settling : ∀ phone, Settling s phone)
    (advances : EventQueue.Advances s.queue event queue)
    (change : Transition scenario s queue draws event t)
    (consistent : Consistent s draws event) : ∀ phone, Settling t phone := by
  have kept := fun phone => settling_kept wellFormed advances change (settling phone)
  have soon : ∀ {action : Action}, (∀ number, action ≠ .llama number) → event.action ≠ action →
      s.queue.Due event.time action → t.queue.Due t.queue.now action :=
    due_step wellFormed advances change
  unfold Consistent at consistent
  cases change with
  | stop phone action =>
      exact fun number => kept number rfl rfl (by simp [action]) (by simp [action])
  | start phone action | descuelga phone destino duracion action =>
      exact fun number => kept number (update_kept Voip.ocupado (by rfl) number) rfl
        (by simp [action]) (by simp [action])
  | busy phone action busy =>
      simp only [action, if_pos busy] at consistent
      intro number
      by_cases own : number = phone
      · subst own
        unfold Settling
        rw [if_pos (by simp [Voip.awaiting, Voip.dialling])]
        exact consistent.imp id (soon (by simp) (by simp [action]))
      · exact kept number (by simp [Function.update_of_ne own]) rfl (by simp [action])
          (by simp [action])
  | cuelga phone action =>
      simp only [action] at consistent
      intro number
      by_cases own : number = phone
      · subst own
        unfold Settling
        rw [if_neg (by simp [Voip.released, Voip.awaiting, Voip.idle])]
        intro llamante ends
        refine soon (by simp) (by simp [action]) (consistent llamante ?_ ends)
        exact Finmap.mem_keys.mpr ends.1
      · exact kept number (by simp [Function.update_of_ne own]) rfl
          (by simpa [action] using Ne.symm own) (by simp [action])
  | setUp phone action free =>
      simp only [action, if_neg free] at consistent
      refine settling_setUp settling soon advances action rfl ?_ ?_ ?_ consistent
      · simp [Voip.hangingUp, Voip.sending, Voip.dialling]
      · exact fun number other => by simp [Function.update_of_ne other]
      · intro instantly
        refine ⟨(newCall queue draws event phone).colgar,
          (mem_callEvents s event).mpr (.inr (.inl rfl)), ?_, rfl⟩
        simp [newCall, callEvents, instantly]
  | colgar hung action =>
      simp only [action] at consistent
      exact settling_colgar settling soon advances action rfl rfl consistent

theorem settling_initial (scenario : Scenario) : Settling (initial scenario) phone := by
  have untouched := Untouched.initial scenario
  unfold Settling
  rw [if_neg (by simp [untouched.flags])]
  intro llamante ⟨present, _⟩
  rw [untouched.entries] at present
  exact absurd present Finmap.notMem_empty

theorem agree_of_consistent (scenario : Scenario) (inputs : List (Draws scenario))
    (consistent : Stepwise step (fun s draws => s.Upcoming (Consistent s draws))
      (initial scenario) inputs) :
    Throughout step (Agree scenario) (initial scenario) inputs := by
  have settled : Throughout step (fun s => WellFormed scenario s ∧ ∀ phone, Settling s phone)
      (initial scenario) inputs := by
    refine throughout_of_stepwise ?_
      ⟨WellFormed.initial scenario, fun _ => settling_initial scenario⟩ consistent
    intro before draws next ⟨wellFormed, settling⟩ guarded taken
    obtain ⟨event, queue, advances, change⟩ := step_cases wellFormed taken
    have here := (upcoming_iff advances).mp guarded
    exact ⟨wellFormed.step taken, settling_step wellFormed settling advances change here⟩
  exact settled.mono fun s ⟨_, settling⟩ => agree_of_settling settling

/-- Phone 0 calls phone 1, which answers without being flagged and hangs up at
once, since it never drew a duration. -/
def unflagged : List (Draws twoPhones) := [
  ⟨10, 0, (0 : Fin 2)⟩, ⟨1000, 0, (0 : Fin 2)⟩, ⟨0, 5, (1 : Fin 2)⟩, ⟨0, 0, (0 : Fin 2)⟩,
  ⟨500, 0, (0 : Fin 2)⟩]

theorem agree_fails :
    ∃ after, run step (initial twoPhones) unflagged = some after ∧ ¬ Agree twoPhones after := by
  have apart : ∃ after, run step (initial twoPhones) unflagged = some after ∧
      (∀ event ∈ after.queue.pending, after.queue.now < event.time) ∧
        (after.voips 1).ocupado = false ∧ after.central.Talking 1 :=
    exists_run (by decide +kernel)
  obtain ⟨after, completed, quiescent, idle, talking⟩ := apart
  refine ⟨after, completed, fun agree => ?_⟩
  have busy := (agree quiescent 1 (by decide)).mpr talking
  rw [idle] at busy
  cases busy

def flagged : List (Draws twoPhones) := [
  ⟨10, 0, (0 : Fin 2)⟩, ⟨1000, 0, (0 : Fin 2)⟩, ⟨0, 5, (0 : Fin 2)⟩, ⟨0, 0, (0 : Fin 2)⟩,
  ⟨0, 0, (0 : Fin 2)⟩, ⟨5, 0, (0 : Fin 2)⟩, ⟨5, 0, (0 : Fin 2)⟩]

theorem agree_holds : Throughout step (Agree twoPhones) (initial twoPhones) flagged :=
  agree_of_consistent _ _ (by decide +kernel)

end Simvoip.System
