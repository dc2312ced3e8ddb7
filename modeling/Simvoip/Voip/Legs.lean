import Simvoip.Voip.Step

namespace Simvoip.System

open Simvoip.Data Simvoip.Net Simvoip.Semantics

variable {scenario : Scenario} {s t : System} {queue : EventQueue Action}
  {event : Event Action} {draws : Draws scenario} {phone : Nat}

/-! # Senders and their release

A leg lives from its installation to its own `Cuelga`.  `Cuelga` releases what the
pointer and the container of its phone name at that time.
-/

def Leg.Open (s : System) (leg : Leg) : Prop := leg.cuelga ∈ s.queue.pending

instance (s : System) (leg : Leg) : Decidable (Leg.Open s leg) :=
  inferInstanceAs (Decidable (_ ∈ _))

def stopsOf (s : System) (app : Nat) : List (Event Action) :=
  (s.log.stops.filter (·.app = app)).map (·.event)

def deletesOf (s : System) (helper : Nat) : List (Event Action) :=
  (s.log.deletes.filter (·.helper = helper)).map (·.event)

/-- Every sender is released once, by its own hang-up, and a phone holds the
sender of its open leg and nothing else. -/
structure Paired (s : System) : Prop where
  stopped : ∀ leg ∈ s.log.legs, s.stopsOf leg.app = if Leg.Open s leg then [] else [leg.cuelga]
  deleted : ∀ leg ∈ s.log.legs,
    s.deletesOf leg.helper = if Leg.Open s leg then [] else [leg.cuelga]
  single : ∀ leg ∈ s.log.legs, ∀ other ∈ s.log.legs, Leg.Open s leg → Leg.Open s other →
    leg.phone = other.phone → leg = other
  current : ∀ leg ∈ s.log.legs, Leg.Open s leg →
    (s.voips leg.phone).appOnOff = some leg.helper ∧ (s.voips leg.phone).appc = [leg.app]
  null : ∀ phone, (∀ leg ∈ s.log.legs, Leg.Open s leg → leg.phone ≠ phone) →
    (s.voips phone).appOnOff = none

/-- What holds whether or not legs overlap. -/
structure Installed (s : System) : Prop where
  hangsUp : ∀ leg ∈ s.log.legs, leg.cuelga.action = .cuelga leg.phone
  known : ∀ leg ∈ s.log.legs, leg.cuelga.uid < s.queue.nextUid
  logged : ∀ event ∈ s.queue.pending, ∀ phone, event.action = .cuelga phone →
    ∃ leg ∈ s.log.legs, leg.cuelga = event
  allocated : ∀ leg ∈ s.log.legs, leg.app < s.apps ∧ leg.helper < s.helpers
  distinct : ∀ leg ∈ s.log.legs, ∀ other ∈ s.log.legs,
    leg.app = other.app ∨ leg.helper = other.helper → leg = other
  released : (∀ stop ∈ s.log.stops, stop.app < s.apps) ∧
    ∀ delete ∈ s.log.deletes, delete.helper < s.helpers
  held : ∀ phone, (∀ app ∈ (s.voips phone).appc, app < s.apps) ∧
    ∀ helper, (s.voips phone).appOnOff = some helper → helper < s.helpers

/-- A call is set up or answered only by a phone that holds no sender. -/
def NoSender (s : System) (draws : Draws scenario) : Action → Prop
  | .llama phone =>
      (draws.llamado : Nat) ∈ s.central.llamadas ∨ (s.voips phone).appOnOff = none
  | .descuelga phone _ _ => (s.voips phone).appOnOff = none
  | _ => True

instance (s : System) (draws : Draws scenario) : DecidablePred (NoSender s draws)
  | .llama _ => inferInstanceAs (Decidable (_ ∨ _))
  | .descuelga _ _ _ => inferInstanceAs (Decidable (_ = _))
  | .startApplication _ | .stopApplication _ | .cuelga _ | .colgar _ =>
      inferInstanceAs (Decidable True)

inductive LegChange (s : System) (queue : EventQueue Action) (draws : Draws scenario)
    (event : Event Action) (t : System) : Prop where
  | installed (leg : Leg) (action : ∀ phone, event.action ≠ .cuelga phone)
      (vacant : NoSender s draws event.action ↔ (s.voips leg.phone).appOnOff = none)
      (app : leg.app = s.apps) (helper : leg.helper = s.helpers)
      (hangUp : leg.cuelga.action = .cuelga leg.phone) (fresh : queue.nextUid ≤ leg.cuelga.uid)
      (legOpen : Leg.Open t leg)
      (legs : t.log.legs = leg :: s.log.legs)
      (stops : t.log.stops = s.log.stops) (deletes : t.log.deletes = s.log.deletes)
      (apps : t.apps = s.apps + 1) (helpers : t.helpers = s.helpers + 1)
      (assigned : (t.voips leg.phone).appOnOff = some leg.helper ∧
        (t.voips leg.phone).appc = [leg.app])
      (others : ∀ number, number ≠ leg.phone →
        (t.voips number).appOnOff = (s.voips number).appOnOff ∧
          (t.voips number).appc = (s.voips number).appc)
  | released (phone : Nat) (action : event.action = .cuelga phone)
      (legs : t.log.legs = s.log.legs)
      (stops : t.log.stops =
        (s.voips phone).appc.map (fun app => StopCall.mk app queue.now event) ++ s.log.stops)
      (deletes : t.log.deletes =
        (s.voips phone).appOnOff.toList.map (fun helper => DeleteCall.mk helper event) ++
          s.log.deletes)
      (apps : t.apps = s.apps) (helpers : t.helpers = s.helpers)
      (null : (t.voips phone).appOnOff = none)
      (container : (t.voips phone).appc = (s.voips phone).appc)
      (others : ∀ number, number ≠ phone →
        (t.voips number).appOnOff = (s.voips number).appOnOff ∧
          (t.voips number).appc = (s.voips number).appc)
  | other (action : ∀ phone, event.action ≠ .cuelga phone)
      (vacant : NoSender s draws event.action)
      (legs : t.log.legs = s.log.legs)
      (stops : t.log.stops = s.log.stops) (deletes : t.log.deletes = s.log.deletes)
      (apps : t.apps = s.apps) (helpers : t.helpers = s.helpers)
      (kept : ∀ number, (t.voips number).appOnOff = (s.voips number).appOnOff ∧
        (t.voips number).appc = (s.voips number).appc)

theorem Transition.legs (change : Transition scenario s queue draws event t) :
    LegChange s queue draws event t := by
  cases change with
  | stop phone action | colgar llamante action =>
      exact .other (by simp [action]) (by simp [action, NoSender]) rfl rfl rfl rfl rfl
        fun _ => ⟨rfl, rfl⟩
  | start phone action =>
      exact .other (by simp [action]) (by simp [action, NoSender]) rfl rfl rfl rfl rfl
        fun number => ⟨update_kept Voip.appOnOff (by rfl) number,
          update_kept Voip.appc (by rfl) number⟩
  | busy phone action busy =>
      exact .other (by simp [action]) (by simp [action, NoSender, busy]) rfl rfl rfl rfl rfl
        fun number => ⟨update_kept Voip.appOnOff (by rfl) number,
          update_kept Voip.appc (by rfl) number⟩
  | cuelga phone action =>
      refine .released phone action rfl rfl rfl rfl rfl ?_ ?_ ?_
      · simp [Voip.released]
      · simp [Voip.released, Voip.awaiting, Voip.idle]
      · intro number different
        simp only [Function.update_of_ne different, and_self]
  | descuelga phone destino duracion action =>
      refine .installed (calleeLeg s queue event phone destino) (by simp [action])
        (by simp [action, NoSender, calleeLeg]) rfl rfl rfl (Nat.le_refl _) ?_ rfl rfl rfl rfl rfl
        ?_ ?_
      · exact EventQueue.mem_schedule.mpr (.inr rfl)
      · simp [calleeLeg, Voip.answering, Voip.sending]
      · intro number different
        simp only [Function.update_of_ne (show number ≠ phone from different), and_self]
  | setUp phone action free =>
      refine .installed (callerLeg s queue draws event phone) (by simp [action])
        (by simp [action, NoSender, free, callerLeg]) rfl rfl rfl (Nat.le_add_right _ 2) ?_
        rfl rfl rfl rfl rfl ?_ ?_
      · exact (mem_callEvents s event).mpr (.inr (.inr (.inr rfl)))
      · simp [callerLeg, Voip.hangingUp, Voip.sending]
      · intro number different
        simp only [Function.update_of_ne (show number ≠ phone from different), and_self]

theorem open_step (wellFormed : WellFormed scenario s) (installed : Installed s)
    (advances : EventQueue.Advances s.queue event queue)
    (change : Transition scenario s queue draws event t) {leg : Leg}
    (member : leg ∈ s.log.legs) :
    Leg.Open t leg ↔ Leg.Open s leg ∧ leg.cuelga ≠ event := by
  refine step_kept wellFormed advances change (installed.known leg member) ?_
  intro phone
  rw [installed.hangsUp leg member]
  simp

/-- Only a hang-up ends a leg. -/
theorem open_other (wellFormed : WellFormed scenario s) (installed : Installed s)
    (advances : EventQueue.Advances s.queue event queue)
    (change : Transition scenario s queue draws event t)
    (other : ∀ phone, event.action ≠ .cuelga phone) {leg : Leg}
    (member : leg ∈ s.log.legs) : Leg.Open t leg ↔ Leg.Open s leg := by
  rw [open_step wellFormed installed advances change member]
  apply and_iff_left
  intro same
  apply other leg.phone
  rw [← same]
  exact installed.hangsUp leg member

theorem LegChange.old (change : LegChange s queue draws event t) :
    ∀ leg ∈ s.log.legs, leg ∈ t.log.legs := by
  intro leg member
  cases change with
  | installed new action vacant app helper hangUp fresh legOpen legs =>
      rw [legs]
      exact List.mem_cons_of_mem _ member
  | released phone action legs | other action vacant legs =>
      rw [legs]
      exact member

theorem LegChange.grows (change : LegChange s queue draws event t) :
    s.apps ≤ t.apps ∧ s.helpers ≤ t.helpers := by
  cases change with
  | installed leg action vacant app helper hangUp fresh legOpen legs stops deletes apps helpers =>
      omega
  | released phone action legs stops deletes apps helpers
  | other action vacant legs stops deletes apps helpers =>
      exact ⟨apps.ge, helpers.ge⟩

/-- A new leg has the sender that was to be allocated next. -/
theorem LegChange.cases (change : LegChange s queue draws event t) {leg : Leg}
    (member : leg ∈ t.log.legs) : leg ∈ s.log.legs ∨
      leg.cuelga.action = .cuelga leg.phone ∧ Leg.Open t leg ∧
        leg.app = s.apps ∧ leg.helper = s.helpers ∧ leg.app < t.apps ∧ leg.helper < t.helpers := by
  cases change with
  | installed new action vacant app helper hangUp fresh legOpen legs stops deletes apps helpers =>
      rw [legs] at member
      rcases List.mem_cons.mp member with rfl | old
      · exact .inr ⟨hangUp, legOpen, app, helper, by omega, by omega⟩
      · exact .inl old
  | released phone action legs | other action vacant legs =>
      exact .inl (legs ▸ member)

theorem LegChange.unique_new (change : LegChange s queue draws event t) {leg other : Leg}
    (member : leg ∈ t.log.legs) (member' : other ∈ t.log.legs) (new : leg ∉ s.log.legs)
    (new' : other ∉ s.log.legs) : leg = other := by
  cases change with
  | installed newest action vacant app helper hangUp fresh legOpen legs =>
      rw [legs] at member member'
      have first := (List.mem_cons.mp member).resolve_right new
      have second := (List.mem_cons.mp member').resolve_right new'
      rw [first, second]
  | released phone action legs | other action vacant legs =>
      exact absurd (legs ▸ member) new

/-- What is released was held. -/
theorem LegChange.released_allocated (change : LegChange s queue draws event t)
    (installed : Installed s) : (∀ stop ∈ t.log.stops, stop.app < s.apps) ∧
      ∀ delete ∈ t.log.deletes, delete.helper < s.helpers := by
  cases change with
  | installed leg action vacant app helper hangUp fresh legOpen legs stops deletes
  | other action vacant legs stops deletes =>
      rw [stops, deletes]
      exact installed.released
  | released phone action legs stops deletes =>
      obtain ⟨ownApps, ownHelper⟩ := installed.held phone
      rw [stops, deletes]
      constructor
      · intro stop member
        rcases List.mem_append.mp member with new | old
        · obtain ⟨app, held, rfl⟩ := List.mem_map.mp new
          exact ownApps app held
        · exact installed.released.1 stop old
      · intro delete member
        rcases List.mem_append.mp member with new | old
        · obtain ⟨helper, held, rfl⟩ := List.mem_map.mp new
          exact ownHelper helper (Option.mem_toList.mp held)
        · exact installed.released.2 delete old

theorem LegChange.held_allocated (change : LegChange s queue draws event t)
    (installed : Installed s) (number : Nat) : (∀ app ∈ (t.voips number).appc, app < t.apps) ∧
      ∀ helper, (t.voips number).appOnOff = some helper → helper < t.helpers := by
  obtain ⟨moreApps, moreHelpers⟩ := change.grows
  obtain ⟨heldApps, heldHelper⟩ := installed.held number
  have before : (∀ app ∈ (s.voips number).appc, app < t.apps) ∧
      ∀ helper, (s.voips number).appOnOff = some helper → helper < t.helpers :=
    ⟨fun app member => Nat.lt_of_lt_of_le (heldApps app member) moreApps,
      fun helper member => Nat.lt_of_lt_of_le (heldHelper helper member) moreHelpers⟩
  cases change with
  | installed leg action vacant app helper hangUp fresh legOpen legs stops deletes apps helpers
      assigned others =>
      by_cases same : number = leg.phone
      · subst same
        rw [assigned.1, assigned.2, apps, helpers]
        simp [app, helper]
      · rw [(others number same).1, (others number same).2]
        exact before
  | released phone action legs stops deletes apps helpers null container others =>
      by_cases same : number = phone
      · subst same
        rw [null, container]
        exact ⟨before.1, by simp⟩
      · rw [(others number same).1, (others number same).2]
        exact before
  | other action vacant legs stops deletes apps helpers kept =>
      rw [(kept number).1, (kept number).2]
      exact before

theorem Installed.step (installed : Installed s)
    (advances : EventQueue.Advances s.queue event queue)
    (change : Transition scenario s queue draws event t) : Installed t := by
  have later : s.queue.nextUid ≤ t.queue.nextUid := advances.counter ▸ change.nextUid_le
  obtain ⟨moreApps, moreHelpers⟩ := change.legs.grows
  constructor
  · intro leg member
    rcases change.legs.cases member with old | ⟨hangUp, _⟩
    · exact installed.hangsUp leg old
    · exact hangUp
  · intro leg member
    rcases change.legs.cases member with old | ⟨_, legOpen, _⟩
    · exact Nat.lt_of_lt_of_le (installed.known leg old) later
    · exact t.queue.fresh _ legOpen
  · intro other member phone hangUp
    rcases change.accounted other member with before | accounted
    · have pending := ((advances.remaining other).mp before).1
      obtain ⟨leg, old, same⟩ := installed.logged other pending phone hangUp
      exact ⟨leg, change.legs.old leg old, same⟩
    · simpa only [Accounted, hangUp] using accounted
  · intro leg member
    rcases change.legs.cases member with old | ⟨_, _, _, _, app, helper⟩
    · have allocated := installed.allocated leg old
      omega
    · exact ⟨app, helper⟩
  · intro first member second member' same
    have below := installed.allocated
    rcases change.legs.cases member with old | ⟨_, _, app, helper, _⟩ <;>
      rcases change.legs.cases member' with old' | ⟨_, _, app', helper', _⟩
    · exact installed.distinct first old second old' same
    · have allocated := below first old
      omega
    · have allocated := below second old'
      omega
    · apply change.legs.unique_new member member'
      · exact fun old => Nat.ne_of_lt (below first old).1 app
      · exact fun old => Nat.ne_of_lt (below second old).1 app'
  · obtain ⟨stops, deletes⟩ := change.legs.released_allocated installed
    exact ⟨fun stop member => Nat.lt_of_lt_of_le (stops stop member) moreApps,
      fun delete member => Nat.lt_of_lt_of_le (deletes delete member) moreHelpers⟩
  · exact change.legs.held_allocated installed

theorem Installed.initial (scenario : Scenario) : Installed (initial scenario) := by
  have untouched := Untouched.initial scenario
  constructor
  · simp [untouched.legs]
  · simp [untouched.legs]
  · intro event member phone hangUp
    obtain ⟨other, start | stop⟩ := untouched.events event member
    · simp [start] at hangUp
    · simp [stop] at hangUp
  · simp [untouched.legs]
  · simp [untouched.legs]
  · simp [untouched.stops, untouched.deletes]
  · simp [untouched.senders]

theorem Paired.initial (scenario : Scenario) : Paired (initial scenario) := by
  have untouched := Untouched.initial scenario
  constructor
  · simp [untouched.legs]
  · simp [untouched.legs]
  · simp [untouched.legs]
  · simp [untouched.legs]
  · exact fun phone _ => (untouched.senders phone).1

theorem Installed.stops_apps (installed : Installed s) :
    s.log.stops.filter (·.app = s.apps) = [] := by
  rw [List.filter_eq_nil_iff]
  intro stop member same
  have below := installed.released.1 stop member
  simp only [decide_eq_true_eq] at same
  omega

theorem Installed.stopsOf_apps (installed : Installed s) : s.stopsOf s.apps = [] := by
  rw [stopsOf, installed.stops_apps, List.map_nil]

theorem Installed.deletesOf_helpers (installed : Installed s) : s.deletesOf s.helpers = [] := by
  have never : s.log.deletes.filter (·.helper = s.helpers) = [] := by
    rw [List.filter_eq_nil_iff]
    intro delete member same
    have below := installed.released.2 delete member
    simp only [decide_eq_true_eq] at same
    omega
  rw [deletesOf, never, List.map_nil]

theorem Paired.closed_of_null (paired : Paired s) (null : (s.voips phone).appOnOff = none) :
    ∀ leg ∈ s.log.legs, Leg.Open s leg → leg.phone ≠ phone := by
  intro leg member legOpen same
  have holds := (paired.current leg member legOpen).1
  rw [same, null] at holds
  cases holds

/-- A new leg is paired with its sender exactly when its phone held none. -/
theorem paired_install_iff (installed : Installed s) (paired : Paired s)
    (same : ∀ leg ∈ s.log.legs, Leg.Open t leg ↔ Leg.Open s leg) {leg : Leg}
    (app : leg.app = s.apps) (helper : leg.helper = s.helpers) (legOpen : Leg.Open t leg)
    (legs : t.log.legs = leg :: s.log.legs)
    (stops : t.log.stops = s.log.stops) (deletes : t.log.deletes = s.log.deletes)
    (assigned : (t.voips leg.phone).appOnOff = some leg.helper ∧
      (t.voips leg.phone).appc = [leg.app])
    (others : ∀ number, number ≠ leg.phone →
      (t.voips number).appOnOff = (s.voips number).appOnOff ∧
        (t.voips number).appc = (s.voips number).appc) :
    Paired t ↔ (s.voips leg.phone).appOnOff = none := by
  constructor
  · intro after
    refine paired.null leg.phone fun other old otherOpen samePhone => ?_
    have single := after.single other (by rw [legs]; exact List.mem_cons_of_mem _ old) leg
      (by rw [legs]; exact List.mem_cons_self) ((same other old).mpr otherOpen) legOpen samePhone
    have allocated := installed.allocated other old
    rw [single] at allocated
    omega
  · intro null
    have closed := paired.closed_of_null null
    have elsewhere : ∀ other ∈ s.log.legs, Leg.Open t other → other.phone ≠ leg.phone :=
      fun other old otherOpen => closed other old ((same other old).mp otherOpen)
    have stopsOf_same : ∀ app, t.stopsOf app = s.stopsOf app := by
      intro app
      rw [stopsOf, stopsOf, stops]
    have deletesOf_same : ∀ helper, t.deletesOf helper = s.deletesOf helper := by
      intro helper
      rw [deletesOf, deletesOf, deletes]
    constructor
    · rw [legs]
      intro candidate member
      rcases List.mem_cons.mp member with rfl | old
      · rw [if_pos legOpen, stopsOf_same, app]
        exact installed.stopsOf_apps
      · rw [stopsOf_same, paired.stopped candidate old]
        simp only [same candidate old]
    · rw [legs]
      intro candidate member
      rcases List.mem_cons.mp member with rfl | old
      · rw [if_pos legOpen, deletesOf_same, helper]
        exact installed.deletesOf_helpers
      · rw [deletesOf_same, paired.deleted candidate old]
        simp only [same candidate old]
    · rw [legs]
      intro first member second member' firstOpen secondOpen samePhone
      rcases List.mem_cons.mp member with rfl | old <;>
        rcases List.mem_cons.mp member' with rfl | old'
      · rfl
      · exact absurd samePhone.symm (elsewhere second old' secondOpen)
      · exact absurd samePhone (elsewhere first old firstOpen)
      · exact paired.single first old second old' ((same first old).mp firstOpen)
          ((same second old').mp secondOpen) samePhone
    · rw [legs]
      intro candidate member candidateOpen
      rcases List.mem_cons.mp member with rfl | old
      · exact assigned
      · have different := elsewhere candidate old candidateOpen
        rw [(others candidate.phone different).1, (others candidate.phone different).2]
        exact paired.current candidate old ((same candidate old).mp candidateOpen)
    · intro phone none
      have different : phone ≠ leg.phone := by
        intro own
        exact none leg (by rw [legs]; exact List.mem_cons_self) legOpen own.symm
      rw [(others phone different).1]
      refine paired.null phone fun other old otherOpen => ?_
      exact none other (by rw [legs]; exact List.mem_cons_of_mem _ old)
        ((same other old).mpr otherOpen)

theorem paired_release (installed : Installed s) (paired : Paired s)
    (pending : event ∈ s.queue.pending)
    (lasts : ∀ leg ∈ s.log.legs, Leg.Open t leg ↔ Leg.Open s leg ∧ leg.cuelga ≠ event)
    (action : event.action = .cuelga phone) {now : Nat}
    (legs : t.log.legs = s.log.legs)
    (stops : t.log.stops =
      (s.voips phone).appc.map (fun app => StopCall.mk app now event) ++ s.log.stops)
    (deletes : t.log.deletes =
      (s.voips phone).appOnOff.toList.map (fun helper => DeleteCall.mk helper event) ++
        s.log.deletes)
    (null : (t.voips phone).appOnOff = none)
    (others : ∀ number, number ≠ phone →
      (t.voips number).appOnOff = (s.voips number).appOnOff ∧
        (t.voips number).appc = (s.voips number).appc) : Paired t := by
  obtain ⟨ended, member, hangUp⟩ := installed.logged event pending phone action
  have endedOpen : Leg.Open s ended := by
    rw [Leg.Open, hangUp]
    exact pending
  have own : ended.phone = phone := by
    have same := installed.hangsUp ended member
    rw [hangUp, action, Action.cuelga.injEq] at same
    exact same.symm
  obtain ⟨helper, container⟩ := paired.current ended member endedOpen
  rw [own] at helper container
  have onlyEnded : ∀ leg ∈ s.log.legs, Leg.Open s leg → leg.phone = phone → leg = ended :=
    fun leg old legOpen same => paired.single leg old ended member legOpen endedOpen
      (same.trans own.symm)
  have lasting : ∀ leg ∈ s.log.legs, leg ≠ ended → (Leg.Open t leg ↔ Leg.Open s leg) := by
    intro leg old different
    rw [lasts leg old]
    refine and_iff_left_of_imp fun legOpen same => different (onlyEnded leg old legOpen ?_)
    have hangsUp := installed.hangsUp leg old
    rw [same, action, Action.cuelga.injEq] at hangsUp
    exact hangsUp.symm
  have closed : ¬ Leg.Open t ended := fun legOpen => ((lasts ended member).mp legOpen).2 hangUp
  have stoppedOwn : t.stopsOf ended.app = event :: s.stopsOf ended.app := by
    simp [stopsOf, stops, container]
  have deletedOwn : t.deletesOf ended.helper = event :: s.deletesOf ended.helper := by
    simp [deletesOf, deletes, helper]
  have stoppedOther : ∀ leg ∈ s.log.legs, leg ≠ ended →
      t.stopsOf leg.app = s.stopsOf leg.app := by
    intro leg old different
    have unequal : ended.app ≠ leg.app := fun same =>
      different (installed.distinct leg old ended member (.inl same.symm))
    simp [stopsOf, stops, container, unequal]
  have deletedOther : ∀ leg ∈ s.log.legs, leg ≠ ended →
      t.deletesOf leg.helper = s.deletesOf leg.helper := by
    intro leg old different
    have unequal : ended.helper ≠ leg.helper := fun same =>
      different (installed.distinct leg old ended member (.inr same.symm))
    simp [deletesOf, deletes, helper, unequal]
  constructor
  · rw [legs]
    intro leg old
    by_cases same : leg = ended
    · subst same
      rw [stoppedOwn, paired.stopped leg old, if_pos endedOpen, if_neg closed, hangUp]
    · rw [stoppedOther leg old same, paired.stopped leg old]
      simp only [lasting leg old same]
  · rw [legs]
    intro leg old
    by_cases same : leg = ended
    · subst same
      rw [deletedOwn, paired.deleted leg old, if_pos endedOpen, if_neg closed, hangUp]
    · rw [deletedOther leg old same, paired.deleted leg old]
      simp only [lasting leg old same]
  · rw [legs]
    exact fun first old second old' firstOpen secondOpen =>
      paired.single first old second old' ((lasts first old).mp firstOpen).1
        ((lasts second old').mp secondOpen).1
  · rw [legs]
    intro leg old legOpen
    have before := ((lasts leg old).mp legOpen).1
    have different : leg.phone ≠ phone := fun same =>
      closed (onlyEnded leg old before same ▸ legOpen)
    rw [(others leg.phone different).1, (others leg.phone different).2]
    exact paired.current leg old before
  · rw [legs]
    intro number none
    by_cases same : number = phone
    · rw [same, null]
    · rw [(others number same).1]
      refine paired.null number fun leg old legOpen samePhone => ?_
      have different : leg ≠ ended := by
        intro identical
        rw [identical, own] at samePhone
        exact same samePhone.symm
      exact none leg old ((lasting leg old different).mpr legOpen) samePhone

theorem paired_step_iff (wellFormed : WellFormed scenario s) (installed : Installed s)
    (paired : Paired s) (advances : EventQueue.Advances s.queue event queue)
    (change : Transition scenario s queue draws event t) :
    Paired t ↔ NoSender s draws event.action := by
  have lasts : ∀ leg ∈ s.log.legs, Leg.Open t leg ↔ Leg.Open s leg ∧ leg.cuelga ≠ event :=
    fun leg old => open_step wellFormed installed advances change old
  have continuing : (∀ phone, event.action ≠ .cuelga phone) →
      ∀ leg ∈ s.log.legs, Leg.Open t leg ↔ Leg.Open s leg :=
    fun other leg old => open_other wellFormed installed advances change other old
  cases change.legs with
  | installed leg action vacant app helper hangUp fresh legOpen legs stops deletes apps helpers
      assigned others =>
      rw [vacant]
      exact paired_install_iff installed paired (continuing action) app helper legOpen legs stops
        deletes assigned others
  | released phone action legs stops deletes apps helpers null container others =>
      refine iff_of_true ?_ (by simp [action, NoSender])
      exact paired_release installed paired advances.member lasts action legs stops deletes null
        others
  | other action vacant legs stops deletes apps helpers kept =>
      have same := continuing action
      refine iff_of_true ?_ vacant
      constructor
      · rw [legs]
        intro leg old
        rw [stopsOf, stops, ← stopsOf, paired.stopped leg old]
        simp only [same leg old]
      · rw [legs]
        intro leg old
        rw [deletesOf, deletes, ← deletesOf, paired.deleted leg old]
        simp only [same leg old]
      · rw [legs]
        exact fun first old second old' firstOpen secondOpen =>
          paired.single first old second old' ((same first old).mp firstOpen)
            ((same second old').mp secondOpen)
      · rw [legs]
        intro leg old legOpen
        rw [(kept leg.phone).1, (kept leg.phone).2]
        exact paired.current leg old ((same leg old).mp legOpen)
      · rw [legs]
        intro phone none
        rw [(kept phone).1]
        exact paired.null phone fun leg old legOpen => none leg old ((same leg old).mpr legOpen)

/-- In a run every sender is released once, by its own hang-up, exactly when
calls are set up and answered only by phones that hold no sender. -/
theorem paired_iff (scenario : Scenario) (inputs : List (Draws scenario)) (after : System)
    (completed : run step (initial scenario) inputs = some after) :
    Throughout step Paired (initial scenario) inputs ↔
      Stepwise step (fun s draws => s.Upcoming fun event => NoSender s draws event.action)
        (initial scenario) inputs :=
  throughout_iff_upcoming Installed (fun _ installed => installed.step) paired_step_iff
    (Installed.initial scenario) (Paired.initial scenario) completed

/-- Phone 0 calls phone 1, which answers at once and hangs up.  Then phone 0
calls itself, and its first hang-up stops the sender it answered with, not the
sender it called with. -/
def callsItself : List (Draws twoPhones) := [
  ⟨10, 0, (0 : Fin 2)⟩, ⟨1000, 0, (0 : Fin 2)⟩, ⟨0, 5, (1 : Fin 2)⟩, ⟨0, 0, (0 : Fin 2)⟩,
  ⟨500, 0, (0 : Fin 2)⟩, ⟨0, 0, (0 : Fin 2)⟩, ⟨5, 0, (0 : Fin 2)⟩, ⟨0, 20, (0 : Fin 2)⟩,
  ⟨0, 0, (0 : Fin 2)⟩, ⟨0, 0, (0 : Fin 2)⟩, ⟨30, 0, (0 : Fin 2)⟩]

theorem paired_fails :
    ∃ after, run step (initial twoPhones) callsItself = some after ∧ ¬ Paired after := by
  have orphan : ∃ after, run step (initial twoPhones) callsItself = some after ∧
      ∃ leg ∈ after.log.legs, ¬ Leg.Open after leg ∧ after.stopsOf leg.app = [] :=
    exists_run (by decide +kernel)
  obtain ⟨after, completed, leg, member, closed, running⟩ := orphan
  refine ⟨after, completed, fun paired => ?_⟩
  have stopped := paired.stopped leg member
  rw [running, if_neg closed] at stopped
  cases stopped

theorem paired_holds : Throughout step Paired (initial twoPhones) (callsItself.take 8) :=
  (paired_iff _ _ _ rfl).mpr (by decide +kernel)

end Simvoip.System
