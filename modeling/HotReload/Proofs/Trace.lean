import HotReload.Proofs.Transition

set_option autoImplicit false

namespace HotReload

def Event.opening? : Event → Option Nat
  | .opened generation _ => some generation
  | _ => none

def Event.closing? : Event → Option Nat
  | .closed generation => some generation
  | _ => none

-- The client notes this where it accepts that the server has closed the socket.
def Event.departure? : Event → Option Nat
  | .noted (.closedByServer generation) => some generation
  | _ => none

abbrev openings (events : List Event) : List Nat := events.filterMap Event.opening?

abbrev closings (events : List Event) : List Nat := events.filterMap Event.closing?

abbrev departures (events : List Event) : List Nat := events.filterMap Event.departure?

def Outstanding (events : List Event) (generation : Nat) : Prop :=
  generation ∈ openings events ∧ generation ∉ closings events ∧ generation ∉ departures events

@[simp] theorem Event.projections_opened (generation : Nat) (url : String) :
    (opened generation url).opening? = some generation ∧
      (opened generation url).closing? = none ∧ (opened generation url).departure? = none :=
  ⟨rfl, rfl, rfl⟩

@[simp] theorem Event.projections_closed (generation : Nat) :
    (closed generation).opening? = none ∧
      (closed generation).closing? = some generation ∧ (closed generation).departure? = none :=
  ⟨rfl, rfl, rfl⟩

@[simp] theorem Event.projections_departed (generation : Nat) :
    (noted (.closedByServer generation)).opening? = none ∧
      (noted (.closedByServer generation)).closing? = none ∧
      (noted (.closedByServer generation)).departure? = some generation :=
  ⟨rfl, rfl, rfl⟩

theorem Event.projections_quiet {event : Event} (quiet : event.isQuiet = true) :
    event.opening? = none ∧ event.closing? = none ∧ event.departure? = none := by
  cases event with
  | noted notice => cases notice <;> simp_all [isQuiet, opening?, closing?, departure?]
  | called name envelope state => exact ⟨rfl, rfl, rfl⟩
  | opened generation url => cases quiet
  | closed generation => cases quiet
  | sent generation data => exact ⟨rfl, rfl, rfl⟩

theorem departures_quiet (events : List Event) (quiet : ∀ event ∈ events, event.isQuiet = true) :
    departures events = [] :=
  List.filterMap_eq_nil_iff.mpr fun event member =>
    (Event.projections_quiet (quiet event member)).2.2

theorem openings_quiet (events : List Event) (quiet : ∀ event ∈ events, event.isQuiet = true) :
    openings events = [] :=
  List.filterMap_eq_nil_iff.mpr fun event member =>
    (Event.projections_quiet (quiet event member)).1

@[simp] theorem departures_farewell (c : Connection) : departures c.farewell = [] := by
  unfold Connection.farewell
  cases c.current <;> rfl

@[simp] theorem openings_farewell (c : Connection) : openings c.farewell = [] := by
  unfold Connection.farewell
  cases c.current <;> rfl

@[simp] theorem openings_losses (inbox : Inbox) (generation : Nat) (reports : List Report) :
    openings (inbox.losses generation reports) = [] :=
  openings_quiet _ fun _ member => Inbox.isQuiet_of_mem_losses member

@[simp] theorem departures_losses (inbox : Inbox) (generation : Nat) (reports : List Report) :
    departures (inbox.losses generation reports) = [] :=
  departures_quiet _ fun _ member => Inbox.isQuiet_of_mem_losses member

theorem mem_openings {events : List Event} {generation : Nat} :
    generation ∈ openings events ↔ ∃ url, Event.opened generation url ∈ events := by
  simp only [openings, List.mem_filterMap]
  constructor
  · rintro ⟨event, member, found⟩
    cases event with
    | opened other url =>
      cases found
      exact ⟨url, member⟩
    | noted notice => cases found
    | called name envelope state => cases found
    | closed other => cases found
    | sent other data => cases found
  · rintro ⟨url, member⟩
    exact ⟨_, member, rfl⟩

inductive Advance (url : String) : Option Nat → Nat → Event → Option Nat → Nat → Prop where
  | quiet {live : Option Nat} {last : Nat} {event : Event} (quiet : event.isQuiet = true) :
    Advance url live last event live last
  | opened {last generation : Nat} (later : last < generation) :
    Advance url none last (.opened generation url) (some generation) generation
  | closed {generation last : Nat} :
    Advance url (some generation) last (.closed generation) none last
  | departed {generation last : Nat} :
    Advance url (some generation) last (.noted (.closedByServer generation)) none last

inductive Disciplined (url : String) : List Event → Option Nat → Nat → Prop where
  | empty : Disciplined url [] none 0
  | step {events : List Event} {live next : Option Nat} {last latest : Nat} {event : Event}
    (earlier : Disciplined url events live last)
    (advance : Advance url live last event next latest) :
    Disciplined url (events ++ [event]) next latest

namespace Disciplined

variable {url : String} {events : List Event} {live : Option Nat} {last : Nat}

theorem quiet_append (disciplined : Disciplined url events live last) (others : List Event)
    (quiet : ∀ event ∈ others, event.isQuiet = true) :
    Disciplined url (events ++ others) live last := by
  induction others generalizing events with
  | nil => simpa using disciplined
  | cons event rest ih =>
    have next := ih (disciplined.step (.quiet (quiet event (by simp))))
      (fun other member => quiet other (by simp [member]))
    simpa using next

theorem live_mem (disciplined : Disciplined url events live last) {generation : Nat}
    (inUse : live = some generation) : generation ∈ openings events := by
  induction disciplined with
  | empty => cases inUse
  | step earlier advance ih =>
    cases advance with
    | quiet quiet => simp [ih inUse]
    | opened later =>
      cases inUse
      simp
    | closed | departed => cases inUse

theorem openings_le (disciplined : Disciplined url events live last) :
    ∀ generation ∈ openings events, generation ≤ last := by
  induction disciplined with
  | empty => simp [openings]
  | step earlier advance ih =>
    cases advance with
    | quiet quiet => simpa [Event.projections_quiet quiet] using ih
    | opened later =>
      intro other member
      simp only [List.filterMap_append] at member
      rcases List.mem_append.mp member with old | new
      · have := ih other old
        omega
      · simp at new
        omega
    | closed | departed => simpa using ih

theorem latest_of_live (disciplined : Disciplined url events live last) {generation : Nat}
    (inUse : live = some generation) : last = generation := by
  induction disciplined with
  | empty => cases inUse
  | step earlier advance ih =>
    cases advance with
    | quiet quiet => exact ih inUse
    | opened later => exact Option.some.inj inUse
    | closed | departed => cases inUse

theorem openings_pairwise (disciplined : Disciplined url events live last) :
    (openings events).Pairwise (· < ·) := by
  induction disciplined with
  | empty => simp [openings]
  | step earlier advance ih =>
    cases advance with
    | quiet quiet => simpa [Event.projections_quiet quiet] using ih
    | opened later =>
      simp only [List.filterMap_append, List.pairwise_append]
      refine ⟨ih, by simp, ?_⟩
      intro old member new same
      have bound := earlier.openings_le old member
      simp at same
      omega
    | closed | departed => simpa using ih

theorem released (disciplined : Disciplined url events live last) (generation : Nat) :
    (closings events).count generation + (departures events).count generation =
      if generation ∈ openings events ∧ live ≠ some generation then 1 else 0 := by
  induction disciplined with
  | empty => simp [closings, departures, openings]
  | step earlier advance ih =>
    cases advance with
    | quiet quiet => simpa [Event.projections_quiet quiet] using ih
    | opened later =>
      rename_i fresh
      -- No earlier socket had the fresh generation, so neither count knows it yet.
      by_cases same : generation = fresh
      next =>
        have unseen : fresh ∉ openings _ := fun member => by
          have := earlier.openings_le fresh member
          omega
        simpa [same, unseen] using ih
      next => simpa [same, Ne.symm same] using ih
    | closed | departed =>
      have member := earlier.live_mem rfl
      rename_i gone
      by_cases same : gone = generation
      next =>
        subst same
        simp at ih
        simp [member, ih]
      next => simpa [same] using ih

theorem outstanding_iff (disciplined : Disciplined url events live last) (generation : Nat) :
    Outstanding events generation ↔ live = some generation := by
  have released := disciplined.released generation
  by_cases inUse : live = some generation
  next =>
    have opened := disciplined.live_mem inUse
    simp only [inUse, ne_eq, not_true_eq_false, and_false, if_false] at released
    have notClosed : generation ∉ closings events := List.count_eq_zero.mp (by omega)
    have notDeparted : generation ∉ departures events := List.count_eq_zero.mp (by omega)
    simp [Outstanding, inUse, opened, notClosed, notDeparted]
  next =>
    simp only [inUse, iff_false]
    rintro ⟨opened, notClosed, notDeparted⟩
    rw [List.count_eq_zero.mpr notClosed, List.count_eq_zero.mpr notDeparted] at released
    simp [opened, inUse] at released

theorem not_closed_of_departed (disciplined : Disciplined url events live last) {generation : Nat}
    (departed : generation ∈ departures events) :
    generation ∈ openings events ∧ generation ∉ closings events := by
  have released := disciplined.released generation
  have counted := List.count_pos_iff.mpr departed
  split at released
  next opened => exact ⟨opened.1, List.count_eq_zero.mp (by omega)⟩
  next => omega

end Disciplined

end HotReload
