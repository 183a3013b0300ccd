import HotReload.Proofs.Course
import HotReload.Proofs.Trace

set_option autoImplicit false

namespace HotReload

namespace Client

variable {τ : Type} {c : Client τ}

theorem Beside.openings_eq {after : Client τ} (beside : c.Beside after) :
    openings after.events = openings c.events := by
  obtain ⟨news, events, quiet⟩ := beside.events
  simp only [events, List.filterMap_append, openings_quiet news quiet, List.append_nil]

theorem still_of_outside (c : Client τ) {move : Move τ} (outside : move.isOfLoop = false) :
    c.obeyed? move = none ∧ c.starts move = false := by
  cases move <;> simp_all [Move.isOfLoop, obeyed?, starts]

theorem openings_record (c : Client τ) {event : Event} (quiet : event.isQuiet = true) :
    openings (c.record event).events = openings c.events := by
  simp [record, Event.projections_quiet quiet]

variable [Transport τ]

theorem openings_start (c : Client τ) :
    openings c.start.events = openings c.events ++ [c.connection.generation + 1] := by
  have started := c.start_started
  generalize c.start = after at started ⊢
  cases started with
  | returned transport reports opening => simp [Event.opening?, List.filterMap_cons]
  | panicked transport opening => simp [Event.opening?, List.filterMap_cons]

theorem openings_disconnect (c : Client τ) : openings c.disconnect.events = openings c.events := by
  simp [disconnect_eq]

theorem openings_reconnect (c : Client τ) (generation : Nat) :
    openings (c.reconnect generation).events = openings c.events ++
      if c.connection.awaits generation then [c.connection.generation + 1] else [] := by
  unfold reconnect
  split
  · rw [openings_start]
    exact congrArg (· ++ _) (c.openings_record rfl)
  · rw [List.append_nil]
    exact c.openings_record rfl

theorem openings_handle (c : Client τ) (signal : Signal) :
    openings (c.handle signal).events = openings c.events := by
  have handled := c.handle_handled signal
  generalize c.handle signal = after at handled ⊢
  cases handled with
  | superseded signal other => exact c.openings_record rfl
  | ignored report deaf => rfl
  | opened notice quiet connecting =>
    rw [(calledBack_deliver _ _).beside.openings_eq]
    exact c.openings_record quiet
  | message text envelope parsed isOpen => rw [(calledBack_deliver _ _).beside.openings_eq]
  | malformed text cause refused isOpen => exact c.openings_record rfl
  | failed error live => simp [Event.opening?, List.filterMap_cons]
  | closed live => simp

theorem openings_move (c : Client τ) (move : Move τ) :
    openings (c.move move).events = openings c.events ++
      if c.starts move then [c.connection.generation + 1] else [] := by
  have passed := c.move_passed move
  generalize moved : c.move move = after at passed ⊢
  cases passed with
  | beside _ outside =>
    simp [(c.beside_move move outside).openings_eq, (c.still_of_outside outside).2]
  | refused _ inside idle deaf still => simp [still]
  | begun pending => simp [openings_start, starts, pending]
  | obeyed command rest running queued =>
    have obeyed : c.obeyed? .command = some command := by simp [obeyed?, running, queued]
    cases command with
    | start => simp [obey, openings_start, starts, obeyed]
    | reconnect generation => simp [obey, openings_reconnect, starts, obeyed]
    | close => simp [obey, openings_disconnect, starts, obeyed]
    | shutdown =>
      have ended := ({ c with commands := rest }.disconnect).openings_record
        (rfl : (Event.noted .loopEnded).isQuiet = true)
      simpa [obey, halt, note, openings_disconnect, starts, obeyed] using ended
  | handled signal rest running queued => simp [openings_handle, starts, obeyed?]
  | fired index timer armed due =>
    obtain ⟨commands, same⟩ := { c with timers := c.timers.eraseIdx index }.order_eq
      (.reconnect timer.generation)
    simp [same, starts, obeyed?]

def retried? (c : Client τ) (move : Move τ) : Option Nat :=
  match c.obeyed? move with
  | some (.reconnect generation) => if c.starts move then some generation else none
  | _ => none

def retries (c : Client τ) (moves : List (Move τ)) : List Nat :=
  c.collect (fun c move => (c.retried? move).toList) moves

end Client

end HotReload
