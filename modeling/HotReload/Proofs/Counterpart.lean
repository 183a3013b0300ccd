import HotReload.Proofs.Reference
import HotReload.Proofs.Regular
import Mathlib.Logic.Embedding.Basic

set_option autoImplicit false

namespace HotReload

open Reference

def Event.operation? : Event → Option (Operation Nat)
  | .opened generation _ => some (.opened generation)
  | .closed generation => some (.closed generation)
  | _ => none

abbrev operations (events : List Event) : List (Operation Nat) := events.filterMap Event.operation?

def Connection.mode {σ : Type} (name : Nat → σ) (c : Connection) : Mode σ :=
  match c.state with
  | .idle => .idle
  | .connecting => .connecting (name c.generation)
  | .open => .open (name c.generation)
  | .reconnecting => .reconnecting (name c.generation)

theorem operations_quiet (events : List Event) (quiet : ∀ event ∈ events, event.isQuiet = true) :
    operations events = [] := by
  simp only [operations, List.filterMap_eq_nil_iff]
  intro event member
  have quiet := quiet event member
  cases event with
  | noted notice => rfl
  | called name envelope state => rfl
  | opened generation url => cases quiet
  | closed generation => cases quiet
  | sent generation data => rfl

@[simp] theorem operations_losses (inbox : Inbox) (generation : Nat) (reports : List Report) :
    operations (inbox.losses generation reports) = [] :=
  operations_quiet _ fun _ member => Inbox.isQuiet_of_mem_losses member

@[simp] theorem operations_farewell (c : Connection) :
    operations c.farewell = c.current.toList.map .closed := by
  unfold Connection.farewell
  cases c.current <;> rfl

theorem sockets_operations (events : List Event) :
    (operations events).filterMap Operation.opened? = openings events := by
  simp only [operations, openings, List.filterMap_filterMap]
  congr
  funext event
  cases event with
  | noted notice => rfl
  | called name envelope state => rfl
  | opened generation url => rfl
  | closed generation => rfl
  | sent generation data => rfl

section modes

variable {σ : Type} (name : Nat ↪ σ) (c : Connection)

theorem mode_eq_connecting_iff (generation : Nat) :
    c.mode name = .connecting (name generation) ↔
      c.state = .connecting ∧ generation = c.generation := by
  cases state : c.state <;> simp [Connection.mode, state, eq_comm]

theorem mode_eq_open_iff (generation : Nat) :
    c.mode name = .open (name generation) ↔ c.state = .open ∧ generation = c.generation := by
  cases state : c.state <;> simp [Connection.mode, state, eq_comm]

theorem mode_eq_reconnecting_iff (generation : Nat) :
    c.mode name = .reconnecting (name generation) ↔
      c.state = .reconnecting ∧ generation = c.generation := by
  cases state : c.state <;> simp [Connection.mode, state, eq_comm]

theorem state_mode : (c.mode name).state = c.state := by
  cases state : c.state <;> simp [Connection.mode, Mode.state, state]

theorem socket?_mode : (c.mode name).socket? =
    if c.isLive then some (name c.generation) else none := by
  cases state : c.state <;> simp [Connection.mode, Mode.socket?, Connection.isLive, state]

theorem socket?_mode_of_coherent (coherent : c.Coherent) :
    (c.mode name).socket? = c.current.map name := by
  rw [socket?_mode, coherent]
  cases c.isLive <;> rfl

theorem socket?_mode_eq_some_iff (generation : Nat) :
    (c.mode name).socket? = some (name generation) ↔
      c.isLive = true ∧ generation = c.generation := by
  rw [socket?_mode]
  cases c.isLive <;> simp [eq_comm]

end modes

end HotReload
