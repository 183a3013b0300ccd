import HotReload.Proofs.Outcome
import HotReload.Proofs.Run

set_option autoImplicit false

namespace HotReload

namespace Client

variable {τ : Type} [Transport τ]

-- The connection of this generation is over, or the event loop is.
def Past (c : Client τ) (generation : Nat) : Prop :=
  generation < c.connection.generation ∨
    (generation = c.connection.generation ∧ c.connection.isLive = false) ∨ c.phase = .crashed

variable {c : Client τ} {generation : Nat}

theorem obey_connection (c : Client τ) (command : Command) :
    c.connection.generation < (c.obey command).connection.generation ∨
      (c.obey command).connection = c.connection := by
  have closed := c.disconnect_keeps.2.1
  cases command with
  | start => exact .inl (Nat.lt_of_lt_of_eq (Nat.lt_succ_self _) c.start_keeps.2.1.symm)
  | reconnect generation =>
    simp only [Client.obey, Client.reconnect]
    split
    next =>
      have started := (c.note (.reconnecting generation)).start_keeps.2.1
      exact .inl (Nat.lt_of_lt_of_eq (Nat.lt_succ_self _) started.symm)
    next => exact .inr rfl
  | close => exact .inl (Nat.lt_of_lt_of_eq (Nat.lt_succ_self _) closed.symm)
  | shutdown => exact .inl (Nat.lt_of_lt_of_eq (Nat.lt_succ_self _) closed.symm)

omit [Transport τ] in
theorem Past.of_connection {after : Client τ} (past : c.Past generation)
    (going : c.phase ≠ .crashed)
    (onward : c.connection.generation < after.connection.generation ∨
      after.connection = c.connection) : after.Past generation := by
  rcases past with earlier | gone | crashed
  · rcases onward with later | same
    · exact .inl (Nat.lt_trans earlier later)
    · exact .inl (same ▸ earlier)
  · rcases onward with later | same
    · exact .inl (gone.1 ▸ later)
    · exact .inr (.inl (same ▸ gone))
  · exact absurd crashed going

omit [Transport τ] in
theorem Past.of_same {after : Client τ} (past : c.Past generation)
    (connection : after.connection = c.connection) (phase : after.phase = c.phase) :
    after.Past generation := by
  unfold Past at *
  rwa [connection, phase]

theorem Past.handle (past : c.Past generation) (running : c.phase = .running) (signal : Signal) :
    (c.handle signal).Past generation := by
  obtain ⟨connection, _, _⟩ := c.handle_outcome signal
  obtain ⟨_, same, phase⟩ := c.handle_keeps signal
  rcases past with earlier | ⟨present, dead⟩ | crashed
  · exact .inl (by rwa [same])
  · have unmoved := Connection.receive_connection_of_not_live dead c.config signal
    exact .inr (.inl (by rw [connection, unmoved]; exact ⟨present, dead⟩))
  · cases running.symm.trans crashed

theorem Past.move (past : c.Past generation) (move : Move τ) : (c.move move).Past generation := by
  have moved := c.move_moved move
  generalize c.move move = after at moved ⊢
  cases moved with
  | beside _ beside => exact past.of_same beside.connection beside.phase
  | begun pending =>
    have later := { c with phase := .running }.start_keeps.2.1
    exact past.of_connection (by simp [pending]) (.inl (by rw [later]; exact Nat.lt_succ_self _))
  | obeyed command rest running queued =>
    have obeyed := { c with commands := rest }.obey_connection command
    exact past.of_connection (by simp [running]) obeyed
  | handled signal rest running queued =>
    have taken : Past { c with inbox := { c.inbox with signals := rest } } generation :=
      past.of_same rfl rfl
    exact taken.handle running signal
  | fired index timer armed due =>
    obtain ⟨commands, same⟩ := { c with timers := c.timers.eraseIdx index }.order_eq
      (.reconnect timer.generation)
    rw [same]
    exact past.of_same rfl rfl

end Client

end HotReload
