import HotReload.Proofs.Beside

set_option autoImplicit false

namespace HotReload

namespace Connection

def farewell (c : Connection) : List Event :=
  match c.current with
  | some generation => [.noted (.closing generation), .closed generation]
  | none => []

theorem release_fst (c : Connection) : c.release.1 = { c with current := none } := by
  obtain ⟨state, current, generation, activity⟩ := c
  cases current <;> rfl

def admits (c : Connection) : Report → Bool
  | .opened => c.state = .connecting
  | .message _ => c.state = .open
  | .failed _ => c.isLive
  | .closed => c.isLive

end Connection

namespace Client

variable {τ : Type}

variable [Transport τ]

def dismissed (c : Client τ) : τ :=
  match c.connection.current with
  | some generation => Transport.closeSocket c.transport generation
  | none => c.transport

theorem change_release (c : Client τ) (connection : Connection) :
    c.change connection c.connection.release.2 =
      { c with connection, transport := c.dismissed, events := c.events ++ c.connection.farewell } := by
  cases current : c.connection.current with
  | none => simp [change, Connection.release, dismissed, Connection.farewell, current]
  | some generation =>
    simp [change, Connection.release, dismissed, Connection.farewell, current, act, note, record]

inductive Started (c : Client τ) : Client τ → Prop where
  | returned (transport : τ) (reports : List Report)
    (opening : Transport.openSocket c.dismissed (c.connection.generation + 1) c.config.url =
      .opened transport reports) :
    Started c
      { c with
        transport
        connection := ⟨.connecting, some (c.connection.generation + 1),
          c.connection.generation + 1, c.connection.activity⟩
        inbox := c.inbox.emitAll (c.connection.generation + 1) reports
        events := c.events ++ c.connection.farewell ++
          [.noted (.opening (c.connection.generation + 1) c.config.url),
            .opened (c.connection.generation + 1) c.config.url] ++
          c.inbox.losses (c.connection.generation + 1) reports }
  | panicked (transport : τ)
    (opening : Transport.openSocket c.dismissed (c.connection.generation + 1) c.config.url =
      .panicked transport) :
    Started c
      { c with
        transport
        connection := { c.connection.advance with current := none }
        phase := .crashed
        commands := []
        inbox := c.inbox.leave
        events := c.events ++ c.connection.farewell ++
          [.noted (.opening (c.connection.generation + 1) c.config.url),
            .opened (c.connection.generation + 1) c.config.url] }

theorem start_started (c : Client τ) : c.Started c.start := by
  have prepared : c.connection.prepare =
      ({ c.connection.advance with current := none }, c.connection.release.2) := by
    simp [Connection.prepare, Connection.release_fst, Connection.advance]
  unfold start
  rw [prepared]
  simp only [change_release]
  cases opening : Transport.openSocket c.dismissed (c.connection.generation + 1) c.config.url with
  | opened transport reports =>
    have started := Started.returned (c := c) transport reports opening
    simpa [note, record, emitAll_eq, Connection.advance, Connection.install, opening] using started
  | panicked transport =>
    have started := Started.panicked (c := c) transport opening
    simpa [note, record, halt, Connection.advance, opening] using started

theorem disconnect_eq (c : Client τ) :
    c.disconnect =
      { c with
        transport := c.dismissed
        connection := ⟨.idle, none, c.connection.generation + 1, c.connection.activity⟩
        events := c.events ++ c.connection.farewell } := by
  have closed : c.connection.close =
      (⟨.idle, none, c.connection.generation + 1, c.connection.activity⟩,
        c.connection.release.2) := by
    simp [Connection.close, Connection.release_fst, Connection.advance]
  simp only [disconnect, closed, change_release]

inductive Handled (c : Client τ) : Signal → Client τ → Prop where
  | superseded (signal : Signal) (other : signal.generation ≠ c.connection.generation) :
    Handled c signal (c.note (.superseded signal.generation c.connection.generation))
  | ignored (report : Report) (deaf : c.connection.admits report = false) :
    Handled c ⟨c.connection.generation, report⟩ c
  | opened (notice : Notice) (quiet : (Event.noted notice).isQuiet = true)
    (connecting : c.connection.state = .connecting) :
    Handled c ⟨c.connection.generation, .opened⟩
      ({ c with
        connection := { c.connection.touch with state := .open }
        events := c.events ++ [Event.noted notice] }.deliver .connected)
  | message (text : String) (envelope : Envelope) (parsed : Envelope.ofFrame text = .ok envelope)
    (isOpen : c.connection.state = .open) :
    Handled c ⟨c.connection.generation, .message text⟩
      ({ c with connection := c.connection.touch }.deliver envelope)
  | malformed (text : String) (cause : Json.Error) (refused : Envelope.ofFrame text = .error cause)
    (isOpen : c.connection.state = .open) :
    Handled c ⟨c.connection.generation, .message text⟩
      { c with
        connection := c.connection.touch
        events := c.events ++ [.noted (.frameRejected (.json cause))] }
  | failed (error : Error) (live : c.connection.isLive = true) :
    Handled c ⟨c.connection.generation, .failed error⟩
      { c with
        connection := { c.connection with current := none, state := .reconnecting }
        transport := c.dismissed
        timers := c.timers ++
          [⟨c.now + c.config.delay.nanoseconds, c.connection.generation⟩]
        events := c.events ++
          [.noted (.connectionFailed c.connection.generation error
            c.config.retryMilliseconds)] ++ c.connection.farewell }
  | closed (live : c.connection.isLive = true) :
    Handled c ⟨c.connection.generation, .closed⟩
      { c with
        connection := { c.connection with current := none, state := .idle }
        events := c.events ++ [.noted (.closedByServer c.connection.generation)] }

theorem handled_opened (c : Client τ) :
    c.Handled ⟨c.connection.generation, .opened⟩ (c.handle ⟨c.connection.generation, .opened⟩) := by
  by_cases connecting : c.connection.state = .connecting
  next =>
    have handled := Handled.opened (c := c)
      (if c.config.announces then .connected c.config.url
        else .connectionOpen c.connection.generation)
      (by split <;> rfl) connecting
    simpa [handle, Connection.receive, Connection.onOpened, connecting, change, act, note, record]
      using handled
  next =>
    have handled := Handled.ignored (c := c) .opened (by simp [Connection.admits, connecting])
    simpa [handle, Connection.receive, Connection.onOpened, connecting, change] using handled

theorem handled_message (c : Client τ) (text : String) :
    c.Handled ⟨c.connection.generation, .message text⟩
      (c.handle ⟨c.connection.generation, .message text⟩) := by
  by_cases isOpen : c.connection.state = .open
  next =>
    cases parsed : Envelope.ofFrame text with
    | ok envelope =>
      have handled := Handled.message text envelope parsed isOpen
      simpa [handle, Connection.receive, Connection.onMessage, isOpen, parsed, change] using handled
    | error cause =>
      have handled := Handled.malformed text cause parsed isOpen
      simpa [handle, Connection.receive, Connection.onMessage, isOpen, parsed, change, act, note,
        record] using handled
  next =>
    have handled := Handled.ignored (c := c) (.message text) (by simp [Connection.admits, isOpen])
    simpa [handle, Connection.receive, Connection.onMessage, isOpen, change] using handled

theorem handled_failed (c : Client τ) (error : Error) :
    c.Handled ⟨c.connection.generation, .failed error⟩
      (c.handle ⟨c.connection.generation, .failed error⟩) := by
  cases live : c.connection.isLive with
  | true =>
    have handled := Handled.failed error live
    -- With and without a socket to close, since the state alone does not tell whether there is one.
    cases current : c.connection.current with
    | none =>
      simpa [handle, Connection.receive, Connection.onFailed, live, Connection.release, current,
        change, act, note, record, dismissed, Connection.farewell] using handled
    | some generation =>
      simpa [handle, Connection.receive, Connection.onFailed, live, Connection.release, current,
        change, act, note, record, dismissed, Connection.farewell] using handled
  | false =>
    have handled := Handled.ignored (c := c) (.failed error) (by simp [Connection.admits, live])
    simpa [handle, Connection.receive, Connection.onFailed, live, change] using handled

theorem handled_closed (c : Client τ) :
    c.Handled ⟨c.connection.generation, .closed⟩ (c.handle ⟨c.connection.generation, .closed⟩) := by
  cases live : c.connection.isLive with
  | true =>
    have handled := Handled.closed live
    simpa [handle, Connection.receive, Connection.onClosed, live, change, act, note, record]
      using handled
  | false =>
    have handled := Handled.ignored (c := c) .closed (by simp [Connection.admits, live])
    simpa [handle, Connection.receive, Connection.onClosed, live, change] using handled

theorem handle_handled (c : Client τ) (signal : Signal) : c.Handled signal (c.handle signal) := by
  by_cases same : signal.generation = c.connection.generation
  next =>
    obtain ⟨generation, report⟩ := signal
    subst same
    cases report with
    | opened => exact c.handled_opened
    | message text => exact c.handled_message text
    | failed error => exact c.handled_failed error
    | closed => exact c.handled_closed
  next =>
    have handled := Handled.superseded signal same
    simpa [handle, Connection.receive, same, change, act] using handled

section constants

theorem start_keeps (c : Client τ) :
    c.start.config = c.config ∧ c.start.connection.generation = c.connection.generation + 1 ∧
      (c.start.phase = c.phase ∨ c.start.phase = .crashed) := by
  have started := c.start_started
  generalize c.start = after at started ⊢
  cases started with
  | returned transport reports opening => exact ⟨rfl, rfl, .inl rfl⟩
  | panicked transport opening => exact ⟨rfl, rfl, .inr rfl⟩

theorem disconnect_keeps (c : Client τ) :
    c.disconnect.config = c.config ∧
      c.disconnect.connection.generation = c.connection.generation + 1 ∧
      c.disconnect.phase = c.phase := by
  rw [disconnect_eq]
  exact ⟨rfl, rfl, rfl⟩

theorem handle_keeps (c : Client τ) (signal : Signal) :
    (c.handle signal).config = c.config ∧
      (c.handle signal).connection.generation = c.connection.generation ∧
      (c.handle signal).phase = c.phase := by
  have handled := c.handle_handled signal
  generalize c.handle signal = after at handled ⊢
  cases handled with
  | superseded signal other => exact ⟨rfl, rfl, rfl⟩
  | ignored report deaf => exact ⟨rfl, rfl, rfl⟩
  | opened notice quiet connecting =>
    have called := calledBack_deliver
      { c with
        connection := { c.connection.touch with state := .open }
        events := c.events ++ [Event.noted notice] } .connected
    exact ⟨called.config, by rw [called.connection]; rfl, called.phase⟩
  | message text envelope parsed isOpen =>
    have called := calledBack_deliver { c with connection := c.connection.touch } envelope
    exact ⟨called.config, by rw [called.connection]; rfl, called.phase⟩
  | malformed text cause refused isOpen => exact ⟨rfl, rfl, rfl⟩
  | failed error live => exact ⟨rfl, rfl, rfl⟩
  | closed live => exact ⟨rfl, rfl, rfl⟩

theorem reconnect_keeps (c : Client τ) (generation : Nat) :
    (c.reconnect generation).config = c.config ∧
      c.connection.generation ≤ (c.reconnect generation).connection.generation ∧
      ((c.reconnect generation).phase = c.phase ∨ (c.reconnect generation).phase = .crashed) := by
  unfold reconnect
  split
  next =>
    obtain ⟨config, later, phase⟩ := (c.note (.reconnecting generation)).start_keeps
    exact ⟨config, Nat.le_trans (Nat.le_succ _) (Nat.le_of_eq later.symm), phase⟩
  next => exact ⟨rfl, Nat.le_refl _, .inl rfl⟩

end constants

end Client

end HotReload
