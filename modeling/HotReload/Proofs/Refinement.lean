import HotReload.Proofs.Counterpart
import HotReload.Proofs.Echo
import HotReload.Proofs.Manager
import HotReload.Stage

set_option autoImplicit false

namespace HotReload

open Reference

namespace Client

variable {τ σ : Type} [Transport τ]

-- The same call in terms of sockets; one that is opened for a generation goes by its name.
def stimulus (c : Client τ) (name : Nat → σ) : Call → Stimulus σ
  | .start => .start (name (c.connection.generation + 1))
  | .close => .close
  | .reconnect generation => .elapsed (name generation) (name (c.connection.generation + 1))
  | .signal signal => .report (name signal.generation) signal.report

def stimuli (name : Nat → σ) : Client τ → List Call → List (Stimulus σ)
  | _, [] => []
  | c, call :: rest => c.stimulus name call :: stimuli name (c.call call) rest

structure Follows (name : Nat ↪ σ) (subscribers : List Subscriber) (c : Client τ)
    (m : Machine σ) : Prop where
  mode : m.mode = c.connection.mode name
  operations : m.operations = (operations c.events).map (Operation.map name)
  armed : m.armed = c.timers.map fun timer => name timer.generation
  echoes : c.Echoes (Bus.replay c.config.nesting subscribers m.dispatched)

variable {name : Nat ↪ σ} {subscribers : List Subscriber} {c : Client τ} {m : Machine σ}

omit [Transport τ] in
theorem Follows.closed (follows : c.Follows name subscribers m) (coherent : c.connection.Coherent) :
    m.closeSocket.operations =
      (HotReload.operations (c.events ++ c.connection.farewell)).map (Operation.map name) := by
  have inUse := socket?_mode_of_coherent name c.connection coherent
  rw [Machine.closeSocket_eq, follows.mode, inUse, follows.operations]
  cases current : c.connection.current <;> simp [Operation.map, current]

omit [Transport τ] in
theorem Follows.note (follows : c.Follows name subscribers m) (notice : Notice) :
    (c.note notice).Follows name subscribers m where
  mode := follows.mode
  operations := by
    simpa [Client.note, record, Event.operation?, List.filterMap_cons] using follows.operations
  armed := follows.armed
  echoes := follows.echoes.record _ rfl

theorem Follows.start (follows : c.Follows name subscribers m) (coherent : c.connection.Coherent)
    (returned : c.start.phase ≠ .crashed) :
    c.start.Follows name subscribers (m.start (name (c.connection.generation + 1))) := by
  have closed := follows.closed coherent
  have started := c.start_started
  generalize c.start = after at started returned ⊢
  cases started with
  | returned transport reports opening =>
    have dispatched : (m.start (name (c.connection.generation + 1))).dispatched = m.dispatched := by
      simp [Machine.start, Machine.openSocket]
    refine ⟨rfl, ?_, ?_, ?_⟩
    · simp only [Machine.start, Machine.openSocket, closed]
      simp [Event.operation?, Operation.map, List.filterMap_cons]
    · simpa [Machine.start, Machine.openSocket] using follows.armed
    · rw [dispatched]
      exact follows.echoes.of_same rfl (by simp [Event.heard?, List.filterMap_cons])
  | panicked transport opening => exact absurd rfl returned

theorem Follows.disconnect (follows : c.Follows name subscribers m)
    (coherent : c.connection.Coherent) : c.disconnect.Follows name subscribers m.close := by
  have closed := follows.closed coherent
  rw [disconnect_eq]
  have dispatched : m.close.dispatched = m.dispatched := by simp [Machine.close]
  refine ⟨rfl, closed, ?_, ?_⟩
  · simpa [Machine.close] using follows.armed
  · rw [dispatched]
    exact follows.echoes.of_same rfl (by simp)

theorem Follows.deliver (follows : c.Follows name subscribers m)
    (isOpen : c.connection.state = .open) (envelope : Envelope) :
    (c.deliver envelope).Follows name subscribers
      { m with dispatched := m.dispatched ++ [envelope] } := by
  have called := c.calledBack_deliver envelope
  obtain ⟨heard, events, ofFanout⟩ := called.events
  have silent := operations_quiet heard
    fun event member => Event.isQuiet_of_isOfFanout (ofFanout event member)
  refine ⟨?_, ?_, ?_, ?_⟩
  · rw [called.connection]
    exact follows.mode
  · simp only [events, List.filterMap_append, silent, List.append_nil]
    exact follows.operations
  · rw [called.timers]
    exact follows.armed
  · rw [called.config]
    simpa [Bus.replay] using follows.echoes.deliver isOpen envelope

variable [DecidableEq σ]

theorem Follows.handle (follows : c.Follows name subscribers m) (coherent : c.connection.Coherent)
    (signal : Signal) :
    (c.handle signal).Follows name subscribers
      (m.receive (name signal.generation) signal.report) := by
  have handled := c.handle_handled signal
  generalize c.handle signal = after at handled ⊢
  cases handled with
  | superseded signal other =>
    have unmoved : m.receive (name signal.generation) signal.report = m := by
      cases signal.report <;>
        simp [Machine.receive, follows.mode, mode_eq_connecting_iff, mode_eq_open_iff,
          socket?_mode_eq_some_iff, other]
    rw [unmoved]
    exact follows.note _
  | ignored report deaf =>
    have unmoved : m.receive (name c.connection.generation) report = m := by
      cases report <;>
        simp_all [Machine.receive, follows.mode, mode_eq_connecting_iff, mode_eq_open_iff,
          socket?_mode_eq_some_iff, Connection.admits]
    rw [unmoved]
    exact follows
  | opened notice quiet connecting =>
    have moved : m.receive (name c.connection.generation) .opened =
        { m with
          mode := .open (name c.connection.generation)
          dispatched := m.dispatched ++ [.connected] } := by
      simp [Machine.receive, follows.mode, mode_eq_connecting_iff, connecting]
    rw [moved]
    have noted := follows.note notice
    apply Follows.deliver (m := { m with mode := .open (name c.connection.generation) }) _ rfl
    exact ⟨rfl, noted.operations, noted.armed, noted.echoes.of_same rfl rfl⟩
  | message text envelope parsed isOpen =>
    have moved : m.receive (name c.connection.generation) (.message text) =
        { m with dispatched := m.dispatched ++ [envelope] } := by
      simp [Machine.receive, follows.mode, mode_eq_open_iff, isOpen, parsed]
    have heeded : Follows name subscribers { c with connection := c.connection.touch } m :=
      ⟨follows.mode, follows.operations, follows.armed, follows.echoes.of_same rfl rfl⟩
    rw [moved]
    exact heeded.deliver isOpen envelope
  | malformed text cause refused isOpen =>
    have unmoved : m.receive (name c.connection.generation) (.message text) = m := by
      simp [Machine.receive, follows.mode, mode_eq_open_iff, isOpen, refused]
    rw [unmoved]
    have noted := follows.note (.frameRejected (.json cause))
    exact ⟨noted.mode, noted.operations, noted.armed, noted.echoes.of_same rfl rfl⟩
  | failed error live =>
    have moved : m.receive (name c.connection.generation) (.failed error) =
        { m.closeSocket with
          mode := .reconnecting (name c.connection.generation)
          armed := m.armed ++ [name c.connection.generation] } := by
      simp [Machine.receive, follows.mode, socket?_mode_eq_some_iff, live]
    rw [moved]
    have closed := follows.closed coherent
    refine ⟨rfl, ?_, ?_, ?_⟩
    · simp only [closed]
      simp [Event.operation?, List.filterMap_cons]
    · simp [follows.armed]
    · rw [Machine.closeSocket_dispatched]
      exact follows.echoes.of_same rfl (by simp [Event.heard?, List.filterMap_cons])
  | closed live =>
    have moved : m.receive (name c.connection.generation) .closed = { m with mode := .idle } := by
      simp [Machine.receive, follows.mode, socket?_mode_eq_some_iff, live]
    rw [moved]
    have noted := follows.note (.closedByServer c.connection.generation)
    exact ⟨rfl, noted.operations, noted.armed, noted.echoes.of_same rfl rfl⟩

theorem Follows.reconnect (follows : c.Follows name subscribers m) (coherent : c.connection.Coherent)
    (generation : Nat) (returned : (c.reconnect generation).phase ≠ .crashed) :
    (c.reconnect generation).Follows name subscribers
      (m.step (.elapsed (name generation) (name (c.connection.generation + 1)))) := by
  simp only [Machine.step, follows.mode, mode_eq_reconnecting_iff]
  unfold Client.reconnect Connection.awaits at *
  by_cases awaited : generation = c.connection.generation ∧ c.connection.state = .reconnecting
  next =>
    simp only [awaited, decide_true, and_self, if_true] at returned ⊢
    exact (follows.note _).start coherent returned
  next =>
    have refused : ¬ (c.connection.state = .reconnecting ∧ generation = c.connection.generation) :=
      fun holds => awaited holds.symm
    simp only [awaited, refused, decide_false, Bool.false_eq_true, if_false]
    exact follows.note _

theorem Follows.call (follows : c.Follows name subscribers m) (coherent : c.connection.Coherent)
    (call : Call) (returned : (c.call call).phase ≠ .crashed) :
    (c.call call).Follows name subscribers (m.step (c.stimulus name call)) := by
  cases call with
  | start => exact follows.start coherent returned
  | close => exact follows.disconnect coherent
  | reconnect generation => exact follows.reconnect coherent generation returned
  | signal signal => exact follows.handle coherent signal

theorem Follows.calls (calls : List Call) (follows : c.Follows name subscribers m)
    (regular : c.Regular) (returned : (c.calls calls).phase ≠ .crashed) :
    (c.calls calls).Follows name subscribers (m.run (c.stimuli name calls)) ∧
      (c.calls calls).Regular := by
  -- The relation alone does not survive a failure: the socket must be the one the state wants.
  induction calls generalizing c m with
  | nil => exact ⟨follows, regular⟩
  | cons call rest ih =>
    have survived : (c.call call).phase ≠ .crashed :=
      fun crashed => returned ((c.call call).calls_crashed rest crashed)
    exact ih (follows.call regular.current call survived) (regular.call call survived) returned

omit [DecidableEq σ] in
omit [Transport τ] in
theorem follows_spawn (name : Nat ↪ σ) (nesting : Nat) (options : Options) (page : Page)
    (transport : τ) (subscribers : List Subscriber) :
    (spawn nesting options page transport subscribers).Follows name subscribers {} :=
  ⟨rfl, rfl, rfl, rfl, rfl, rfl⟩

theorem calls_refine_reference (name : Nat ↪ σ) (nesting : Nat) (options : Options) (page : Page)
    (transport : τ) (subscribers : List Subscriber) (calls : List Call)
    (returned : ((spawn nesting options page transport subscribers).calls calls).phase ≠ .crashed) :
    let spawned := spawn nesting options page transport subscribers
    let c := spawned.calls calls
    let m := ({} : Machine σ).run (spawned.stimuli name calls)
    c.connection.state = m.mode.state ∧
      c.connection.current.map name = m.mode.socket? ∧
      (operations c.events).map (Operation.map name) = m.operations ∧
      m.sockets.Nodup ∧
      c.timers.map (fun timer => name timer.generation) = m.armed ∧
      heard c.events = heard (Bus.replay nesting subscribers m.dispatched).events := by
  intro spawned c m
  have ⟨follows, regular⟩ : c.Follows name subscribers m ∧ c.Regular :=
    (follows_spawn name nesting options page transport subscribers).calls calls
      (regular_spawn nesting options page transport subscribers) returned
  obtain ⟨last, disciplined, _⟩ := regular.trace
  have heard := follows.echoes.heard
  rw [calls_config] at heard
  refine ⟨?_, ?_, follows.operations.symm, ?_, follows.armed.symm, heard⟩
  · rw [follows.mode, state_mode]
  · rw [follows.mode, socket?_mode_of_coherent name _ regular.current]
  · have ascending := disciplined.openings_pairwise
    have sockets : m.sockets = (openings c.events).map name := by
      rw [Machine.sockets, follows.operations, Operation.filterMap_opened?_map, sockets_operations]
    rw [sockets]
    exact (ascending.imp Nat.ne_of_lt).map _ fun _ _ => name.injective.ne

theorem calls_refine_reference_through_failure :
    let calls := [.start, .signal ⟨1, .opened⟩, .signal ⟨1, .message "[]"⟩,
      .signal ⟨1, .failed .connectionClosed⟩, .reconnect 1, .signal ⟨1, .closed⟩, .close]
    let spawned := spawn 4 .default (.localhost 3000) ({} : Stage)
      [⟨"panics", true, fun _ _ => [.panic .other]⟩]
    let m := ({} : Machine Nat).run (spawned.stimuli id calls)
    (spawned.calls calls).phase ≠ .crashed ∧
      (operations (spawned.calls calls).events).map (Operation.map id) = m.operations ∧
      m.sockets = [1, 2] := by
  intro calls spawned m
  have returned : (spawned.calls calls).phase ≠ .crashed := by decide
  have refined := calls_refine_reference (.refl Nat) 4 .default (.localhost 3000) ({} : Stage)
    [⟨"panics", true, fun _ _ => [.panic .other]⟩] calls returned
  exact ⟨returned, refined.2.2.1, by decide⟩

end Client

end HotReload
