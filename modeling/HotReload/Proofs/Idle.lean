import HotReload.Proofs.Manager
import HotReload.Proofs.Outcome
import HotReload.Proofs.Run
import HotReload.Stage

set_option autoImplicit false

namespace HotReload

def Call.closes : Call → Bool
  | .close => true
  | _ => false

namespace Client

variable {τ : Type}

def Vacant (c : Client τ) : Prop := c.connection.state = .idle → c.connection.current = none

theorem Vacant.of_connection {c after : Client τ} (vacant : c.Vacant)
    (same : after.connection = c.connection) : after.Vacant := by
  unfold Vacant
  rwa [same]

variable [Transport τ] {c : Client τ}

theorem vacant_start (c : Client τ) : c.start.Vacant := by
  have started := c.start_started
  generalize c.start = after at started ⊢
  cases started with
  | returned transport reports opening => intro idle; cases idle
  | panicked transport opening => exact fun _ => rfl

theorem vacant_disconnect (c : Client τ) : c.disconnect.Vacant := by
  rw [disconnect_eq]
  exact fun _ => rfl

theorem Vacant.reconnect (vacant : c.Vacant) (generation : Nat) :
    (c.reconnect generation).Vacant := by
  unfold Client.reconnect
  split
  · exact vacant_start _
  · exact vacant

theorem Vacant.handle (vacant : c.Vacant) (signal : Signal) : (c.handle signal).Vacant := by
  have handled := c.handle_handled signal
  generalize c.handle signal = after at handled ⊢
  cases handled with
  | superseded signal other => exact vacant
  | ignored report deaf => exact vacant
  | opened notice quiet connecting =>
    intro idle
    rw [(calledBack_deliver _ _).connection] at idle
    cases idle
  | message text envelope parsed isOpen =>
    intro idle
    rw [(calledBack_deliver _ _).connection] at idle
    cases isOpen.symm.trans idle
  | malformed text cause refused isOpen => exact vacant
  | failed error live => exact fun _ => rfl
  | closed live => exact fun _ => rfl

theorem Vacant.call (vacant : c.Vacant) (call : Call) : (c.call call).Vacant := by
  cases call with
  | start => exact c.vacant_start
  | close => exact c.vacant_disconnect
  | reconnect generation => exact vacant.reconnect generation
  | signal signal => exact vacant.handle signal

theorem Vacant.calls (vacant : c.Vacant) (calls : List Call) : (c.calls calls).Vacant := by
  induction calls generalizing c with
  | nil => exact vacant
  | cons call rest ih => exact ih (vacant.call call)

theorem Vacant.obey (vacant : c.Vacant) (command : Command) : (c.obey command).Vacant := by
  cases command with
  | start => exact c.vacant_start
  | reconnect generation => exact vacant.reconnect generation
  | close => exact c.vacant_disconnect
  | shutdown => exact c.vacant_disconnect.of_connection rfl

theorem Vacant.move (vacant : c.Vacant) (move : Move τ) : (c.move move).Vacant := by
  have moved := c.move_moved move
  generalize c.move move = after at moved ⊢
  cases moved with
  | beside _ beside => exact vacant.of_connection beside.connection
  | begun pending => exact vacant_start _
  | obeyed command rest running queued =>
    have taken : Vacant { c with commands := rest } := vacant
    exact taken.obey command
  | handled signal rest running queued =>
    have taken : Vacant { c with inbox := { c.inbox with signals := rest } } := vacant
    exact taken.handle signal
  | fired index timer armed due =>
    obtain ⟨commands, same⟩ := { c with timers := c.timers.eraseIdx index }.order_eq
      (.reconnect timer.generation)
    rw [same]
    exact vacant

theorem call_of_idle (idle : c.connection.state = .idle) (vacant : c.connection.current = none)
    (call : Call) (unstarted : call ≠ .start) :
    ∃ notices : List Notice, c.call call =
      { c with
        connection := { c.connection with
          generation := c.connection.generation + [call].countP Call.closes }
        events := c.events ++ notices.map .noted } := by
  cases call with
  | start => exact absurd rfl unstarted
  | close =>
    refine ⟨[], ?_⟩
    simp [Client.call, disconnect_eq, Call.closes, dismissed, Connection.farewell, vacant, idle]
  | reconnect generation =>
    have stale : c.connection.awaits generation = false := by simp [Connection.awaits, idle]
    exact ⟨[.staleReconnect generation c.connection.generation], by
      simp [Client.call, Client.reconnect, stale, note, record, Call.closes]⟩
  | signal signal =>
    -- A server's close leaves the generation as it is: then it is the state that keeps signals out.
    have dead : c.connection.isLive = false := by simp [Connection.isLive, idle]
    by_cases same : signal.generation = c.connection.generation
    next =>
      obtain ⟨generation, report⟩ := signal
      subst same
      refine ⟨[], ?_⟩
      simp [Client.call, Client.handle, Connection.receive_of_not_live dead, change, Call.closes]
    next =>
      refine ⟨[.superseded signal.generation c.connection.generation], ?_⟩
      simp [Client.call, Client.handle, Connection.receive_of_ne same, change, act, note, record,
        Call.closes]

theorem calls_of_idle (idle : c.connection.state = .idle) (vacant : c.connection.current = none)
    (calls : List Call) (unstarted : ∀ call ∈ calls, call ≠ .start) :
    ∃ notices : List Notice, c.calls calls =
      { c with
        connection := { c.connection with
          generation := c.connection.generation + calls.countP Call.closes }
        events := c.events ++ notices.map .noted } := by
  induction calls generalizing c with
  | nil => exact ⟨[], by simp [calls]⟩
  | cons call rest ih =>
    obtain ⟨first, called⟩ := call_of_idle idle vacant call (unstarted call (by simp))
    have idleNext : (c.call call).connection.state = .idle := by rw [called]; exact idle
    have vacantNext : (c.call call).connection.current = none := by rw [called]; exact vacant
    obtain ⟨others, more⟩ :=
      ih idleNext vacantNext fun other member => unstarted other (by simp [member])
    refine ⟨first ++ others, ?_⟩
    have closed : (call :: rest).countP Call.closes =
        [call].countP Call.closes + rest.countP Call.closes := by
      rw [← List.countP_append]
      rfl
    change (c.call call).calls rest = _
    rw [more, called, closed]
    simp only [List.map_append, List.append_assoc, Nat.add_assoc]

theorem idle_until_started (nesting : Nat) (options : Options) (page : Page) (transport : τ)
    (subscribers : List Subscriber) (moves : List (Move τ)) (history more : List Call)
    (idle : (((spawn nesting options page transport subscribers).run moves).calls
      history).connection.state = .idle)
    (unstarted : ∀ call ∈ more, call ≠ .start) :
    let c := ((spawn nesting options page transport subscribers).run moves).calls history
    (c.calls more).connection.state = .idle ∧ (c.calls more).connection.current = none ∧
    ∃ notices : List Notice, c.calls more =
      { c with
        connection := { c.connection with
          generation := c.connection.generation + more.countP Call.closes }
        events := c.events ++ notices.map .noted } := by
  intro c
  have spawned : (spawn nesting options page transport subscribers).Vacant := fun _ => rfl
  have reached : ((spawn nesting options page transport subscribers).run moves).Vacant :=
    run_induction (fun _ move vacant => vacant.move move) _ moves spawned
  have vacant : c.connection.current = none := reached.calls history idle
  obtain ⟨notices, quiet⟩ := calls_of_idle idle vacant more unstarted
  exact ⟨by rw [quiet]; exact idle, by rw [quiet]; exact vacant, notices, quiet⟩

theorem idle_until_started_beside_late_signals :
    let c := ((spawn 4 .default (.localhost 3000) ({} : Stage) []).run
      [.begin, .report 1 (.failed .connectionClosed), .signal, .wait 5000000000, .fire 0, .command,
        .report 2 .opened, .signal]).calls [.signal ⟨2, .closed⟩]
    let more := [.signal ⟨2, .opened⟩, .signal ⟨2, .failed .connectionClosed⟩, .reconnect 2, .close,
      .signal ⟨2, .message "null"⟩, .reconnect 1]
    (c.calls more).connection.state = .idle ∧ (c.calls more).connection.current = none ∧
      (c.calls more).timers = c.timers := by
  intro c more
  have reached : c.connection.state = .idle := by decide
  have unstarted : ∀ call ∈ more, call ≠ .start := by simp [more]
  obtain ⟨idle, vacant, _, quiet⟩ :=
    idle_until_started 4 .default (.localhost 3000) ({} : Stage) [] _ _ more reached unstarted
  change c.calls more = _ at quiet
  exact ⟨by simpa only [c] using idle, by simpa only [c] using vacant, by rw [quiet]⟩

end Client

end HotReload
