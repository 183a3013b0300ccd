import HotReload.Proofs.Silent

set_option autoImplicit false

namespace HotReload

namespace Connection

structure Alike (activity : Nat → Nat → Prop) (c d : Connection) : Prop where
  state : c.state = d.state
  current : c.current = d.current
  generation : c.generation = d.generation
  activity : activity c.activity d.activity

namespace Alike

variable {activity : Nat → Nat → Prop} {c d : Connection}

theorem eq (alike : c.Alike Eq d) : c = d := by
  cases c
  cases d
  obtain ⟨rfl, rfl, rfl, rfl⟩ := alike
  rfl

theorem isLive (alike : c.Alike activity d) : c.isLive = d.isLive := by
  simp only [Connection.isLive, alike.state]

theorem release (alike : c.Alike activity d) :
    c.release.1.Alike activity d.release.1 ∧ c.release.2 = d.release.2 := by
  simp only [Connection.release, alike.current]
  cases d.current with
  | none => exact ⟨alike, rfl⟩
  | some generation => exact ⟨⟨alike.state, rfl, alike.generation, alike.activity⟩, rfl⟩

theorem receive (alike : c.Alike activity d)
    (raised : ∀ m n, activity m n → activity (m + 1) (n + 1)) (config : Config) (signal : Signal) :
    (c.receive config signal).connection.Alike activity (d.receive config signal).connection ∧
      (c.receive config signal).actions = (d.receive config signal).actions ∧
      (c.receive config signal).delivery = (d.receive config signal).delivery := by
  have later := raised _ _ alike.activity
  simp only [Connection.receive, alike.generation]
  split
  next =>
    cases signal.report with
    | opened =>
      simp only [onOpened, alike.state, alike.generation]
      split
      · exact ⟨⟨rfl, alike.current, alike.generation, later⟩, rfl, rfl⟩
      · exact ⟨alike, rfl, rfl⟩
    | message text =>
      simp only [onMessage, alike.state]
      split
      · cases Envelope.ofFrame text <;>
          exact ⟨⟨alike.state, alike.current, alike.generation, later⟩, rfl, rfl⟩
      · exact ⟨alike, rfl, rfl⟩
    | failed error =>
      obtain ⟨released, actions⟩ := alike.release
      simp only [onFailed, alike.isLive, alike.generation, actions]
      cases d.isLive with
      | true => exact ⟨⟨rfl, released.current, released.generation, released.activity⟩, rfl, rfl⟩
      | false => exact ⟨alike, rfl, rfl⟩
    | closed =>
      simp only [onClosed, alike.isLive, alike.generation]
      split
      · exact ⟨⟨rfl, rfl, rfl, alike.activity⟩, rfl, rfl⟩
      · exact ⟨alike, rfl, rfl⟩
  next => exact ⟨alike, rfl, rfl⟩

end Alike

end Connection

-- How far apart two clients may be.
structure Leeway where
  activity : Nat → Nat → Prop
  inbox : Inbox → Inbox → Prop
  subscribers : List Subscriber → List Subscriber → Prop
  -- The events that must be the same on both sides.
  counts : Event → Bool

namespace Client

variable {τ : Type}

structure Akin (leeway : Leeway) (c d : Client τ) : Prop where
  config : c.config = d.config
  transport : c.transport = d.transport
  connection : c.connection.Alike leeway.activity d.connection
  subscribers : leeway.subscribers c.subscribers d.subscribers
  phase : c.phase = d.phase
  commands : c.commands = d.commands
  inbox : leeway.inbox c.inbox d.inbox
  timers : c.timers = d.timers
  now : c.now = d.now
  events : c.events.filter leeway.counts = d.events.filter leeway.counts

end Client

-- What a leeway must allow so that only the taking of a signal can exhaust it.
structure Leeway.Endures (τ : Type) [Transport τ] (leeway : Leeway) : Prop where
  raised : ∀ m n, leeway.activity m n → leeway.activity (m + 1) (n + 1)
  gone : ∀ i j, leeway.inbox i j → i.isGone = j.isGone
  emitted : ∀ i j generation reports, leeway.inbox i j →
    leeway.inbox (i.emitAll generation reports) (j.emitAll generation reports)
  left : ∀ i j, leeway.inbox i j → leeway.inbox i.leave j.leave
  told : ∀ (c d : Client τ) envelope, c.Akin leeway d →
    (dispatch (c.config.nesting + 1) envelope c).1.Akin leeway
      (dispatch (d.config.nesting + 1) envelope d).1
  delivered : ∀ (c d : Client τ) envelope, c.Akin leeway d →
    (c.deliver envelope).Akin leeway (d.deliver envelope)

namespace Client

variable {τ : Type}

namespace Akin

variable {leeway : Leeway} {c d : Client τ}

theorem record (akin : c.Akin leeway d) (event : Event) :
    (c.record event).Akin leeway (d.record event) :=
  { akin with events := by simp only [Client.record, List.filter_append, akin.events] }

theorem order (akin : c.Akin leeway d) (command : Command) :
    (c.order command).Akin leeway (d.order command) := by
  unfold Client.order Client.isLive
  rw [akin.phase]
  split
  · exact { akin with
      phase := rfl
      commands := by simp only [akin.commands] }
  · exact akin

theorem farewell (akin : c.Akin leeway d) : c.connection.farewell = d.connection.farewell := by
  simp only [Connection.farewell, akin.connection.current]

variable [Transport τ]

theorem send (akin : c.Akin leeway d) (data : String) : (c.send data).Akin leeway (d.send data) := by
  have target : c.target? = d.target? := by
    simp only [target?, aim, akin.connection.current, akin.transport]
  unfold Client.send
  rw [target]
  cases d.target? with
  | none => exact akin.record _
  | some generation =>
    have sent : Akin leeway
        { c with transport := Transport.sendText c.transport generation data }
        { d with transport := Transport.sendText d.transport generation data } :=
      { akin with transport := by simp only [akin.transport] }
    exact sent.record _

theorem act (akin : c.Akin leeway d) (action : Action) :
    (c.act action).Akin leeway (d.act action) := by
  cases action with
  | note notice => exact akin.record _
  | close generation =>
    have closed : Akin leeway
        { c with transport := Transport.closeSocket c.transport generation }
        { d with transport := Transport.closeSocket d.transport generation } :=
      { akin with transport := by simp only [akin.transport] }
    exact closed.record _
  | arm generation =>
    exact { akin with timers := by simp only [Client.act, akin.timers, akin.now, akin.config] }

theorem change (akin : c.Akin leeway d) {connection other : Connection}
    (alike : connection.Alike leeway.activity other) (actions : List Action) :
    (c.change connection actions).Akin leeway (d.change other actions) := by
  have changed : Akin leeway { c with connection } { d with connection := other } :=
    { akin with connection := alike }
  unfold Client.change
  generalize { c with connection } = here at changed
  generalize { d with connection := other } = there at changed
  induction actions generalizing here there with
  | nil => exact changed
  | cons action rest ih => exact ih _ _ (changed.act action)

theorem dismissed (akin : c.Akin leeway d) : c.dismissed = d.dismissed := by
  simp only [Client.dismissed, akin.connection.current, akin.transport]

theorem disconnect (akin : c.Akin leeway d) : c.disconnect.Akin leeway d.disconnect := by
  rw [disconnect_eq, disconnect_eq]
  exact { akin with
    transport := akin.dismissed
    connection := ⟨rfl, rfl, congrArg (· + 1) akin.connection.generation, akin.connection.activity⟩
    events := by simp only [List.filter_append, akin.events, akin.farewell] }

theorem emitAll (akin : c.Akin leeway d) (endures : leeway.Endures τ) (generation : Nat)
    (reports : List Report) :
    (c.emitAll generation reports).Akin leeway (d.emitAll generation reports) := by
  have losses : c.inbox.losses generation reports = d.inbox.losses generation reports := by
    simp only [Inbox.losses, endures.gone _ _ akin.inbox]
  rw [emitAll_eq, emitAll_eq, losses]
  exact { akin with
    inbox := endures.emitted _ _ generation reports akin.inbox
    events := by simp only [List.filter_append, akin.events] }

theorem halt (akin : c.Akin leeway d) (endures : leeway.Endures τ) (phase : Phase) :
    (c.halt phase).Akin leeway (d.halt phase) :=
  { akin with
    phase := rfl
    commands := rfl
    inbox := endures.left _ _ akin.inbox }

theorem start (akin : c.Akin leeway d) (endures : leeway.Endures τ) :
    c.start.Akin leeway d.start := by
  have raised : c.connection.generation + 1 = d.connection.generation + 1 :=
    congrArg (· + 1) akin.connection.generation
  have losses (reports : List Report) :
      c.inbox.losses (d.connection.generation + 1) reports =
        d.inbox.losses (d.connection.generation + 1) reports := by
    simp only [Inbox.losses, endures.gone _ _ akin.inbox]
  have started := c.start_started
  have startedToo := d.start_started
  generalize c.start = after at started ⊢
  generalize d.start = other at startedToo ⊢
  -- Both open the same socket in the same way, so it cannot panic for one of them alone.
  cases started with
  | returned transport reports opening =>
    rw [akin.dismissed, raised, akin.config] at opening
    cases startedToo with
    | returned transportToo reportsToo openingToo =>
      cases opening.symm.trans openingToo
      exact { akin with
        transport := rfl
        connection := ⟨rfl, congrArg some raised, raised, akin.connection.activity⟩
        inbox := raised ▸ endures.emitted _ _ _ reports akin.inbox
        events := by
          simp only [List.filter_append, akin.events, akin.farewell, raised, akin.config, losses] }
    | panicked transportToo openingToo => cases opening.symm.trans openingToo
  | panicked transport opening =>
    rw [akin.dismissed, raised, akin.config] at opening
    cases startedToo with
    | returned transportToo reportsToo openingToo => cases opening.symm.trans openingToo
    | panicked transportToo openingToo =>
      cases opening.symm.trans openingToo
      exact { akin with
        transport := rfl
        connection := ⟨akin.connection.state, rfl, raised, akin.connection.activity⟩
        phase := rfl
        commands := rfl
        inbox := endures.left _ _ akin.inbox
        events := by
          simp only [List.filter_append, akin.events, akin.farewell, raised, akin.config] }

theorem reconnect (akin : c.Akin leeway d) (endures : leeway.Endures τ) (generation : Nat) :
    (c.reconnect generation).Akin leeway (d.reconnect generation) := by
  have awaits : c.connection.awaits generation = d.connection.awaits generation := by
    simp only [Connection.awaits, akin.connection.generation, akin.connection.state]
  unfold Client.reconnect
  rw [awaits, akin.connection.generation]
  split
  · exact (akin.record _).start endures
  · exact akin.record _

theorem obey (akin : c.Akin leeway d) (endures : leeway.Endures τ) (command : Command) :
    (c.obey command).Akin leeway (d.obey command) := by
  cases command with
  | start => exact akin.start endures
  | reconnect generation => exact akin.reconnect endures generation
  | close => exact akin.disconnect
  | shutdown => exact (akin.disconnect.record _).halt endures .stopped

theorem handle (akin : c.Akin leeway d) (endures : leeway.Endures τ) (signal : Signal) :
    (c.handle signal).Akin leeway (d.handle signal) := by
  obtain ⟨alike, actions, delivery⟩ :=
    akin.connection.receive endures.raised d.config signal
  have received : (c.received signal).Akin leeway (d.received signal) := by
    simp only [Client.received, akin.config, actions]
    exact akin.change alike _
  rw [c.handle_eq, d.handle_eq, akin.config, delivery]
  cases (d.connection.receive d.config signal).delivery with
  | none => exact received
  | some envelope => exact endures.delivered _ _ envelope received

theorem begin (akin : c.Akin leeway d) (endures : leeway.Endures τ) :
    (c.move .begin).Akin leeway (d.move .begin) := by
  simp only [Client.move]
  rw [akin.phase]
  split
  · have begun : Akin leeway { c with phase := .running } { d with phase := .running } :=
      { akin with phase := rfl }
    exact begun.start endures
  · exact akin

theorem command (akin : c.Akin leeway d) (endures : leeway.Endures τ) :
    (c.move .command).Akin leeway (d.move .command) := by
  simp only [Client.move]
  rw [akin.phase]
  split
  next =>
    rw [takeCommand?, takeCommand?, akin.commands]
    cases d.commands with
    | nil => exact akin
    | cons command rest =>
      have taken : Akin leeway { c with commands := rest } { d with commands := rest } :=
        { akin with commands := rfl }
      exact taken.obey endures command
  next => exact akin

theorem fire (akin : c.Akin leeway d) (index : Nat) :
    (c.move (.fire index)).Akin leeway (d.move (.fire index)) := by
  simp only [Client.move]
  rw [akin.timers, akin.now]
  cases d.timers[index]? with
  | none => exact akin
  | some timer =>
    have taken : Akin leeway { c with now := d.now, timers := d.timers.eraseIdx index }
        { d with timers := d.timers.eraseIdx index } :=
      { akin with
        timers := rfl
        now := rfl }
    dsimp only
    split
    · exact taken.order (.reconnect timer.generation)
    · exact akin

theorem take (akin : c.Akin leeway d) (endures : leeway.Endures τ) {signal : Signal}
    {rest others : List Signal} (queued : c.inbox.signals = signal :: rest)
    (queuedToo : d.inbox.signals = signal :: others)
    (later : leeway.inbox { c.inbox with signals := rest } { d.inbox with signals := others }) :
    (c.move .signal).Akin leeway (d.move .signal) := by
  simp only [Client.move, takeSignal?, queued, queuedToo]
  by_cases running : d.phase = .running
  · rw [if_pos running, if_pos (akin.phase.trans running)]
    have taken : Akin leeway { c with inbox := { c.inbox with signals := rest } }
        { d with inbox := { d.inbox with signals := others } } := { akin with inbox := later }
    exact taken.handle endures signal
  · rw [if_neg running, if_neg (akin.phase ▸ running)]
    exact akin

theorem signal (akin : c.Akin leeway d) (endures : leeway.Endures τ) (level : c.inbox = d.inbox)
    (alike : ∀ i, leeway.inbox i i) : (c.move .signal).Akin leeway (d.move .signal) := by
  cases queued : d.inbox.signals with
  | nil => simpa [Client.move, takeSignal?, level, queued] using akin
  | cons signal rest =>
    refine akin.take endures (level ▸ queued) queued ?_
    rw [level]
    exact alike _

theorem move (akin : c.Akin leeway d) (endures : leeway.Endures τ) {move : Move τ}
    (deaf : move ≠ .signal) (unregistered : ∀ subscriber, move ≠ .register subscriber) :
    (c.move move).Akin leeway (d.move move) := by
  cases move with
  | begin => exact akin.begin endures
  | command => exact akin.command endures
  | signal => exact absurd rfl deaf
  | wait nanoseconds => exact { akin with now := by simp only [Client.move, akin.now] }
  | fire index => exact akin.fire index
  | report generation report => exact akin.emitAll endures generation [report]
  | shift transport => exact { akin with transport := rfl }
  | restart => exact akin.order .start
  | close => exact akin.order .close
  | abandon => exact akin.order .shutdown
  | send data => exact akin.send data
  | register subscriber => exact absurd rfl (unregistered subscriber)
  | publish envelope => exact endures.told _ _ envelope akin

end Akin

end Client

end HotReload
