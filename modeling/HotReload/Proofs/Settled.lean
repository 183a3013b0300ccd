import HotReload.Proofs.Discipline
import HotReload.Proofs.Obedience

set_option autoImplicit false

namespace HotReload

namespace Connection

theorem receive_of_delivery {c : Connection} {config : Config} {signal : Signal}
    {envelope : Envelope} (delivered : (c.receive config signal).delivery = some envelope) :
    signal.report.ends = false ∧
    (c.receive config signal).connection = { c.touch with state := .open } ∧
    ∃ notices : List Notice, (∀ notice ∈ notices, (Event.noted notice).isQuiet = true) ∧
      (c.receive config signal).actions = notices.map Action.note := by
  obtain ⟨same, live⟩ := isLive_of_delivery delivered
  obtain ⟨generation, report⟩ := signal
  subst same
  cases report with
  | opened =>
    by_cases connecting : c.state = .connecting
    · simp only [receive, onOpened, connecting, if_true]
      refine ⟨rfl, trivial, [_], ?_, rfl⟩
      split <;> simp [Event.isQuiet]
    · simp [receive, onOpened, connecting] at delivered
  | message text =>
    by_cases isOpen : c.state = .open
    · cases parsed : Envelope.ofFrame text with
      | ok envelope =>
        simp only [receive, onMessage, isOpen, parsed, if_true]
        exact ⟨rfl, by simp [touch, isOpen], [], by simp, rfl⟩
      | error cause => simp [receive, onMessage, isOpen, parsed] at delivered
    · simp [receive, onMessage, isOpen] at delivered
  | failed error => simp [receive, onFailed, live] at delivered
  | closed => simp [receive, onClosed, live] at delivered

end Connection

namespace Client

variable {τ : Type} [Transport τ]

section calls

theorem heard_obey (c : Client τ) (command : Command) :
    heard (c.obey command).events = heard c.events := by
  have self : c.Echoes ⟨c.subscribers, c.events, some .open⟩ := ⟨rfl, rfl, rfl⟩
  cases command with
  | start => exact self.start.heard
  | reconnect generation =>
    simp only [obey, reconnect]
    split
    · exact (self.record (.noted (.reconnecting generation)) rfl).start.heard
    · exact (self.record _ rfl).heard
  | close => exact self.disconnect.heard
  | shutdown => exact (self.disconnect.record (.noted .loopEnded) rfl).heard

theorem heard_received (c : Client τ) (signal : Signal) :
    heard (c.received signal).events = heard c.events := by
  obtain ⟨_, _, _, echo⟩ := actAll_keeps
    { c with connection := (c.connection.receive c.config signal).connection }
    (c.connection.receive c.config signal).actions
  exact (echo ⟨c.subscribers, c.events, some .open⟩ ⟨rfl, rfl, rfl⟩).heard

theorem events_move (c : Client τ) (move : Move τ) : c.events <+: (c.move move).events := by
  have moved := c.move_moved move
  generalize c.move move = after at moved ⊢
  cases moved with
  | beside _ beside =>
    obtain ⟨news, events, _⟩ := beside.events
    exact ⟨news, events.symm⟩
  | begun pending =>
    obtain ⟨news, events, _⟩ := { c with phase := .running }.silent_start
    exact ⟨news, events.symm⟩
  | obeyed command rest running queued =>
    obtain ⟨news, events, _⟩ := { c with commands := rest }.silent_obey command
    exact ⟨news, events.symm⟩
  | handled signal rest running queued =>
    obtain ⟨news, events, _⟩ :=
      { c with inbox := { c.inbox with signals := rest } }.silent_received signal
    have received : c.events <+:
        ({ c with inbox := { c.inbox with signals := rest } }.received signal).events :=
      ⟨news, events.symm⟩
    rw [handle_eq]
    cases (c.connection.receive c.config signal).delivery with
    | none => exact received
    | some envelope =>
      obtain ⟨called, later, _⟩ := (calledBack_deliver
        ({ c with inbox := { c.inbox with signals := rest } }.received signal) envelope).events
      exact received.trans ⟨called, later.symm⟩
  | fired index timer armed due =>
    obtain ⟨commands, same⟩ := { c with timers := c.timers.eraseIdx index }.order_eq
      (.reconnect timer.generation)
    simp [same]

theorem events_run (c : Client τ) (moves : List (Move τ)) : c.events <+: (c.run moves).events :=
  run_induction (P := fun after => c.events <+: after.events)
    (fun after move grown => grown.trans (after.events_move move)) c moves List.prefix_rfl

theorem heard_move (c : Client τ) (move : Move τ) :
    heard (c.move move).events =
      heard c.events ++ heard ((c.glimpses move).filterMap Glimpse.event?) := by
  have uncalled (none : c.calling? move = none) (same : heard (c.move move).events = heard c.events) :
      heard (c.move move).events =
        heard c.events ++ heard ((c.glimpses move).filterMap Glimpse.event?) := by
    simp [glimpses, none, same]
  have self : c.Echoes ⟨c.subscribers, c.events, some .open⟩ := ⟨rfl, rfl, rfl⟩
  have passed := c.move_passed move
  generalize moved : c.move move = after at passed uncalled ⊢
  cases passed with
  | beside _ outside =>
    cases move with
    | begin | command | signal | fire _ => cases outside
    | wait _ | shift _ | register _ => exact uncalled rfl rfl
    | report generation report =>
      have emitted := c.emitAll_eq generation [report]
      change c.emit generation report = _ at emitted
      exact uncalled rfl (by simp [Client.move, emitted])
    | restart | close | abandon => exact uncalled rfl (self.order _).heard
    | send data => exact uncalled rfl (self.request (.send data)).heard
    | publish envelope => exact (c.witnessed_dispatch envelope).heard
  | refused _ inside idle deaf still =>
    refine uncalled ?_ rfl
    cases move <;> simp_all [calling?, Move.isOfLoop]
  | begun pending => exact uncalled rfl (heard_obey { c with phase := .running } .start)
  | obeyed command rest running queued =>
    exact uncalled rfl (heard_obey { c with commands := rest } command)
  | handled signal rest running queued =>
    have heeded : c.heeded? .signal = some signal := by simp [heeded?, running, queued]
    have received := heard_received { c with inbox := { c.inbox with signals := rest } } signal
    simp only [glimpses, calling?, heeded, queued, List.tail_cons, handle_eq]
    cases (c.connection.receive c.config signal).delivery with
    | none => simpa using received
    | some envelope =>
      have witnessed := witnessed_deliver
        ({ c with inbox := { c.inbox with signals := rest } }.received signal) envelope
      exact witnessed.heard.trans (by rw [received]; rfl)
  | fired index timer armed due =>
    have taken : Echoes { c with timers := c.timers.eraseIdx index }
        ⟨c.subscribers, c.events, some .open⟩ := ⟨rfl, rfl, rfl⟩
    exact uncalled rfl (taken.order _).heard

theorem heard_run (c : Client τ) (moves : List (Move τ)) :
    heard (c.run moves).events =
      heard c.events ++ heard ((c.collect glimpses moves).filterMap Glimpse.event?) := by
  induction moves generalizing c with
  | nil => simp [collect]
  | cons move rest ih => simp [collect, ih (c.move move), heard_move]

end calls

theorem notices_eq (c : Client τ) (notices : List Notice) :
    (notices.map Action.note).foldl act c =
      { c with events := c.events ++ notices.map Event.noted } := by
  induction notices generalizing c with
  | nil => simp
  | cons notice rest ih => simp [ih, act, note, record]

structure Calling (c : Client τ) (signal : Signal) (base : Client τ) (envelope : Envelope) :
    Prop where
  running : c.phase = .running
  source : signal.generation = c.connection.generation
  live : c.connection.isLive = true
  going : signal.report.ends = false
  moved : c.move .signal = base.deliver envelope
  begun : ∃ (rest : List Signal) (notices : List Notice), c.inbox.signals = signal :: rest ∧
    (∀ notice ∈ notices, (Event.noted notice).isQuiet = true) ∧
    base = { c with
      inbox := { c.inbox with signals := rest }
      connection := { c.connection.touch with state := .open }
      events := c.events ++ notices.map Event.noted }

theorem calling_of_signal {c base : Client τ} {signal : Signal} {envelope : Envelope}
    (heeded : c.heeded? .signal = some signal) (calling : c.calling? .signal = some (base, envelope)) :
    c.Calling signal base envelope := by
  have passed := c.move_passed .signal
  generalize moved : c.move .signal = after at passed
  cases passed with
  | beside _ outside => cases outside
  | refused _ inside idle deaf still => cases heeded.symm.trans deaf
  | handled first rest running queued =>
    have same : first = signal := by simpa [heeded?, running, queued] using heeded
    subst same
    simp only [calling?, heeded, queued, List.tail_cons, Option.map_eq_some_iff] at calling
    obtain ⟨_, delivered, found⟩ := calling
    cases found
    obtain ⟨source, live⟩ := Connection.isLive_of_delivery delivered
    obtain ⟨going, connection, notices, quiet, actions⟩ := Connection.receive_of_delivery delivered
    refine ⟨running, source, live, going, ?_, rest, notices, queued, quiet, ?_⟩
    · rw [moved, handle_eq, delivered]
      rfl
    · simp only [received, change, connection, actions, notices_eq]

theorem glimpses_since (c : Client τ) :
    ∀ glimpse ∈ c.glimpses .signal, c.events <+: glimpse.client.events := by
  intro glimpse member
  unfold glimpses at member
  split at member
  next base envelope calls =>
    cases heeded : c.heeded? .signal with
    | none => simp [calling?, heeded] at calls
    | some signal =>
      obtain ⟨rest, notices, _, _, rfl⟩ := (calling_of_signal heeded calls).begun
      obtain ⟨_, since, _⟩ := (witnessed_deliver _ envelope).each glimpse member
      exact (List.prefix_append _ _).trans since
  next => cases member

theorem callbacks_undisturbed (nesting : Nat) (options : Options) (page : Page) (transport : τ)
    (subscribers : List Subscriber) (moves later : List (Move τ)) :
    let spawned := spawn nesting options page transport subscribers
    let c := spawned.run moves
    let after := c.move .signal
    heard c.events = heard ((spawned.collect glimpses moves).filterMap Glimpse.event?) ∧
    ∀ signal base envelope, c.heeded? .signal = some signal →
      c.calling? .signal = some (base, envelope) →
      (∀ glimpse ∈ c.glimpses .signal,
        glimpse.client.connection.state = .open ∧
        glimpse.client.connection.current = some signal.generation ∧
        base.Undisturbed glimpse.client) ∧
      base.Undisturbed after ∧
      (∀ glimpse ∈ c.glimpses .signal, ∀ other ∈ (after.run later).glimpses .signal,
        glimpse.client.events <+: after.events ∧ after.events <+: other.client.events) ∧
      after.commands = c.commands ++ (c.glimpses .signal).filterMap Glimpse.command? ∧
      after.Serves later := by
  intro spawned c after
  refine ⟨(spawned.heard_run moves).trans (List.nil_append _), ?_⟩
  intro signal base envelope heeded calls
  have calling := calling_of_signal heeded calls
  have told : c.glimpses .signal = base.diary envelope := by simp [glimpses, calls]
  have witnessed := base.witnessed_deliver envelope
  have orderly : c.Orderly := (orderly_spawn nesting options page transport subscribers).run moves
  have coherent := (orderly.regular (by simp [calling.running])).current
  have inUse := calling.source ▸ coherent.of_live calling.live
  have moved : after = base.deliver envelope := calling.moved
  rw [← moved] at witnessed
  rw [told]
  obtain ⟨rest, notices, queued, _, rfl⟩ := calling.begun
  refine ⟨?_, witnessed.undisturbed, ?_, witnessed.commands ?_, serves ?_ later⟩
  · intro glimpse member
    obtain ⟨undisturbed, _⟩ := witnessed.each glimpse member
    have connection := undisturbed.calledBack.connection
    exact ⟨by rw [connection], by rw [connection]; exact inUse, undisturbed⟩
  · intro glimpse member other next
    obtain ⟨_, _, early⟩ := witnessed.each glimpse member
    exact ⟨early, (after.events_run later).trans ((after.run later).glimpses_since other next)⟩
  · simp [isLive, calling.running]
  · exact witnessed.undisturbed.calledBack.phase.trans calling.running

theorem callbacks_undisturbed_by_requests :
    let eager : Subscriber := ⟨"eager", true, fun sight _ =>
      if sight.heard.isEmpty then
        [.request (.send "hello"), .request .restart, .dispatch "1", .request .close, .panic .other]
      else [.request .restart]⟩
    let stage : Stage := { scripts := [{ ready := .open }] }
    let moves := [.begin, .report 1 .opened, .close]
    let later := [.command, .command, .abandon, .command, .command]
    let after := ((spawn 4 .default (.localhost 3000) stage [eager]).run moves).move .signal
    after.connection.state = .open ∧ after.connection.current = some 1 ∧
      (heard after.events).map Prod.fst = ["eager", "eager"] ∧ after.commands.length = 4 ∧
      after.commands <+: after.obeyed later ∧ (after.run later).connection.generation = 5 := by
  intro eager stage moves later after
  let c := (spawn 4 .default (.localhost 3000) stage [eager]).run moves
  have taken : (c.heeded? .signal).isSome = true := by decide +kernel
  have called : (c.calling? .signal).isSome = true := by decide +kernel
  obtain ⟨signal, heeded⟩ := Option.isSome_iff_exists.mp taken
  obtain ⟨⟨base, envelope⟩, calls⟩ := Option.isSome_iff_exists.mp called
  obtain ⟨_, settled⟩ :=
    callbacks_undisturbed 4 .default (.localhost 3000) stage [eager] moves later
  obtain ⟨_, _, _, _, serves⟩ := settled signal base envelope heeded calls
  exact ⟨by decide +kernel, by decide +kernel, by decide +kernel, by decide +kernel,
    serves.reached (by decide +kernel) (by decide +kernel), by decide +kernel⟩

end Client

end HotReload
