import HotReload.Proofs.Attempt
import HotReload.Proofs.Linked
import HotReload.Proofs.Discipline
import HotReload.Proofs.Settled
import Mathlib.Data.List.Nodup

set_option autoImplicit false

namespace HotReload

namespace Network

inductive Move where
  | client (move : HotReload.Move Network)
  | socket (generation : Nat) (move : Socket.Move)

theorem link_of_socket? {network : Network} {generation : Nat} {s : Socket}
    (found : network.socket? generation = some s) :
    ∃ link ∈ network.links, link.generation = generation ∧ link.socket = s := by
  obtain ⟨link, there, same⟩ := Option.map_eq_some_iff.mp found
  exact ⟨link, List.mem_of_find?_eq_some there, by simpa using List.find?_some there, same⟩

theorem socket?_of_link {network : Network}
    (distinct : (network.links.map Link.generation).Nodup) {link : Link}
    (member : link ∈ network.links) : network.socket? link.generation = some link.socket := by
  cases found : network.links.find? fun other => other.generation = link.generation with
  | none =>
    have missed := List.find?_eq_none.mp found link member
    simp at missed
  | some other =>
    have same : other.generation = link.generation := by simpa using List.find?_some found
    have only := List.inj_on_of_nodup_map distinct (List.mem_of_find?_eq_some found) member same
    simp [socket?, found, only]

theorem generations_mapSocket (network : Network) (generation : Nat) (f : Socket → Socket) :
    (network.mapSocket generation f).links.map Link.generation =
      network.links.map Link.generation := by
  simp only [mapSocket, List.map_map]
  refine List.map_congr_left fun link _ => ?_
  simp only [Function.comp_apply]
  split <;> simp_all

theorem generations_forwarded (network : Network) (events : List Event) :
    (forwarded network events).links.map Link.generation = network.links.map Link.generation := by
  induction events generalizing network with
  | nil => rfl
  | cons event rest ih =>
    refine (ih _).trans ?_
    cases event with
    | sent generation data => exact network.generations_mapSocket generation _
    | _ => rfl

end Network

theorem Linked.forwarded {network : Network} {connection : Connection} {inbox : Inbox}
    (linked : Linked network connection inbox) (events : List Event) :
    Linked (forwarded network events) connection inbox := by
  induction events generalizing network with
  | nil => exact linked
  | cons event rest ih =>
    cases event with
    | sent generation data => exact ih (linked.send generation data)
    | _ => exact ih linked

-- The signal is neither superseded nor out of place.
def Connection.accepts (c : Connection) (signal : Signal) : Bool :=
  signal.generation = c.generation ∧ c.admits signal.report

namespace Client

-- Sockets speak for themselves; only the client sends to them, closes them and keeps hold of one.
def permits (c : Client Network) : Network.Move → Bool
  | .client (.report _ _) => false
  | .client (.shift _) => false
  | .client _ => true
  | .socket _ (.send _) => false
  | .socket _ .close => false
  | .socket generation .release => c.connection.current ≠ some generation
  | .socket _ _ => true

def proceed (c : Client Network) (move : Network.Move) : Client Network :=
  if c.permits move then
    match move with
    | .client move => c.move move
    | .socket generation move => c.moveSocket generation move
  else c

def proceedAll (c : Client Network) (moves : List Network.Move) : Client Network :=
  moves.foldl proceed c

structure Joined (c : Client Network) : Prop where
  linked : Linked c.transport c.connection c.inbox
  opened : c.transport.links.map Link.generation = openings c.events
  going : c.phase ≠ .crashed
  gone : c.inbox.isGone = true → c.phase = .stopped

namespace Joined

variable {c : Client Network}

theorem spawned (nesting : Nat) (options : Options) (page : Page) (subscribers : List Subscriber) :
    (spawn nesting options page ({} : Network) subscribers).Joined :=
  ⟨.initial, rfl, nofun, nofun⟩

theorem undisturbed {here : Client Network} (joined : c.Joined) (undisturbed : c.Undisturbed here) :
    here.Joined := by
  have called := undisturbed.calledBack
  obtain ⟨news, _, transport, _⟩ := undisturbed.news
  refine ⟨?_, ?_, ?_, ?_⟩
  · rw [transport, called.connection, called.inbox]
    exact joined.linked.forwarded news
  · rw [transport, Network.generations_forwarded, called.beside.openings_eq]
    exact joined.opened
  · rw [called.phase]
    exact joined.going
  · rw [called.inbox, called.phase]
    exact joined.gone

theorem record (joined : c.Joined) (event : Event) (quiet : event.isQuiet = true) :
    (c.record event).Joined :=
  ⟨joined.linked, joined.opened.trans (c.openings_record quiet).symm, joined.going, joined.gone⟩

theorem dismissed (joined : c.Joined) (connection : Connection) (vacant : connection.current = none)
    (later : c.connection.generation ≤ connection.generation) :
    Linked c.dismissed connection c.inbox ∧
      c.dismissed.links.map Link.generation = openings c.events := by
  have linked := joined.linked.dismiss vacant later
  have opened := joined.opened
  unfold Client.dismissed
  cases current : c.connection.current with
  | none => exact ⟨by simpa [current] using linked, opened⟩
  | some generation =>
    rw [current] at linked
    refine ⟨linked, ?_⟩
    exact (c.transport.generations_mapSocket generation _).trans opened

theorem disconnect (joined : c.Joined) : c.disconnect.Joined := by
  obtain ⟨linked, opened⟩ := joined.dismissed
    ⟨.idle, none, c.connection.generation + 1, c.connection.activity⟩ rfl (Nat.le_succ _)
  have openings := c.openings_disconnect
  rw [disconnect_eq] at openings ⊢
  exact ⟨linked, opened.trans openings.symm, joined.going, joined.gone⟩

theorem start (joined : c.Joined) : c.start.Joined := by
  obtain ⟨linked, opened⟩ := joined.dismissed { c.connection with current := none } rfl
    (Nat.le_refl _)
  have openings := c.openings_start
  have started := c.start_started
  generalize c.start = after at started openings ⊢
  cases started with
  | returned transport reports opening =>
    cases opening
    have silent : c.inbox.emitAll (c.connection.generation + 1) [] = c.inbox := by
      simp [Inbox.emitAll]
    refine ⟨?_, ?_, joined.going, ?_⟩
    · simp only [silent]
      exact linked.opening rfl c.config.url c.connection.activity
    · refine Eq.trans ?_ openings.symm
      simp [opened]
    · simpa only [silent] using joined.gone
  | panicked transport opening => cases opening

theorem reconnect (joined : c.Joined) (generation : Nat) : (c.reconnect generation).Joined := by
  unfold Client.reconnect
  split
  · exact (joined.record (.noted (.reconnecting generation)) rfl).start
  · exact joined.record _ rfl

theorem obey (joined : c.Joined) (command : Command) : (c.obey command).Joined := by
  cases command with
  | start => exact joined.start
  | reconnect generation => exact joined.reconnect generation
  | close => exact joined.disconnect
  | shutdown =>
    have noted := joined.disconnect.record (.noted .loopEnded) rfl
    have vacant : c.disconnect.connection.current = none := by rw [disconnect_eq]
    exact ⟨noted.linked.leave vacant, noted.opened, nofun, fun _ => rfl⟩

theorem accept (joined : c.Joined) (coherent : c.connection.Coherent) {signal : Signal}
    {rest : List Signal} (queued : c.inbox.signals = signal :: rest)
    (source : signal.generation = c.connection.generation) (going : signal.report.ends = false)
    (notices : List Notice) (quiet : ∀ notice ∈ notices, (Event.noted notice).isQuiet = true) :
    Joined
      { c with
        inbox := { c.inbox with signals := rest }
        connection := { c.connection.touch with state := .open }
        events := c.events ++ notices.map Event.noted } := by
  have silent : openings (notices.map Event.noted) = [] :=
    openings_quiet _ fun event member => by
      obtain ⟨notice, noted, rfl⟩ := List.mem_map.mp member
      exact quiet notice noted
  refine ⟨?_, ?_, joined.going, joined.gone⟩
  · refine (joined.linked.take queued fun _ => going).carryOn rfl rfl fun _ generation s inUse found => ?_
    -- It is the socket of the signal itself, which has left the handshake behind.
    obtain ⟨t, there, shaken, _⟩ := joined.linked.signals signal (by simp [queued])
    rw [source, ← (coherent.of_current inUse).2] at there
    cases found.symm.trans there
    exact shaken
  · simp only [List.filterMap_append, silent, List.append_nil]
    exact joined.opened

theorem handle (joined : c.Joined) (coherent : c.connection.Coherent) {signal : Signal}
    {rest : List Signal} (queued : c.inbox.signals = signal :: rest) :
    ({ c with inbox := { c.inbox with signals := rest } }.handle signal).Joined := by
  have openings := openings_handle { c with inbox := { c.inbox with signals := rest } } signal
  have handled := handle_handled { c with inbox := { c.inbox with signals := rest } } signal
  generalize { c with inbox := { c.inbox with signals := rest } }.handle signal = after
    at openings handled ⊢
  cases handled with
  | superseded signal other =>
    refine ⟨joined.linked.take queued fun inUse => ?_, joined.opened.trans openings.symm,
      joined.going, joined.gone⟩
    exact absurd (coherent.of_current inUse).2 other
  | ignored report deaf =>
    refine ⟨joined.linked.take queued fun inUse => ?_, joined.opened, joined.going, joined.gone⟩
    have live := (coherent.of_current inUse).1
    cases report <;> simp_all [Connection.admits, Report.ends]
  | opened notice quiet connecting =>
    have accepted := joined.accept coherent queued rfl rfl [notice] (by simpa using quiet)
    exact accepted.undisturbed (witnessed_deliver _ _).undisturbed
  | message text envelope parsed isOpen =>
    have accepted := joined.accept coherent queued rfl rfl [] (by simp)
    simp only [List.map_nil, List.append_nil, ← isOpen] at accepted
    exact accepted.undisturbed (witnessed_deliver _ _).undisturbed
  | malformed text cause refused isOpen =>
    have accepted := joined.accept coherent queued rfl rfl [.frameRejected (.json cause)]
      (by simp [Event.isQuiet])
    simp only [← isOpen] at accepted
    exact accepted
  | failed error live =>
    obtain ⟨linked, opened⟩ := joined.dismissed
      { c.connection with current := none, state := .reconnecting } rfl (Nat.le_refl _)
    exact ⟨linked.take queued (by simp), opened.trans openings.symm, joined.going, joined.gone⟩
  | closed live =>
    refine ⟨?_, joined.opened.trans openings.symm, joined.going, joined.gone⟩
    have quiet generation s (found : c.transport.socket? generation = some s) :
        s.isActive = false := by
      refine Bool.eq_false_iff.mpr fun active => ?_
      have inUse := joined.linked.active generation s found active
      obtain ⟨t, there, _, ended⟩ := joined.linked.signals _ (by rw [queued]; exact .head _)
      rw [(coherent.of_current inUse).2] at found
      cases found.symm.trans there
      simp [Socket.isActive, ended rfl] at active
    have vacated : Linked c.transport { c.connection with current := none, state := .idle } c.inbox :=
      joined.linked.vacate rfl (Nat.le_refl _) quiet
    exact vacated.take queued (by simp)

theorem order (joined : c.Joined) (command : Command) : (c.order command).Joined := by
  obtain ⟨commands, same⟩ := c.order_eq command
  rw [same]
  exact ⟨joined.linked, joined.opened, joined.going, joined.gone⟩

theorem move (joined : c.Joined) (orderly : c.Orderly) (move : HotReload.Move Network)
    (permitted : c.permits (.client move) = true) : (c.move move).Joined := by
  have passed := c.move_passed move
  generalize moved : c.move move = after at passed ⊢
  cases passed with
  | beside _ outside =>
    cases move with
    | begin | command | signal | fire _ => cases outside
    | report _ _ | shift _ => cases permitted
    | wait nanoseconds => exact ⟨joined.linked, joined.opened, joined.going, joined.gone⟩
    | restart | close | abandon => exact joined.order _
    | send data => exact joined.undisturbed ((Undisturbed.refl c).send data)
    | register subscriber => exact ⟨joined.linked, joined.opened, joined.going, joined.gone⟩
    | publish envelope => exact joined.undisturbed (c.witnessed_dispatch envelope).undisturbed
  | refused _ inside idle deaf still => exact joined
  | begun pending =>
    have begun : Joined { c with phase := .running } :=
      ⟨joined.linked, joined.opened, nofun, fun gone => by cases pending.symm.trans (joined.gone gone)⟩
    exact begun.start
  | obeyed command rest running queued =>
    have taken : Joined { c with commands := rest } :=
      ⟨joined.linked, joined.opened, joined.going, joined.gone⟩
    exact taken.obey command
  | handled signal rest running queued =>
    exact joined.handle (orderly.regular joined.going).current queued
  | fired index timer armed due =>
    have taken : Joined { c with timers := c.timers.eraseIdx index } :=
      ⟨joined.linked, joined.opened, joined.going, joined.gone⟩
    exact taken.order _

end Joined

theorem proceed_eq_run (c : Client Network) (move : Network.Move) :
    ∃ moves, c.proceed move = c.run moves := by
  unfold proceed
  split
  next =>
    cases move with
    | client move => exact ⟨[move], rfl⟩
    | socket generation move =>
      simp only [moveSocket]
      split
      next s found =>
        refine ⟨.shift (c.transport.mapSocket generation fun _ => (s.step move).socket) ::
          (s.step move).reports.map (.report generation), ?_⟩
        rw [run_cons, run, List.foldl_map]
        rfl
      next => exact ⟨[], rfl⟩
  next => exact ⟨[], rfl⟩

theorem Joined.moveSocket {c : Client Network} (joined : c.Joined) (orderly : c.Orderly)
    (generation : Nat) (move : Socket.Move)
    (permitted : c.permits (.socket generation move) = true) :
    (c.moveSocket generation move).Joined := by
  unfold Client.moveSocket
  split
  next s found =>
    have alone : move ≠ .close := by
      rintro rfl
      cases permitted
    have ongoing := Socket.ongoing_step (joined.linked.sound generation s found).1 move alone
    have held (inUse : c.connection.current = some generation) :
        (s.step move).socket.isHeld = s.isHeld := by
      refine s.step_isHeld move ?_
      rintro rfl
      simp [permits, inUse] at permitted
    have linked := joined.linked.step (f := fun _ => (s.step move).socket) found rfl ongoing held
      fun _ gone => orderly.vacant (joined.gone gone)
    rw [emitAll_eq]
    refine ⟨linked, ?_, joined.going, ?_⟩
    · refine (c.transport.generations_mapSocket generation _).trans ?_
      simpa using joined.opened
    · intro gone
      refine joined.gone ?_
      cases there : c.inbox.isGone <;> simp_all [Inbox.emitAll]
  next => exact joined

theorem Joined.proceed {c : Client Network} (joined : c.Joined) (orderly : c.Orderly)
    (move : Network.Move) : (c.proceed move).Joined := by
  unfold Client.proceed
  split
  next permitted =>
    cases move with
    | client move => exact joined.move orderly move permitted
    | socket generation move => exact joined.moveSocket orderly generation move permitted
  next => exact joined

theorem proceedAll_joined {c : Client Network} (orderly : c.Orderly) (joined : c.Joined)
    (moves : List Network.Move) : (c.proceedAll moves).Orderly ∧ (c.proceedAll moves).Joined := by
  induction moves generalizing c with
  | nil => exact ⟨orderly, joined⟩
  | cons move rest ih =>
    obtain ⟨run, same⟩ := c.proceed_eq_run move
    exact ih (same ▸ orderly.run run) (joined.proceed orderly move)

def HasEnded (c : Client Network) (link : Link) : Prop :=
  link.socket.ready = .closed ∧
    ∃ report : Report, report.ends = true ∧ ⟨link.generation, report⟩ ∈ c.inbox.signals

theorem Joined.isOpen {c : Client Network} (joined : c.Joined) (isOpen : c.connection.state = .open)
    {generation : Nat} (inUse : c.connection.current = some generation) :
    ∃ link ∈ c.transport.links, link.generation = generation ∧
      c.transport.socket? generation = some link.socket ∧
      (link.socket.ready = .open ∨ c.HasEnded link) := by
  obtain ⟨s, found, use⟩ := joined.linked.inUse generation inUse
  obtain ⟨link, member, rfl, rfl⟩ := Network.link_of_socket? found
  refine ⟨link, member, rfl, found, ?_⟩
  cases ready : link.socket.ready with
  | connecting => exact absurd ready (use.shaken isOpen)
  | closing => exact absurd ready use.wanted
  | closed => exact .inr ⟨ready, use.heard ready⟩
  | _ => exact .inl rfl

theorem signals_of_heeded? {τ : Type} {c : Client τ} {move : Move τ} {signal : Signal}
    (heeded : c.heeded? move = some signal) : ∃ rest, c.inbox.signals = signal :: rest := by
  cases move with
  | signal =>
    simp only [heeded?] at heeded
    split at heeded
    · exact List.head?_eq_some_iff.mp heeded
    · cases heeded
  | _ => cases heeded

theorem Joined.glimpse {c : Client Network} (joined : c.Joined) (coherent : c.connection.Coherent)
    {signal : Signal} (heeded : c.heeded? .signal = some signal) {glimpse : Glimpse Network}
    (member : glimpse ∈ c.glimpses .signal) :
    glimpse.client.Joined ∧ glimpse.client.connection.current = some signal.generation ∧
      glimpse.client.connection.state = .open := by
  unfold glimpses at member
  split at member
  next base envelope calls =>
    have calling := calling_of_signal heeded calls
    obtain ⟨rest, notices, queued, quiet, rfl⟩ := calling.begun
    have accepted := joined.accept coherent queued calling.source calling.going notices quiet
    obtain ⟨undisturbed, _⟩ := (witnessed_deliver _ envelope).each glimpse member
    have inUse := calling.source ▸ coherent.of_live calling.live
    have connection := undisturbed.calledBack.connection
    exact ⟨accepted.undisturbed undisturbed, by rw [connection]; exact inUse, by rw [connection]⟩
  next => cases member

theorem one_active_socket (nesting : Nat) (options : Options) (page : Page)
    (subscribers : List Subscriber) (moves : List Network.Move) :
    let c := (spawn nesting options page ({} : Network) subscribers).proceedAll moves
    c.transport.links.map Link.generation = openings c.events ∧
    (openings c.events).Pairwise (· < ·) ∧
    (∀ link ∈ c.transport.links, link.socket.isActive = true →
      c.connection.current = some link.generation) ∧
    (∀ one ∈ c.transport.links, ∀ other ∈ c.transport.links,
      one.socket.isActive = true → other.socket.isActive = true → one = other) ∧
    (c.connection.state = .open → ∃ link ∈ c.transport.links,
      c.connection.current = some link.generation ∧
      (link.socket.ready = .open ∨ c.HasEnded link)) ∧
    (∀ signal, c.heeded? .signal = some signal → ∀ glimpse ∈ c.glimpses .signal,
      (∀ data, Wish.answer ⟨glimpse.client, data⟩ = .sent signal.generation data) ∨
        ∃ link ∈ glimpse.client.transport.links, link.generation = signal.generation ∧
          glimpse.client.HasEnded link) ∧
    (∀ signal, c.heeded? .signal = some signal → c.connection.accepts signal = true →
      signal.report.ends = true → ∃ link ∈ c.transport.links,
        c.connection.current = some link.generation ∧ link.generation = signal.generation ∧
        link.socket.ready = .closed) := by
  intro c
  obtain ⟨orderly, joined⟩ : c.Orderly ∧ c.Joined :=
    proceedAll_joined (orderly_spawn nesting options page {} subscribers)
      (.spawned nesting options page subscribers) moves
  have coherent := (orderly.regular joined.going).current
  obtain ⟨last, disciplined, _⟩ := (orderly.regular joined.going).trace
  have ascending := disciplined.openings_pairwise
  have distinct : (c.transport.links.map Link.generation).Nodup := by
    rw [joined.opened]
    exact ascending.imp Nat.ne_of_lt
  have active link (member : link ∈ c.transport.links) (active : link.socket.isActive = true) :
      c.connection.current = some link.generation :=
    joined.linked.active _ _ (Network.socket?_of_link distinct member) active
  refine ⟨joined.opened, ascending, active, ?_, ?_, ?_, ?_⟩
  · intro one member other there oneActive otherActive
    have inUse := (active one member oneActive).symm.trans (active other there otherActive)
    exact List.inj_on_of_nodup_map distinct member there (Option.some.inj inUse)
  · intro isOpen
    have live : c.connection.isLive = true := by simp [Connection.isLive, isOpen]
    have inUse := coherent.of_live live
    obtain ⟨link, member, same, _, ready⟩ := joined.isOpen isOpen inUse
    exact ⟨link, member, same ▸ inUse, ready⟩
  · intro signal heeded glimpse member
    obtain ⟨seen, inUse, isOpen⟩ := joined.glimpse coherent heeded member
    obtain ⟨link, there, same, found, ready⟩ := seen.isOpen isOpen inUse
    refine ready.imp (fun ready data => ?_) fun ended => ⟨link, there, same, ended⟩
    have target : glimpse.client.target? = some signal.generation :=
      aim_eq_some_iff.mpr ⟨inUse, by simp [Transport.ready, Network.ready, found, ready]⟩
    simp only [Wish.answer, target, Event.answer]
  · intro signal heeded accepts ends
    obtain ⟨source, admitted⟩ : signal.generation = c.connection.generation ∧
        c.connection.admits signal.report = true := by simpa [Connection.accepts] using accepts
    have live : c.connection.isLive = true := by
      cases report : signal.report <;> simp_all [Connection.admits, Report.ends]
    have inUse := source ▸ coherent.of_live live
    obtain ⟨rest, queued⟩ := signals_of_heeded? heeded
    obtain ⟨s, found, _, ended⟩ := joined.linked.signals signal (by simp [queued])
    obtain ⟨link, there, same, rfl⟩ := Network.link_of_socket? found
    exact ⟨link, there, same ▸ inUse, same, ended ends⟩

theorem one_active_socket_across_restart :
    let greeter : Subscriber := ⟨"greeter", true, fun _ _ => [.request (.send "hello")]⟩
    let moves : List Network.Move := [.client .begin, .socket 1 (.shakeHands .completed),
      .client .restart, .client .command, .socket 1 .check, .socket 2 (.shakeHands .completed),
      .socket 2 .check, .client .signal, .socket 2 .takeCommand, .socket 2 (.read .close)]
    let c := (spawn 4 .default (.localhost 3000) ({} : Network) [greeter]).proceedAll moves
    c.connection.state = .open ∧ (answers c.events).map Event.socket? = [some 2] ∧
      (c.transport.links.map fun link => (link.generation, link.socket.ready)) =
        [(1, .closed), (2, .closed)] ∧
      (∃ link ∈ c.transport.links, c.connection.current = some link.generation ∧
        (link.socket.ready = .open ∨ c.HasEnded link)) ∧
      ∃ link ∈ c.transport.links, c.connection.current = some link.generation ∧
        link.socket.ready = .closed := by
  intro greeter moves c
  have isOpen : c.connection.state = .open := by decide +kernel
  have sent : (answers c.events).map Event.socket? = [some 2] := by decide +kernel
  have ready : (c.transport.links.map fun link => (link.generation, link.socket.ready)) =
      [(1, .closed), (2, .closed)] := by decide +kernel
  have waiting : (c.heeded? .signal).any (fun signal =>
      c.connection.accepts signal ∧ signal.report.ends) = true := by decide +kernel
  have joint := one_active_socket 4 .default (.localhost 3000) [greeter] moves
  have same : (spawn 4 .default (.localhost 3000) {} [greeter]).proceedAll moves = c := rfl
  -- From here on only these facts count, and not how the client came about.
  clear_value c
  rw [same] at joint
  obtain ⟨_, _, _, _, opened, _, accepted⟩ := joint
  obtain ⟨signal, heeded, known⟩ := (Option.any_eq_true _ _).mp waiting
  obtain ⟨accepts, ends⟩ : c.connection.accepts signal = true ∧ signal.report.ends = true := by
    simpa using known
  obtain ⟨link, member, inUse, _, closed⟩ := accepted signal heeded accepts ends
  exact ⟨isOpen, sent, ready, opened isOpen, link, member, inUse, closed⟩

end Client

end HotReload
