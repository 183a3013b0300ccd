import HotReload.Proofs.Attempt
import HotReload.Proofs.Discipline
import HotReload.Proofs.Reconnect
import HotReload.Stage
import Mathlib.Data.List.Induction

set_option autoImplicit false

namespace HotReload

namespace Client

variable {τ : Type}

-- Whatever is under way for the present connection will not come up before the delay is over.
structure Delayed (c : Client τ) (time : Nat) : Prop where
  sleeping : ∀ timer ∈ c.timers, timer.generation = c.connection.generation →
    time + c.config.delay.nanoseconds ≤ timer.due
  queued : .reconnect c.connection.generation ∈ c.commands →
    time + c.config.delay.nanoseconds ≤ c.now
  closed : c.connection.generation ∈ closings c.events

theorem Delayed.of_fewer {c after : Client τ} {time : Nat} (delayed : c.Delayed time)
    (config : after.config = c.config) (connection : after.connection = c.connection)
    (timers : ∀ timer ∈ after.timers, timer ∈ c.timers)
    (commands : ∀ generation, Command.reconnect generation ∈ after.commands →
      .reconnect generation ∈ c.commands)
    (now : c.now ≤ after.now) (events : c.events <+: after.events) : after.Delayed time where
  sleeping timer member := by
    rw [config, connection]
    exact delayed.sleeping timer (timers timer member)
  queued member := by
    rw [connection] at member
    rw [config]
    exact Nat.le_trans (delayed.queued (commands _ member)) now
  closed := by
    rw [connection]
    exact (events.sublist.filterMap _).subset delayed.closed

theorem Beside.delayed {c after : Client τ} (beside : c.Beside after) (now : c.now ≤ after.now)
    {time : Nat} (delayed : c.Delayed time) : after.Delayed time := by
  obtain ⟨orders, commands, others⟩ := beside.commands
  obtain ⟨news, events, _⟩ := beside.events
  refine delayed.of_fewer beside.config beside.connection ?_ ?_ now ⟨news, events.symm⟩
  · rw [beside.timers]
    exact fun timer member => member
  · intro generation member
    rw [commands] at member
    rcases List.mem_append.mp member with old | new
    · exact old
    · cases others _ new

theorem Delayed.fired {c : Client τ} {time index : Nat} {timer : Timer} (delayed : c.Delayed time)
    (armed : c.timers[index]? = some timer) (due : timer.due ≤ c.now) :
    ({ c with timers := c.timers.eraseIdx index }.order
      (Command.reconnect timer.generation)).Delayed time := by
  have sleeping (other : Timer) (member : other ∈ c.timers.eraseIdx index) :=
    delayed.sleeping other ((List.eraseIdx_sublist _ _).subset member)
  unfold order
  split
  next live =>
    refine ⟨sleeping, fun member => ?_, delayed.closed⟩
    rcases List.mem_append.mp member with old | new
    · exact delayed.queued old
    · have present : c.connection.generation = timer.generation := by simpa using new
      exact Nat.le_trans (delayed.sleeping timer (List.mem_of_getElem? armed) present.symm) due
  next ended => exact ⟨sleeping, delayed.queued, delayed.closed⟩

variable [Transport τ]

-- At this time the connection of this generation failed, and only reconnects were obeyed since.
def FailedAt (spawned : Client τ) (moves : List (Move τ)) (generation time : Nat) : Prop :=
  ∃ before error after, moves = before ++ .signal :: after ∧
    let failing := spawned.run before
    failing.heeded? .signal = some ⟨generation, .failed error⟩ ∧
    failing.connection.generation = generation ∧
    (failing.connection.state = .connecting ∨ failing.connection.state = .open) ∧
    failing.now = time ∧
    ∀ command ∈ (failing.move .signal).obeyed after, ∃ other, command = .reconnect other

theorem FailedAt.concat {spawned : Client τ} {moves : List (Move τ)} {generation time : Nat}
    (failed : spawned.FailedAt moves generation time) (move : Move τ)
    (reconnects : ∀ command ∈ (spawned.run moves).obeyed? move, ∃ other,
      command = .reconnect other) :
    spawned.FailedAt (moves ++ [move]) generation time := by
  obtain ⟨before, error, after, split, heeded, present, live, now, others⟩ := failed
  refine ⟨before, error, after ++ [move], by simp [split], heeded, present, live, now, ?_⟩
  intro command member
  rw [obeyed, collect_concat] at member
  rcases List.mem_append.mp member with old | new
  · exact others command old
  · apply reconnects command
    rw [split, run_append, run_cons]
    exact Option.mem_toList.mp new

variable {c : Client τ}

-- The two ways to wait after a move: as before it, or because of it.
structure Lingers (c after : Client τ) : Prop where
  waiting : c.connection.state = .reconnecting
  generation : after.connection.generation = c.connection.generation
  delayed : ∀ time, c.Delayed time → after.Delayed time

structure Fails (c after : Client τ) : Prop where
  live : c.connection.state = .connecting ∨ c.connection.state = .open
  generation : after.connection.generation = c.connection.generation
  delayed : after.Delayed c.now

theorem not_reconnecting_start (going : c.start.phase ≠ .crashed) :
    c.start.connection.state ≠ .reconnecting := by
  have started := c.start_started
  generalize c.start = after at started going ⊢
  cases started with
  | returned transport reports opening => simp
  | panicked transport opening => exact absurd rfl going

theorem not_reconnecting_disconnect (c : Client τ) :
    c.disconnect.connection.state ≠ .reconnecting := by
  rw [disconnect_eq]
  simp

theorem now_of_outside (c : Client τ) (move : Move τ) (outside : move.isOfLoop = false) :
    c.now ≤ (c.move move).now := by
  have ordered (command : Command) : c.now ≤ (c.order command).now := by
    obtain ⟨commands, same⟩ := c.order_eq command
    exact Nat.le_of_eq (by rw [same])
  cases move with
  | begin | command | signal | fire _ => cases outside
  | wait nanoseconds => exact Nat.le_add_right _ _
  | report generation report =>
    have emitted := c.emitAll_eq generation [report]
    change c.move (.report generation report) = _ at emitted
    exact Nat.le_of_eq (by rw [emitted])
  | shift _ | register _ => exact Nat.le_refl _
  | restart | close | abandon => exact ordered _
  | send data => exact Nat.le_of_eq ((CalledBack.refl c).send data).now.symm
  | publish envelope => exact Nat.le_of_eq (c.calledBack_dispatch _ envelope).now.symm

theorem waits_handle (regular : c.Regular) (accounted : c.Accounted) (signal : Signal)
    (waits : (c.handle signal).connection.state = .reconnecting) :
    c.Lingers (c.handle signal) ∨
      c.Fails (c.handle signal) ∧ ∃ error, signal = ⟨c.connection.generation, .failed error⟩ := by
  have handled := c.handle_handled signal
  generalize c.handle signal = after at handled waits ⊢
  cases handled with
  | superseded signal other =>
    refine .inl ⟨waits, rfl, fun time delayed => ?_⟩
    exact delayed.of_fewer rfl rfl (fun _ member => member) (fun _ member => member) (Nat.le_refl _)
      (List.prefix_append _ _)
  | ignored report deaf => exact .inl ⟨waits, rfl, fun time delayed => delayed⟩
  | opened notice quiet connecting =>
    rw [(calledBack_deliver _ _).connection] at waits
    cases waits
  | message text envelope parsed isOpen =>
    rw [(calledBack_deliver _ _).connection] at waits
    cases isOpen.symm.trans waits
  | malformed text cause refused isOpen => cases isOpen.symm.trans waits
  | failed error live =>
    -- Nothing else is under way for the present connection, or it would wait already.
    have unawaited := List.count_eq_zero.mp
      (accounted.unawaited (Connection.ne_reconnecting_of_isLive live))
    have inUse : c.connection.current = some c.connection.generation := by
      rw [regular.current, live]
      rfl
    refine .inr ⟨⟨by simpa [Connection.isLive] using live, rfl, ?_, ?_, ?_⟩, error, rfl⟩
    · intro timer member present
      rcases List.mem_append.mp member with old | new
      · refine absurd (List.mem_append_left _ ?_) unawaited
        exact List.mem_map.mpr ⟨timer, old, present⟩
      · obtain rfl := List.mem_singleton.mp new
        exact Nat.le_refl _
    · intro member
      refine absurd (List.mem_append_right _ ?_) unawaited
      exact List.mem_filterMap.mpr ⟨_, member, rfl⟩
    · simp [Connection.farewell, inUse, Event.closing?]
  | closed live => cases waits

theorem waits_move (orderly : c.Orderly) (accounted : c.Accounted) (move : Move τ)
    (waits : (c.move move).connection.state = .reconnecting)
    (going : (c.move move).phase ≠ .crashed) :
    c.Lingers (c.move move) ∧ c.phase ≠ .crashed ∧
        (∀ command ∈ c.obeyed? move, ∃ other, command = .reconnect other) ∨
      c.Fails (c.move move) ∧ move = .signal ∧
        ∃ error, c.heeded? .signal = some ⟨c.connection.generation, .failed error⟩ := by
  have passed := c.move_passed move
  generalize moved : c.move move = after at passed waits going ⊢
  cases passed with
  | beside _ outside =>
    have beside := c.beside_move move outside
    have lingers : c.Lingers (c.move move) := ⟨beside.connection ▸ waits, by rw [beside.connection],
      fun time => beside.delayed (c.now_of_outside move outside)⟩
    exact .inl ⟨lingers, beside.phase ▸ going, by simp [(c.still_of_outside outside).1]⟩
  | refused _ inside idle deaf still =>
    exact .inl ⟨⟨waits, rfl, fun time delayed => delayed⟩, going, by simp [idle]⟩
  | begun pending => exact absurd waits (not_reconnecting_start going)
  | obeyed command rest running queued =>
    have obeyed : c.obeyed? .command = some command := by simp [obeyed?, running, queued]
    cases command with
    | start => exact absurd waits (not_reconnecting_start going)
    | reconnect generation =>
      simp only [obey, reconnect] at waits going ⊢
      split at waits
      next awaited =>
        rw [if_pos awaited] at going
        exact absurd waits (not_reconnecting_start going)
      next stale =>
        -- It belongs to an earlier connection: the client is told so and waits on.
        rw [if_neg stale] at going ⊢
        refine .inl ⟨⟨waits, rfl, fun time delayed => ?_⟩, by simp [running], by simp [obeyed]⟩
        refine delayed.of_fewer rfl rfl (fun _ member => member) ?_ (Nat.le_refl _)
          (List.prefix_append _ _)
        exact fun other member => queued ▸ List.mem_cons_of_mem _ member
    | close => exact absurd waits (not_reconnecting_disconnect _)
    | shutdown => exact absurd waits (not_reconnecting_disconnect _)
  | handled signal rest running queued =>
    have regular := orderly.regular (by simp [running])
    have taken : Regular { c with inbox := { c.inbox with signals := rest } } :=
      ⟨regular.trace, regular.current⟩
    have counted : Accounted { c with inbox := { c.inbox with signals := rest } } :=
      accounted.of_count rfl rfl (List.Subset.refl _) rfl
    rcases waits_handle taken counted signal waits with lingers | ⟨fails, error, failure⟩
    · refine .inl ⟨⟨lingers.waiting, lingers.generation, fun time delayed => ?_⟩,
        by simp [running], by simp [obeyed?]⟩
      exact lingers.delayed time ⟨delayed.sleeping, delayed.queued, delayed.closed⟩
    · exact .inr ⟨⟨fails.live, fails.generation, fails.delayed⟩, rfl, error,
        by simp [heeded?, running, queued, failure]⟩
  | fired index timer armed due =>
    obtain ⟨commands, same⟩ := { c with timers := c.timers.eraseIdx index }.order_eq
      (.reconnect timer.generation)
    refine .inl ⟨⟨?_, ?_, fun time delayed => delayed.fired armed due⟩, ?_, by simp [obeyed?]⟩
    · rw [same] at waits
      exact waits
    · rw [same]
    · rw [same] at going
      exact going

theorem waiting_run (orderly : c.Orderly) (accounted : c.Accounted)
    (settled : c.connection.state ≠ .reconnecting) (moves : List (Move τ))
    (waits : (c.run moves).connection.state = .reconnecting)
    (going : (c.run moves).phase ≠ .crashed) :
    ∃ time, c.FailedAt moves (c.run moves).connection.generation time ∧
      (c.run moves).Delayed time := by
  induction moves using List.reverseRecOn with
  | nil => exact absurd waits settled
  | append_singleton moves move ih =>
    rw [run_append, run_cons, run_nil] at waits going ⊢
    -- Either the last move is the failure, or the failure is the one that was waited for already.
    rcases waits_move (orderly.run moves) (accounted.run moves) move waits going with
      ⟨lingers, going, reconnects⟩ | ⟨fails, rfl, error, failure⟩
    · obtain ⟨time, failed, delayed⟩ := ih lingers.waiting going
      rw [lingers.generation]
      exact ⟨time, failed.concat move reconnects, lingers.delayed time delayed⟩
    · rw [fails.generation]
      exact ⟨_, ⟨moves, error, [], rfl, failure, rfl, fails.live, rfl, by simp [obeyed, collect]⟩,
        fails.delayed⟩

theorem not_pending_obey (running : c.phase = .running) (command : Command) :
    (c.obey command).phase ≠ .pending := by
  cases command with
  | start => rcases c.start_keeps.2.2 with same | crashed <;> simp_all [obey]
  | reconnect generation =>
    rcases (c.reconnect_keeps generation).2.2 with same | crashed <;> simp_all [obey]
  | close => simp [obey, c.disconnect_keeps.2.2, running]
  | shutdown => simp [obey, halt]

theorem unopened_move (unopened : c.phase = .pending → openings c.events = []) (move : Move τ)
    (pending : (c.move move).phase = .pending) : openings (c.move move).events = [] := by
  suffices still : c.phase = .pending ∧ c.starts move = false by
    simp [openings_move, unopened still.1, still.2]
  have passed := c.move_passed move
  generalize moved : c.move move = after at passed pending
  cases passed with
  | beside _ outside =>
    exact ⟨(c.beside_move move outside).phase ▸ pending, (c.still_of_outside outside).2⟩
  | refused _ inside idle deaf still => exact ⟨pending, still⟩
  | begun earlier =>
    rcases { c with phase := .running }.start_keeps.2.2 with same | crashed
    · cases same.symm.trans pending
    · cases crashed.symm.trans pending
  | obeyed command rest running queued =>
    exact absurd pending (not_pending_obey (c := { c with commands := rest }) running command)
  | handled signal rest running queued =>
    have same := (handle_keeps { c with inbox := { c.inbox with signals := rest } } signal).2.2
    cases running.symm.trans (same.symm.trans pending)
  | fired index timer armed due =>
    obtain ⟨commands, same⟩ := { c with timers := c.timers.eraseIdx index }.order_eq
      (.reconnect timer.generation)
    rw [same] at pending
    exact ⟨pending, by simp [starts, obeyed?]⟩

theorem generation_of_starts (c : Client τ) (move : Move τ) (starts : c.starts move = true) :
    (c.move move).connection.generation = c.connection.generation + 1 := by
  have passed := c.move_passed move
  generalize moved : c.move move = after at passed
  cases passed with
  | beside _ outside => cases (c.still_of_outside outside).2.symm.trans starts
  | refused _ inside idle deaf still => cases still.symm.trans starts
  | begun pending => exact { c with phase := .running }.start_keeps.2.1
  | obeyed command rest running queued =>
    have obeyed : c.obeyed? .command = some command := by simp [obeyed?, running, queued]
    cases command with
    | start => exact { c with commands := rest }.start_keeps.2.1
    | reconnect generation =>
      have awaited : c.connection.awaits generation = true := by
        simpa [Client.starts, obeyed] using starts
      simp only [obey, reconnect, awaited, if_true]
      exact ({ c with commands := rest }.note (.reconnecting generation)).start_keeps.2.1
    | close => simp [Client.starts, obeyed] at starts
    | shutdown => simp [Client.starts, obeyed] at starts
  | handled signal rest running queued => simp [Client.starts, obeyed?] at starts
  | fired index timer armed due => simp [Client.starts, obeyed?] at starts

omit [Transport τ] in
theorem retried?_eq_some_iff {move : Move τ} {generation : Nat} :
    c.retried? move = some generation ↔
      c.obeyed? move = some (.reconnect generation) ∧ c.starts move = true := by
  unfold retried?
  split
  next other obeyed =>
    simp only [obeyed, Option.some.injEq, Command.reconnect.injEq]
    split <;> simp_all
  next unrelated =>
    simp only [reduceCtorEq, false_iff, not_and]
    exact fun obeyed => absurd obeyed (unrelated generation)

omit [Transport τ] in
theorem awaited_of_retried {move : Move τ} {generation : Nat}
    (retried : c.retried? move = some generation) :
    c.connection.generation = generation ∧ c.connection.state = .reconnecting ∧
      c.phase = .running ∧ .reconnect generation ∈ c.commands := by
  obtain ⟨obeyed, starts⟩ := retried?_eq_some_iff.mp retried
  cases move with
  | command =>
    have awaited : c.connection.awaits generation = true := by
      simpa [Client.starts, obeyed] using starts
    have present : generation = c.connection.generation ∧ c.connection.state = .reconnecting := by
      simpa [Connection.awaits] using awaited
    simp only [obeyed?] at obeyed
    split at obeyed
    next running => exact ⟨present.1.symm, present.2, running, List.mem_of_head? obeyed⟩
    next => cases obeyed
  | _ => cases obeyed

theorem retries_run (c : Client τ) (moves : List (Move τ)) :
    (c.retries moves).Pairwise (· < ·) ∧
      ∀ generation ∈ c.retries moves, generation < (c.run moves).connection.generation := by
  induction moves using List.reverseRecOn with
  | nil => simp [retries, collect]
  | append_singleton moves move ih =>
    obtain ⟨ordered, earlier⟩ := ih
    have later := ((c.run moves).move_keeps move).2
    simp only [retries, collect_concat, run_append, run_cons, run_nil] at ordered earlier ⊢
    cases retried : (c.run moves).retried? move with
    | none =>
      rw [Option.toList_none, List.append_nil]
      exact ⟨ordered, fun generation member =>
        Nat.lt_of_lt_of_le (earlier generation member) later⟩
    | some failed =>
      -- The generation that fails is the present one, and the opening goes past it.
      have present := (awaited_of_retried retried).1
      have next := (c.run moves).generation_of_starts move (retried?_eq_some_iff.mp retried).2
      refine ⟨List.pairwise_append.mpr ⟨ordered, by simp, ?_⟩, ?_⟩
      · intro generation member other same
        rw [List.mem_singleton.mp same, ← present]
        exact earlier generation member
      · intro generation member
        rcases List.mem_append.mp member with old | new
        · exact Nat.lt_of_lt_of_le (earlier generation old) later
        · rw [List.mem_singleton.mp new, next, present]
          exact Nat.lt_succ_self _

theorem attempts_caused (nesting : Nat) (options : Options) (page : Page) (transport : τ)
    (subscribers : List Subscriber) (moves : List (Move τ)) :
    let spawned := spawn nesting options page transport subscribers
    (∀ before move after, moves = before ++ move :: after →
      let here := spawned.run before
      openings (here.move move).events = openings here.events ++
        (if here.starts move then [here.connection.generation + 1] else []) ∧
      (here.starts move = true →
        (move = .begin ∧ openings here.events = []) ∨
        here.obeyed? move = some .start ∨
        ∃ failed time, here.retried? move = some failed ∧
          here.obeyed? move = some (.reconnect failed) ∧
          spawned.FailedAt before failed time ∧
          time + options.reconnectDelay.nanoseconds ≤ here.now ∧
          failed ∈ closings here.events)) ∧
    (spawned.retries moves).Pairwise (· < ·) := by
  intro spawned
  refine ⟨fun before move after split => ?_, (spawned.retries_run moves).1⟩
  intro here
  refine ⟨here.openings_move move, fun starts => ?_⟩
  have orderly : spawned.Orderly := orderly_spawn nesting options page transport subscribers
  have accounted : spawned.Accounted := accounted_spawn nesting options page transport subscribers
  have config : here.config = spawned.config := (spawned.run_keeps before).1
  cases move with
  | begin =>
    have pending : here.phase = .pending := by simpa [Client.starts] using starts
    have unopened := run_induction (P := fun c : Client τ => c.phase = .pending →
      openings c.events = []) (fun _ move holds => unopened_move holds move) spawned before
    exact .inl ⟨rfl, unopened (fun _ => rfl) pending⟩
  | command =>
    cases obeyed : here.obeyed? .command with
    | none => simp [Client.starts, obeyed] at starts
    | some command =>
      cases command with
      | start => exact .inr (.inl rfl)
      | reconnect failed =>
        have retried : here.retried? .command = some failed :=
          retried?_eq_some_iff.mpr ⟨obeyed, starts⟩
        obtain ⟨present, waits, running, queued⟩ := awaited_of_retried retried
        obtain ⟨time, failure, delayed⟩ := waiting_run orderly accounted (by simp [spawned, spawn,
          Connection.initial]) before waits (by simp [here, running])
        change here.connection.generation = failed at present
        subst present
        have due : time + here.config.delay.nanoseconds ≤ here.now := delayed.queued queued
        rw [config] at due
        exact .inr (.inr ⟨_, time, retried, rfl, failure, due, delayed.closed⟩)
      | close => simp [Client.starts, obeyed] at starts
      | shutdown => simp [Client.starts, obeyed] at starts
  | _ => simp [Client.starts, obeyed?] at starts

theorem attempts_caused_across_restart :
    let before := [.begin, .report 1 (.failed .connectionClosed), .signal, .wait 5000000000,
      .fire 0, .command, .restart, .command, .report 3 .opened, .signal,
      .report 3 (.failed .connectionClosed), .signal, .wait 5000000000, .fire 0]
    let spawned := spawn 4 .default (.localhost 3000) ({} : Stage) []
    let here := spawned.run before
    here.starts .command = true ∧ spawned.retries (before ++ [.command]) = [1, 3] ∧
      ∃ time, spawned.FailedAt before 3 time ∧
        time + Options.default.reconnectDelay.nanoseconds ≤ here.now := by
  intro before spawned here
  have starts : here.starts .command = true := by decide +kernel
  have retried : here.retried? .command = some 3 := by decide +kernel
  obtain ⟨caused, _⟩ := attempts_caused 4 .default (.localhost 3000) ({} : Stage) []
    (before ++ [.command])
  have cause := (caused before .command [] rfl).2 starts
  rcases cause with ⟨first, _⟩ | asked | ⟨failed, time, again, _, failure, due, _⟩
  · cases first
  · have other := (retried?_eq_some_iff.mp retried).1
    cases asked.symm.trans other
  · cases again.symm.trans retried
    exact ⟨starts, by decide +kernel, time, failure, due⟩

end Client

end HotReload
