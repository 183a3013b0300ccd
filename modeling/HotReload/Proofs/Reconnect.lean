import HotReload.Proofs.Manager
import HotReload.Proofs.Run
import HotReload.Stage
import Mathlib.Data.List.Perm.Basic

set_option autoImplicit false

namespace HotReload

theorem Connection.ne_reconnecting_of_isLive {c : Connection} (live : c.isLive = true) :
    c.state ≠ .reconnecting := by
  intro waiting
  simp [isLive, waiting] at live

namespace Client

variable {τ : Type}

-- The reconnects that sleep or wait in the queue.
def inFlight (c : Client τ) : List Nat :=
  c.timers.map Timer.generation ++ c.commands.filterMap Command.reconnect?

def Bounded (c : Client τ) : Prop := ∀ generation ∈ c.inFlight, generation ≤ c.connection.generation

structure Accounted (c : Client τ) : Prop where
  bounded : c.Bounded
  -- A crash may leave the state behind, but then nobody waits any more.
  awaited : c.inFlight.count c.connection.generation =
    if c.connection.state = .reconnecting ∧ c.phase ≠ .crashed then 1 else 0
  idle : c.phase = .stopped → c.connection.state = .idle

theorem Bounded.fresh {c : Client τ} (bounded : c.Bounded) (flying : List Nat)
    (known : flying ⊆ c.inFlight) : flying.count (c.connection.generation + 1) = 0 := by
  apply List.count_eq_zero.mpr
  intro member
  have := bounded _ (known member)
  omega

theorem inFlight_perm {c : Client τ} {command : Command} {rest : List Command}
    (queued : c.commands = command :: rest) :
    c.inFlight.Perm (command.reconnect?.toList ++ { c with commands := rest }.inFlight) := by
  have split : (command :: rest).filterMap Command.reconnect? =
      command.reconnect?.toList ++ rest.filterMap Command.reconnect? := by
    cases command <;> rfl
  rw [inFlight, queued, split]
  exact List.perm_append_comm_assoc _ _ _

theorem inFlight_subset {c : Client τ} {command : Command} {rest : List Command}
    (queued : c.commands = command :: rest) :
    { c with commands := rest }.inFlight ⊆ c.inFlight :=
  List.Subset.trans (List.subset_append_right _ _) (inFlight_perm queued).symm.subset

theorem Accounted.unawaited {c : Client τ} (accounted : c.Accounted)
    (settled : c.connection.state ≠ .reconnecting) :
    c.inFlight.count c.connection.generation = 0 := by
  rw [accounted.awaited, if_neg (fun waiting => settled waiting.1)]

theorem Accounted.of_count {c after : Client τ} (accounted : c.Accounted)
    (connection : after.connection = c.connection) (phase : after.phase = c.phase)
    (fewer : after.inFlight ⊆ c.inFlight)
    (same : after.inFlight.count c.connection.generation =
      c.inFlight.count c.connection.generation) : after.Accounted where
  bounded generation member := by
    rw [connection]
    exact accounted.bounded generation (fewer member)
  awaited := by rw [connection, phase, same, accounted.awaited]
  idle stopped := by
    rw [phase] at stopped
    rw [connection, accounted.idle stopped]

theorem Beside.accounted {c after : Client τ} (beside : c.Beside after) (accounted : c.Accounted) :
    after.Accounted := by
  obtain ⟨orders, commands, others⟩ := beside.commands
  have same : after.inFlight = c.inFlight := by
    have none : orders.filterMap Command.reconnect? = [] := List.filterMap_eq_nil_iff.mpr others
    simp [inFlight, beside.timers, commands, none]
  apply accounted.of_count beside.connection beside.phase
  · simp [same]
  · rw [same]

theorem Accounted.fired {c : Client τ} (accounted : c.Accounted) (index : Nat) (timer : Timer)
    (armed : c.timers[index]? = some timer) :
    ({ c with timers := c.timers.eraseIdx index }.order
      (Command.reconnect timer.generation)).Accounted := by
  obtain ⟨inside, rfl⟩ := List.getElem?_eq_some_iff.mp armed
  have moved := (List.getElem_cons_eraseIdx_perm inside).map Timer.generation
  unfold order
  split
  next live =>
    have permuted : List.Perm
        ((c.timers.eraseIdx index).map Timer.generation ++
          (c.commands ++ [Command.reconnect c.timers[index].generation]).filterMap Command.reconnect?)
        c.inFlight := by
      rw [List.filterMap_append, ← List.append_assoc]
      exact List.perm_append_comm.trans (moved.append_right _)
    exact accounted.of_count rfl rfl permuted.subset (permuted.count_eq _)
  next ended =>
    have fewer : List.Sublist
        ((c.timers.eraseIdx index).map Timer.generation ++
          c.commands.filterMap Command.reconnect?) c.inFlight :=
      ((List.eraseIdx_sublist _ _).map _).append_right _
    have unawaited : c.inFlight.count c.connection.generation = 0 := by
      have awaited := accounted.awaited
      have idle := accounted.idle
      cases phase : c.phase <;> simp_all [isLive]
    refine accounted.of_count rfl rfl fewer.subset ?_
    rw [unawaited]
    exact Nat.le_zero.mp (unawaited ▸ fewer.count_le c.connection.generation)

variable [Transport τ] {c : Client τ}

theorem Bounded.start (bounded : c.Bounded) (going : c.phase ≠ .stopped) :
    c.start.Accounted := by
  have started := c.start_started
  generalize c.start = after at started ⊢
  -- The generation moves past everything that is in flight.
  cases started with
  | returned transport reports opening =>
    refine ⟨fun generation member => Nat.le_succ_of_le (bounded generation member), ?_, ?_⟩
    · exact (bounded.fresh c.inFlight (List.Subset.refl _)).trans (by simp)
    · exact fun stopped => absurd stopped going
  | panicked transport opening =>
    have known : c.timers.map Timer.generation ++ [] ⊆ c.inFlight := by
      simp [inFlight]
    refine ⟨fun generation member => Nat.le_succ_of_le (bounded generation (known member)), ?_, ?_⟩
    · exact (bounded.fresh _ known).trans (by simp)
    · exact fun stopped => by cases stopped

theorem Bounded.disconnect (bounded : c.Bounded) : c.disconnect.Accounted := by
  rw [disconnect_eq]
  refine ⟨fun generation member => Nat.le_succ_of_le (bounded generation member), ?_, fun _ => rfl⟩
  exact (bounded.fresh c.inFlight (List.Subset.refl _)).trans (by simp)

theorem Accounted.handle (accounted : c.Accounted) (running : c.phase = .running) (signal : Signal) :
    (c.handle signal).Accounted := by
  have awaited := accounted.awaited
  have handled := c.handle_handled signal
  generalize c.handle signal = after at handled ⊢
  cases handled with
  | superseded signal other =>
    exact accounted.of_count rfl rfl (List.Subset.refl _) rfl
  | ignored report deaf => exact accounted
  | opened notice quiet connecting =>
    apply (calledBack_deliver _ _).beside.accounted
    refine ⟨accounted.bounded, ?_, ?_⟩
    · exact awaited.trans (by simp [connecting])
    · simp [running]
  | message text envelope parsed isOpen =>
    apply (calledBack_deliver _ _).beside.accounted
    exact ⟨accounted.bounded, awaited, accounted.idle⟩
  | malformed text cause refused isOpen => exact ⟨accounted.bounded, awaited, accounted.idle⟩
  | failed error live =>
    have unawaited := accounted.unawaited (Connection.ne_reconnecting_of_isLive live)
    refine ⟨?_, ?_, fun stopped => by cases running.symm.trans stopped⟩
    · intro generation member
      simp only [inFlight, List.map_append, List.mem_append] at member
      rcases member with (sleeping | fresh) | queued
      · exact accounted.bounded generation (List.mem_append_left _ sleeping)
      · simp at fresh
        exact Nat.le_of_eq fresh
      · exact accounted.bounded generation (List.mem_append_right _ queued)
    · simp [inFlight] at unawaited
      simp [inFlight, running, unawaited]
  | closed live =>
    have unawaited := accounted.unawaited (Connection.ne_reconnecting_of_isLive live)
    refine ⟨accounted.bounded, unawaited.trans (by simp), fun _ => rfl⟩

theorem Accounted.reconnect {rest : List Command} {generation : Nat} (accounted : c.Accounted)
    (running : c.phase = .running) (queued : c.commands = .reconnect generation :: rest) :
    ({ c with commands := rest }.reconnect generation).Accounted := by
  have taken := inFlight_perm queued
  have fewer := inFlight_subset queued
  unfold Client.reconnect
  split
  next counts =>
    apply Bounded.start
    · exact fun other member => accounted.bounded other (fewer member)
    · simp [note, record, running]
  next stale =>
    refine accounted.of_count rfl rfl fewer ?_
    have counted := taken.count_eq c.connection.generation
    have other : generation ≠ c.connection.generation := by
      rintro rfl
      have settled : c.connection.state ≠ .reconnecting := by
        simpa [Connection.awaits] using stale
      rw [accounted.unawaited settled] at counted
      simp [Command.reconnect?] at counted
    rw [counted]
    simp [Command.reconnect?, inFlight, note, record, other]

theorem Accounted.obey {rest : List Command} {command : Command} (accounted : c.Accounted)
    (running : c.phase = .running) (queued : c.commands = command :: rest) :
    ({ c with commands := rest }.obey command).Accounted := by
  have fewer := inFlight_subset queued
  have bounded : Bounded { c with commands := rest } :=
    fun other member => accounted.bounded other (fewer member)
  cases command with
  | start => exact bounded.start (by simp [running])
  | reconnect generation => exact accounted.reconnect running queued
  | close => exact bounded.disconnect
  | shutdown =>
    have closed := bounded.disconnect
    have disconnected := { c with commands := rest }.disconnect_eq
    simp only [Client.obey]
    generalize { c with commands := rest }.disconnect = after at closed disconnected ⊢
    have idle : after.connection.state = .idle := by rw [disconnected]
    have fewer : after.timers.map Timer.generation ++ [] ⊆ after.inFlight := by simp [inFlight]
    refine ⟨fun other member => closed.bounded other (fewer member), ?_, fun _ => idle⟩
    have unawaited := closed.unawaited (by simp [idle])
    rw [List.count_eq_zero] at unawaited
    exact (List.count_eq_zero.mpr fun member => unawaited (fewer member)).trans
      (by simp [halt, note, record, idle])

theorem Accounted.move (accounted : c.Accounted) (move : Move τ) : (c.move move).Accounted := by
  have moved := c.move_moved move
  generalize c.move move = after at moved ⊢
  cases moved with
  | beside _ beside => exact beside.accounted accounted
  | begun pending => exact Bounded.start (fun _ => accounted.bounded _) (by simp)
  | obeyed command rest running queued => exact accounted.obey running queued
  | handled signal rest running queued =>
    have taken : Accounted { c with inbox := { c.inbox with signals := rest } } :=
      accounted.of_count rfl rfl (List.Subset.refl _) rfl
    exact taken.handle running signal
  | fired index timer armed due => exact accounted.fired index timer armed

theorem Accounted.run (accounted : c.Accounted) (moves : List (Move τ)) :
    (c.run moves).Accounted :=
  run_induction (fun _ move holds => holds.move move) c moves accounted

omit [Transport τ] in
theorem accounted_spawn (nesting : Nat) (options : Options) (page : Page) (transport : τ)
    (subscribers : List Subscriber) : (spawn nesting options page transport subscribers).Accounted :=
  ⟨by simp [Bounded, inFlight, spawn], by simp [inFlight, spawn, Connection.initial],
    by simp [spawn]⟩

theorem obey_reconnect_of_lt (c : Client τ) (generation : Nat)
    (outdated : generation < c.connection.generation) :
    c.obey (.reconnect generation) =
      c.note (.staleReconnect generation c.connection.generation) := by
  have stale : c.connection.awaits generation = false := by
    simp [Connection.awaits, Nat.ne_of_lt outdated]
  simp [obey, reconnect, stale]

theorem one_reconnect_in_flight (nesting : Nat) (options : Options) (page : Page) (transport : τ)
    (subscribers : List Subscriber) (moves : List (Move τ)) :
    let c := (spawn nesting options page transport subscribers).run moves
    (c.connection.state = .reconnecting → c.phase ≠ .crashed →
      c.inFlight.count c.connection.generation = 1) ∧
    (c.connection.state ≠ .reconnecting →
      ∀ generation ∈ c.inFlight, generation < c.connection.generation) ∧
    (∀ generation ∈ c.inFlight, generation = c.connection.generation ∨
      ∀ more : List (Move τ), (c.run more).obey (.reconnect generation) =
        (c.run more).note (.staleReconnect generation (c.run more).connection.generation)) := by
  intro c
  have accounted : c.Accounted :=
    (accounted_spawn nesting options page transport subscribers).run moves
  refine ⟨?_, ?_, ?_⟩
  · intro waiting going
    rw [accounted.awaited, if_pos ⟨waiting, going⟩]
  · intro settled generation member
    have unawaited := List.count_eq_zero.mp (accounted.unawaited settled)
    have bound := accounted.bounded generation member
    have different : generation ≠ c.connection.generation := fun same => unawaited (same ▸ member)
    omega
  · intro generation member
    rcases Nat.eq_or_lt_of_le (accounted.bounded generation member) with same | outdated
    · exact .inl same
    · refine .inr fun more => obey_reconnect_of_lt _ generation ?_
      exact Nat.lt_of_lt_of_le outdated (c.run_keeps more).2

theorem one_reconnect_in_flight_beside_outdated :
    let c := (spawn 4 .default (.localhost 3000) ({} : Stage) []).run
      [.begin, .report 1 (.failed .connectionClosed), .signal, .restart, .command,
        .report 2 (.failed .connectionClosed), .signal]
    c.inFlight = [1, 2] ∧ c.inFlight.count c.connection.generation = 1 := by
  intro c
  have waiting : c.connection.state = .reconnecting := by decide
  have going : c.phase ≠ .crashed := by decide
  exact ⟨by decide, (one_reconnect_in_flight _ _ _ _ _ _).1 waiting going⟩

end Client

end HotReload
