import HotReload.Proofs.Trace

set_option autoImplicit false

namespace HotReload

def Connection.Coherent (c : Connection) : Prop :=
  c.current = if c.isLive then some c.generation else none

section coherent

variable {c : Connection} (coherent : c.Coherent)

include coherent

theorem Connection.Coherent.of_live (live : c.isLive = true) : c.current = some c.generation := by
  rwa [Connection.Coherent, live, if_pos rfl] at coherent

theorem Connection.Coherent.of_current {generation : Nat} (inUse : c.current = some generation) :
    c.isLive = true ∧ generation = c.generation := by
  rw [Connection.Coherent] at coherent
  split at coherent
  next live => exact ⟨live, Option.some.inj (inUse.symm.trans coherent)⟩
  next => cases inUse.symm.trans coherent

end coherent

namespace Client

variable {τ : Type}

def Recorded (c : Client τ) : Prop :=
  ∃ live last, Disciplined c.config.url c.events live last

structure Regular (c : Client τ) : Prop where
  trace : ∃ last, Disciplined c.config.url c.events c.connection.current last ∧
    last ≤ c.connection.generation
  current : c.connection.Coherent

theorem Regular.recorded {c : Client τ} (regular : c.Regular) : c.Recorded := by
  obtain ⟨last, disciplined, _⟩ := regular.trace
  exact ⟨_, last, disciplined⟩

theorem Regular.record {c : Client τ} (regular : c.Regular) (event : Event)
    (quiet : event.isQuiet = true) : (c.record event).Regular := by
  obtain ⟨last, disciplined, bound⟩ := regular.trace
  exact ⟨⟨last, disciplined.step (.quiet quiet), bound⟩, regular.current⟩

theorem farewell_trace {url : String} {events : List Event} {connection : Connection} {last : Nat}
    (disciplined : Disciplined url events connection.current last) :
    Disciplined url (events ++ connection.farewell) none last := by
  unfold Connection.farewell
  cases current : connection.current with
  | none => simpa [current] using disciplined
  | some generation =>
    rw [current] at disciplined
    have noted := disciplined.step
      (.quiet (rfl : (Event.noted (.closing generation)).isQuiet = true))
    simpa using noted.step .closed

theorem regular_spawn (nesting : Nat) (options : Options) (page : Page) (transport : τ)
    (subscribers : List Subscriber) : (spawn nesting options page transport subscribers).Regular :=
  ⟨⟨0, .empty, Nat.le_refl 0⟩, rfl⟩

theorem Beside.recorded {c after : Client τ} (beside : c.Beside after) (recorded : c.Recorded) :
    after.Recorded := by
  obtain ⟨live, last, disciplined⟩ := recorded
  obtain ⟨news, events, quiet⟩ := beside.events
  refine ⟨live, last, ?_⟩
  rw [beside.config, events]
  exact disciplined.quiet_append news quiet

theorem Beside.regular {c after : Client τ} (beside : c.Beside after) (regular : c.Regular) :
    after.Regular := by
  obtain ⟨last, disciplined, bound⟩ := regular.trace
  obtain ⟨news, events, quiet⟩ := beside.events
  refine ⟨⟨last, ?_, by rwa [beside.connection]⟩, by rw [beside.connection]; exact regular.current⟩
  rw [beside.config, beside.connection, events]
  exact disciplined.quiet_append news quiet

theorem opening_trace {c : Client τ} {last : Nat}
    (disciplined : Disciplined c.config.url c.events c.connection.current last)
    (bound : last ≤ c.connection.generation) :
    Disciplined c.config.url
      (c.events ++ c.connection.farewell ++
        [.noted (.opening (c.connection.generation + 1) c.config.url),
          .opened (c.connection.generation + 1) c.config.url])
      (some (c.connection.generation + 1)) (c.connection.generation + 1) := by
  have released := farewell_trace disciplined
  have noted := released.step (.quiet
    (rfl : (Event.noted (.opening (c.connection.generation + 1) c.config.url)).isQuiet = true))
  simpa using noted.step (.opened (Nat.lt_succ_of_le bound))

variable [Transport τ] {c : Client τ}

theorem Regular.disconnect (regular : c.Regular) : c.disconnect.Regular := by
  obtain ⟨last, disciplined, bound⟩ := regular.trace
  rw [disconnect_eq]
  refine ⟨⟨last, farewell_trace disciplined, ?_⟩, rfl⟩
  exact Nat.le_succ_of_le bound

theorem Regular.start (regular : c.Regular) :
    c.start.Recorded ∧ (c.start.phase ≠ .crashed → c.start.Regular) := by
  obtain ⟨last, disciplined, bound⟩ := regular.trace
  have opened := opening_trace disciplined bound
  have started := c.start_started
  generalize c.start = after at started ⊢
  cases started with
  | returned transport reports opening =>
    suffices regular : Regular _ from ⟨regular.recorded, fun _ => regular⟩
    refine ⟨⟨_, opened.quiet_append _ ?_, Nat.le_refl _⟩, rfl⟩
    exact fun event member => Inbox.isQuiet_of_mem_losses member
  | panicked transport opening => exact ⟨⟨_, _, opened⟩, fun running => absurd rfl running⟩

theorem Regular.reconnect (regular : c.Regular) (generation : Nat) :
    (c.reconnect generation).Recorded ∧
      ((c.reconnect generation).phase ≠ .crashed → (c.reconnect generation).Regular) := by
  unfold Client.reconnect
  split
  · exact (regular.record (.noted (.reconnecting generation)) rfl).start
  · have noted := regular.record (.noted (.staleReconnect generation c.connection.generation)) rfl
    exact ⟨noted.recorded, fun _ => noted⟩

theorem Regular.handle (regular : c.Regular) (signal : Signal) : (c.handle signal).Regular := by
  obtain ⟨last, disciplined, bound⟩ := regular.trace
  have handled := c.handle_handled signal
  generalize c.handle signal = after at handled ⊢
  cases handled with
  | superseded other => exact regular.record _ rfl
  | ignored report deaf => exact regular
  | opened notice quiet connecting =>
    apply (calledBack_deliver _ _).beside.regular
    refine ⟨⟨last, disciplined.step (.quiet quiet), bound⟩, ?_⟩
    have current := regular.current
    simp_all [Connection.Coherent, Connection.isLive, Connection.touch]
  | message text envelope parsed isOpen =>
    apply (calledBack_deliver _ _).beside.regular
    exact ⟨⟨last, disciplined, bound⟩, regular.current⟩
  | malformed text cause refused isOpen =>
    exact ⟨⟨last, disciplined.step (.quiet rfl), bound⟩, regular.current⟩
  | failed error live =>
    have noted := disciplined.step (.quiet (rfl : (Event.noted (.connectionFailed
      c.connection.generation error c.config.retryMilliseconds)).isQuiet = true))
    exact ⟨⟨last, farewell_trace noted, bound⟩, rfl⟩
  | closed live =>
    have inUse : c.connection.current = some c.connection.generation := by
      rw [regular.current, live]
      rfl
    rw [inUse] at disciplined
    exact ⟨⟨last, disciplined.step .departed, bound⟩, rfl⟩

end Client

end HotReload
