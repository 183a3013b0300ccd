import HotReload.Proofs.Regular
import HotReload.Proofs.Step

set_option autoImplicit false

namespace HotReload

-- What the record and the connection have to be like for the rest of a turn, if `live` is the
-- socket that the record says is in use and `last` the last one that was opened.
def Safe : List Step → Connection → Option Nat → Nat → Prop
  | [], c, live, last => c.current = live ∧ last ≤ c.generation ∧ c.Coherent
  | .act (.note notice) :: rest, c, live, last =>
    match (Event.noted notice).departure? with
    | some generation =>
      live = some generation ∧ rest.head? = some .drop ∧ Safe rest c none last
    | none => Safe rest c live last
  | .act (.close generation) :: rest, c, live, last =>
    live = some generation ∧ c.current = none ∧ Safe rest c none last
  | .act (.arm _) :: rest, c, live, last => Safe rest c live last
  | .release :: rest, c, live, last =>
    c.current = live ∧ Safe rest { c with current := none } none last
  | .drop :: rest, c, live, last =>
    (∀ generation, c.current = some generation → last = generation) ∧
      Safe rest { c with current := none } live last
  | .raise :: rest, c, live, last => Safe rest c.advance live last
  | .set state :: rest, c, live, last => Safe rest { c with state } live last
  | .touch :: rest, c, live, last => Safe rest c.touch live last
  | .connect :: rest, c, live, last =>
    rest = [] ∧ live = none ∧ c.current = none ∧ last < c.generation
  | .install :: rest, c, live, last => live = some c.generation ∧ Safe rest c.install live last
  | .dispatch _ :: rest, c, live, last => rest = [] ∧ Safe rest c live last
  | .finish :: rest, c, live, last => Safe rest c live last

namespace Client

variable {τ : Type}

section safe

variable {c : Client τ} {live : Option Nat} {last : Nat} (safe : Safe [] c.connection live last)

include safe

theorem safe_starting : Safe c.starting c.connection live last := by
  obtain ⟨current, bound, coherent⟩ := safe
  exact ⟨current, rfl, rfl, rfl, Nat.lt_succ_of_le bound⟩

theorem safe_obeying (command : Command) : Safe (c.obeying command) c.connection live last := by
  have started := safe_starting safe
  obtain ⟨current, bound, coherent⟩ := safe
  have closed : Safe [.release, .raise, .set .idle] c.connection live last :=
    ⟨current, rfl, Nat.le_succ_of_le bound, rfl⟩
  cases command with
  | start => exact started
  | reconnect generation =>
    simp only [obeying]
    split
    · exact started
    · exact ⟨current, bound, coherent⟩
  | close => exact closed
  | shutdown => exact closed

theorem safe_handling (latest : ∀ generation, live = some generation → last = generation)
    (signal : Signal) : Safe (c.handling signal) c.connection live last := by
  have still := safe
  obtain ⟨current, bound, coherent⟩ := safe
  obtain ⟨generation, report⟩ := signal
  by_cases same : generation = c.connection.generation
  next =>
    cases report with
    | opened =>
      by_cases connecting : c.connection.state = .connecting
      next =>
        have inUse := coherent.of_live (by simp [Connection.isLive, connecting])
        cases announces : c.config.announces <;>
          simp [handling, same, connecting, announces, Safe, Event.departure?, current, bound,
            Connection.touch, Connection.Coherent, Connection.isLive, ← inUse]
      next => simpa [handling, same, connecting] using still
    | message text =>
      by_cases isOpen : c.connection.state = .open
      next =>
        have touched : Safe [] c.connection.touch live last := ⟨current, bound, coherent⟩
        cases parsed : Envelope.ofFrame text with
        | ok envelope => simpa [handling, same, isOpen, parsed, Safe] using touched
        | error cause =>
          simpa [handling, same, isOpen, parsed, Safe, Event.departure?] using touched
      next => simpa [handling, same, isOpen] using still
    | failed error =>
      by_cases live : c.connection.isLive = true
      next =>
        have rested :
            Safe [] { c.connection with current := none, state := .reconnecting } none last :=
          ⟨rfl, bound, rfl⟩
        simpa [handling, same, live, Safe, Event.departure?, current] using rested
      next => simpa [handling, same, live] using still
    | closed =>
      by_cases live : c.connection.isLive = true
      next =>
        have inUse := coherent.of_live live
        have dropped : Safe [.drop, .set .idle] c.connection none last :=
          ⟨fun generation held => latest generation (current.symm.trans held), rfl, bound, rfl⟩
        simpa [handling, same, live, Safe, Event.departure?, ← current, inUse] using dropped
      next => simpa [handling, same, live] using still
  next => simpa [handling, same, Safe, Event.departure?] using still

end safe

-- Between two steps, with `live` and `last` as the record has them.
structure Steady (c : Client τ) (steps : List Step) (live : Option Nat) (last : Nat) : Prop where
  trace : Disciplined c.config.url c.events live last
  safe : c.phase ≠ .crashed → Safe steps c.connection live last
  halted : c.phase = .crashed → c.connection.current = none ∧ steps = []
  -- The client notes that a server has closed the socket right before it lets go of it.
  held : ∀ generation, c.connection.current = some generation →
    live = some generation ∨ generation ∈ departures c.events ∧ steps.head? = some .drop

namespace Steady

variable {c : Client τ} {steps rest : List Step} {live : Option Nat} {last : Nat}

theorem going {first : Step} (steady : c.Steady (first :: rest) live last) :
    c.phase ≠ .crashed := fun crashed => nomatch (steady.halted crashed).2

theorem of_going (going : c.phase ≠ .crashed) (trace : Disciplined c.config.url c.events live last)
    (safe : Safe steps c.connection live last)
    (held : ∀ generation, c.connection.current = some generation →
      live = some generation ∨ generation ∈ departures c.events ∧ steps.head? = some .drop) :
    c.Steady steps live last :=
  ⟨trace, fun _ => safe, fun crashed => absurd crashed going, held⟩

theorem inUse (steady : c.Steady steps live last) (other : steps.head? ≠ some .drop)
    {generation : Nat} (holds : c.connection.current = some generation) :
    live = some generation :=
  (steady.held generation holds).resolve_right fun departed => other departed.2

theorem unmoved {after : Client τ} (steady : c.Steady steps live last) (unmoved : c.Unmoved after) :
    after.Steady steps live last := by
  obtain ⟨news, events, quiet⟩ := unmoved.events
  refine ⟨?_, ?_, ?_, ?_⟩
  · rw [unmoved.config, events]
    exact steady.trace.quiet_append news quiet
  · rw [unmoved.phase, unmoved.connection]
    exact steady.safe
  · rw [unmoved.phase, unmoved.connection]
    exact steady.halted
  · rw [unmoved.connection, events]
    intro generation holds
    rcases steady.held generation holds with same | ⟨departed, dropping⟩
    · exact .inl same
    · exact .inr ⟨by simp [departed], dropping⟩



-- The client has begun a turn, and nothing of it is done.
theorem begun {after : Client τ} (steady : c.Steady [] live last) (config : after.config = c.config)
    (connection : after.connection = c.connection) (events : after.events = c.events)
    (going : after.phase ≠ .crashed) (safe : Safe steps c.connection live last) :
    after.Steady steps live last where
  trace := by
    rw [config, events]
    exact steady.trace
  safe _ := by rwa [connection]
  halted crashed := absurd crashed going
  held generation holds := .inl (steady.inUse (by simp) (connection ▸ holds))

theorem noting (steady : c.Steady [] live last) (going : c.phase ≠ .crashed) {notice : Notice}
    (plain : (Event.noted notice).departure? = none) :
    c.Steady [.act (.note notice)] live last :=
  steady.begun rfl rfl rfl going (by simpa only [Safe, plain] using steady.safe going)

theorem embark (steady : c.Steady [] live last) (move : Move τ) :
    (c.embark move).1.Steady (c.embark move).2 live last := by
  have safe going := steady.safe (going : c.phase ≠ .crashed)
  have latest generation (inUse : live = some generation) := steady.trace.latest_of_live inUse
  cases move with
  | begin =>
    simp only [Client.embark]
    split
    next pending =>
      exact steady.begun rfl rfl rfl (by simp) (safe_starting (safe (by simp [pending])))
    next => exact steady
  | command =>
    simp only [Client.embark]
    split
    next command obeyed =>
      have going : c.phase ≠ .crashed := fun crashed => by simp [obeyed?, crashed] at obeyed
      exact steady.begun rfl rfl rfl going (safe_obeying (safe going) command)
    next => exact steady
  | signal =>
    simp only [Client.embark]
    split
    next signal heeded =>
      have going : c.phase ≠ .crashed := fun crashed => by simp [heeded?, crashed] at heeded
      exact steady.begun rfl rfl rfl going (safe_handling (safe going) latest signal)
    next => exact steady
  | _ => exact steady

end Steady

variable [Transport τ] {c : Client τ}

namespace Steady

variable {rest : List Step} {live : Option Nat} {last : Nat}

omit [Transport τ] in
theorem note {notice : Notice} (steady : c.Steady (.act (.note notice) :: rest) live last) :
    ∃ live, (c.note notice).Steady rest live last := by
  have safe := steady.safe steady.going
  have inUse {generation : Nat} (holds : c.connection.current = some generation) :=
    steady.inUse (by simp) holds
  simp only [Safe] at safe
  split at safe
  next generation departed =>
    obtain ⟨rfl, dropping, safe⟩ := safe
    obtain rfl : notice = .closedByServer generation := by
      cases notice <;> simp_all [Event.departure?]
    refine ⟨none, .of_going steady.going (steady.trace.step .departed) safe
      fun other holds => .inr ⟨?_, dropping⟩⟩
    obtain rfl := Option.some.inj (inUse holds)
    simp [Client.note, record]
  next quiet =>
    have quiet : (Event.noted notice).isQuiet = true := by
      cases notice <;> simp_all [Event.departure?, Event.isQuiet]
    exact ⟨live, .of_going steady.going (steady.trace.step (.quiet quiet)) safe
      fun other holds => .inl (inUse holds)⟩

theorem act {action : Action} (steady : c.Steady (.act action :: rest) live last) :
    ∃ live, (c.act action).Steady rest live last := by
  cases action with
  | note notice => exact steady.note
  | close generation =>
    obtain ⟨rfl, vacant, safe⟩ := steady.safe steady.going
    exact ⟨none, .of_going steady.going (steady.trace.step .closed) safe
      fun other holds => nomatch vacant.symm.trans holds⟩
  | arm generation =>
    exact ⟨live, .of_going steady.going steady.trace (steady.safe steady.going)
      fun other holds => .inl (steady.inUse (by simp) holds)⟩

theorem release (steady : c.Steady (.release :: rest) live last) :
    (c.step .release).1.Steady ((c.step .release).2 ++ rest) live last := by
  obtain ⟨same, safe⟩ := steady.safe steady.going
  have going := steady.going
  cases current : c.connection.current with
  | none =>
    have unchanged : { c.connection with current := none } = c.connection := by rw [← current]
    rw [unchanged, ← current, same] at safe
    have held generation (holds : c.connection.current = some generation) :
        live = some generation ∨ generation ∈ departures c.events ∧ rest.head? = some .drop := by
      rw [current] at holds
      cases holds
    simpa [Client.step, Connection.release, current] using of_going going steady.trace safe held
  | some generation =>
    have leaving : Safe (.act (.note (.closing generation)) :: .act (.close generation) :: rest)
        { c.connection with current := none } live last := ⟨same.symm.trans current, rfl, safe⟩
    have released : Steady { c with connection := { c.connection with current := none } }
        (.act (.note (.closing generation)) :: .act (.close generation) :: rest) live last :=
      .of_going going steady.trace leaving fun other holds => by cases holds
    simpa [Client.step, Connection.release, current] using released

theorem connect (steady : c.Steady (.connect :: rest) live last) :
    ∃ live last, c.connect.1.Steady (c.connect.2 ++ rest) live last := by
  obtain ⟨rfl, rfl, vacant, later⟩ := steady.safe steady.going
  have opened := steady.trace.step (.opened later)
  have next := c.connect_connected
  generalize c.connect = after at next ⊢
  cases next with
  | returned transport reports opening =>
    refine ⟨_, _, opened.quiet_append _ fun _ => Inbox.isQuiet_of_mem_losses, fun _ => ?_,
      fun crashed => absurd crashed steady.going,
      fun generation holds => nomatch vacant.symm.trans holds⟩
    exact ⟨rfl, rfl, Nat.le_refl _, rfl⟩
  | panicked transport opening =>
    exact ⟨_, _, opened, fun running => absurd rfl running, fun _ => ⟨vacant, rfl⟩,
      fun generation holds => nomatch vacant.symm.trans holds⟩

-- Whatever the event loop does next, the rest of its turn has what it needs.
theorem step {first : Step} (steady : c.Steady (first :: rest) live last) :
    ∃ live last, (c.step first).1.Steady ((c.step first).2 ++ rest) live last := by
  have safe := steady.safe steady.going
  have inUse (other : first ≠ .drop) generation (holds : c.connection.current = some generation) :=
    steady.inUse (by simpa using other) holds
  cases first with
  | act action =>
    obtain ⟨live, acted⟩ := steady.act
    exact ⟨live, last, acted⟩
  | release => exact ⟨live, last, steady.release⟩
  | drop => exact ⟨live, last, .of_going steady.going steady.trace safe.2 nofun⟩
  | raise | set state | touch =>
    exact ⟨live, last, .of_going steady.going steady.trace safe
      fun generation holds => .inl (inUse nofun generation holds)⟩
  | connect => exact steady.connect
  | install =>
    exact ⟨live, last, .of_going steady.going steady.trace safe.2
      fun generation holds => .inl (safe.1.trans holds)⟩
  | dispatch envelope =>
    exact ⟨live, last, .of_going steady.going steady.trace safe.2
      fun generation holds => .inl (inUse nofun generation holds)⟩
  | finish =>
    exact ⟨live, last, .of_going nofun steady.trace safe
      fun generation holds => .inl (inUse nofun generation holds)⟩

end Steady

end Client

end HotReload
