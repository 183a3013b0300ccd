import HotReload.Proofs.Silent

set_option autoImplicit false

namespace HotReload

-- What the event loop does between two points at which others can look at the handle, the sockets
-- or the queues.
inductive Step where
  | act (action : Action)
  -- Takes the socket out of the handle, to close it.
  | release
  -- Only takes it out.
  | drop
  | raise
  | set (state : ConnectionState)
  | touch
  | connect
  | install
  | dispatch (envelope : Envelope)
  | finish

def Step.envelope? : Step → Option Envelope
  | .dispatch envelope => some envelope
  | _ => none

-- Only a send may note that its frame was dropped.
def Step.isAnswer : Step → Bool
  | .act (.note .frameDropped) => true
  | _ => false

namespace Client

variable {τ : Type}

section turns

def starting (c : Client τ) : List Step :=
  [.release, .raise, .act (.note (.opening (c.connection.generation + 1) c.config.url)), .connect]

def obeying (c : Client τ) : Command → List Step
  | .start => c.starting
  | .reconnect generation =>
    if c.connection.awaits generation then .act (.note (.reconnecting generation)) :: c.starting
    else [.act (.note (.staleReconnect generation c.connection.generation))]
  | .close => [.release, .raise, .set .idle]
  | .shutdown => [.release, .raise, .set .idle, .act (.note .loopEnded), .finish]

def handling (c : Client τ) (signal : Signal) : List Step :=
  let generation := c.connection.generation
  if signal.generation = generation then
    match signal.report with
    | .opened =>
      if c.connection.state = .connecting then
        [.set .open, .touch,
          .act (.note (if c.config.announces then .connected c.config.url
            else .connectionOpen generation)),
          .dispatch .connected]
      else []
    | .message text =>
      if c.connection.state = .open then
        match Envelope.ofFrame text with
        | .ok envelope => [.touch, .dispatch envelope]
        | .error cause => [.touch, .act (.note (.frameRejected (.json cause)))]
      else []
    | .failed error =>
      if c.connection.isLive then
        [.act (.note (.connectionFailed generation error c.config.retryMilliseconds)),
          .release, .set .reconnecting, .act (.arm generation)]
      else []
    | .closed =>
      if c.connection.isLive then
        [.act (.note (.closedByServer generation)), .drop, .set .idle]
      else []
  else [.act (.note (.superseded signal.generation generation))]

-- The steps of the turn that the event loop can take, with the client as it is when it begins.
def embark (c : Client τ) : Move τ → Client τ × List Step
  | .begin => if c.phase = .pending then ({ c with phase := .running }, c.starting) else (c, [])
  | .command =>
    match c.obeyed? .command with
    | some command => ({ c with commands := c.commands.tail }, c.obeying command)
    | none => (c, [])
  | .signal =>
    match c.heeded? .signal with
    | some signal =>
      ({ c with inbox := { c.inbox with signals := c.inbox.signals.tail } }, c.handling signal)
    | none => (c, [])
  | _ => (c, [])

end turns

theorem unasked_starting (c : Client τ) : ∀ step ∈ c.starting, step.isAnswer = false := by
  simp [starting, Step.isAnswer]

theorem unasked_obeying (c : Client τ) (command : Command) :
    ∀ step ∈ c.obeying command, step.isAnswer = false := by
  have started := c.unasked_starting
  cases command with
  | start => exact started
  | reconnect generation =>
    simp only [obeying]
    split
    · simpa [Step.isAnswer] using started
    · simp [Step.isAnswer]
  | close => simp [obeying, Step.isAnswer]
  | shutdown => simp [obeying, Step.isAnswer]

theorem unasked_handling (c : Client τ) (signal : Signal) :
    ∀ step ∈ c.handling signal, step.isAnswer = false := by
  obtain ⟨generation, report⟩ := signal
  by_cases same : generation = c.connection.generation
  next =>
    simp only [handling, same, if_true]
    cases report with
    | opened =>
      simp only
      split
      · cases c.config.announces <;> simp [Step.isAnswer]
      · simp
    | message text =>
      simp only
      split
      · cases Envelope.ofFrame text <;> simp [Step.isAnswer]
      · simp
    | failed error =>
      simp only
      split <;> simp [Step.isAnswer]
    | closed =>
      simp only
      split <;> simp [Step.isAnswer]
  next => simp [handling, same, Step.isAnswer]

theorem unasked_embark (c : Client τ) (move : Move τ) :
    ∀ step ∈ (c.embark move).2, step.isAnswer = false := by
  cases move with
  | begin =>
    simp only [embark]
    split
    · exact c.unasked_starting
    · simp
  | command =>
    simp only [embark]
    split
    next command obeyed => exact c.unasked_obeying command
    next => simp
  | signal =>
    simp only [embark]
    split
    next signal heeded => exact c.unasked_handling signal
    next => simp
  | _ => simp [embark]

theorem embark_events (c : Client τ) (move : Move τ) : (c.embark move).1.events = c.events := by
  cases move with
  | begin | command | signal =>
    simp only [embark]
    split <;> rfl
  | _ => rfl

variable [Transport τ]

def connect (c : Client τ) : Client τ × List Step :=
  let generation := c.connection.generation
  let opened := c.record (.opened generation c.config.url)
  match Transport.openSocket c.transport generation c.config.url with
  | .opened transport reports => ({ opened with transport }.emitAll generation reports, [.install])
  | .panicked transport => ({ opened with transport }.halt .crashed, [])

inductive Connected (c : Client τ) : Client τ × List Step → Prop where
  | returned (transport : τ) (reports : List Report)
    (opening : Transport.openSocket c.transport c.connection.generation c.config.url =
      .opened transport reports) :
    Connected c
      ({ c with
        transport
        inbox := c.inbox.emitAll c.connection.generation reports
        events := c.events ++ [.opened c.connection.generation c.config.url] ++
          c.inbox.losses c.connection.generation reports }, [.install])
  | panicked (transport : τ)
    (opening : Transport.openSocket c.transport c.connection.generation c.config.url =
      .panicked transport) :
    Connected c
      (({ c with transport }.record (.opened c.connection.generation c.config.url)).halt .crashed,
        [])

theorem connect_connected (c : Client τ) : c.Connected c.connect := by
  simp only [connect]
  split
  next transport reports opening =>
    rw [emitAll_eq]
    exact .returned transport reports opening
  next transport opening => exact .panicked transport opening

-- One step, and what has to come before the next one.
def step (c : Client τ) : Step → Client τ × List Step
  | .act action => (c.act action, [])
  | .release =>
    let (connection, actions) := c.connection.release
    ({ c with connection }, actions.map .act)
  | .drop => ({ c with connection := { c.connection with current := none } }, [])
  | .raise => ({ c with connection := c.connection.advance }, [])
  | .set state => ({ c with connection := { c.connection with state } }, [])
  | .touch => ({ c with connection := c.connection.touch }, [])
  | .connect => c.connect
  | .install => ({ c with connection := c.connection.install }, [])
  | .dispatch _ => (c, [])
  | .finish => (c.halt .stopped, [])

theorem silent_step (c : Client τ) {first : Step} (unasked : first.isAnswer = false) :
    c.Silent (c.step first).1 := by
  cases first with
  | act action => exact c.silent_act fun same => by simp [same, Step.isAnswer] at unasked
  | connect =>
    have next := c.connect_connected
    simp only [step]
    generalize c.connect = after at next ⊢
    cases next with
    | returned transport reports opening =>
      exact ⟨[.opened c.connection.generation c.config.url] ++
        c.inbox.losses c.connection.generation reports, List.append_assoc _ _ _,
        by simp [Event.isAnswer]⟩
    | panicked transport opening =>
      exact ⟨[.opened c.connection.generation c.config.url], rfl, rfl⟩
  | _ => exact .of_same rfl

theorem unasked_step (c : Client τ) (first : Step) :
    ∀ step ∈ (c.step first).2, step.isAnswer = false := by
  cases first with
  | release =>
    simp only [step, Connection.release]
    cases c.connection.current <;> simp [Step.isAnswer]
  | connect =>
    have next := c.connect_connected
    simp only [step]
    generalize c.connect = after at next ⊢
    cases next <;> simp [Step.isAnswer]
  | _ => simp [step]

section whole

-- Steps that nobody interrupts, up to a fan-out.
inductive Leads : Client τ → List Step → Client τ → List Step → Prop where
  | rest (c : Client τ) (steps : List Step) : Leads c steps c steps
  | step {c after : Client τ} {first : Step} {rest others : List Step}
    (plain : first.envelope? = none)
    (later : Leads (c.step first).1 ((c.step first).2 ++ rest) after others) :
    Leads c (first :: rest) after others

theorem Leads.trans {c middle after : Client τ} {steps between others : List Step}
    (first : Leads c steps middle between) (second : Leads middle between after others) :
    Leads c steps after others := by
  induction first with
  | rest => exact second
  | step plain later ih => exact .step plain (ih second)

theorem leads_acts (c : Client τ) (actions : List Action) (rest : List Step) :
    Leads c (actions.map .act ++ rest) (actions.foldl Client.act c) rest := by
  induction actions generalizing c with
  | nil => exact .rest c rest
  | cons action others ih => exact .step rfl (ih (c.act action))

theorem leads_release (c : Client τ) (rest : List Step) :
    Leads c (.release :: rest)
      { c with
        connection := { c.connection with current := none }
        transport := c.dismissed
        events := c.events ++ c.connection.farewell } rest := by
  rw [← Connection.release_fst, ← change_release]
  exact .step rfl (leads_acts _ _ _)

theorem leads_starting (c : Client τ) : Leads c c.starting c.start [] := by
  refine (leads_release c _).trans (.step rfl (.step rfl (.step rfl ?_)))
  have started := c.start_started
  generalize c.start = after at started ⊢
  simp only [step, connect]
  cases started with
  | returned transport reports opening =>
    simp only [Connection.advance, Client.act, note, record, opening, emitAll_eq]
    refine .step rfl ?_
    simp only [step, Connection.install, List.append_assoc, List.cons_append, List.nil_append]
    exact .rest _ _
  | panicked transport opening =>
    simp only [Connection.advance, Client.act, note, record, opening, halt, List.append_assoc,
      List.cons_append, List.nil_append]
    exact .rest _ _

theorem leads_obeying (c : Client τ) (command : Command) :
    Leads c (c.obeying command) (c.obey command) [] := by
  cases command with
  | start => exact c.leads_starting
  | reconnect generation =>
    simp only [obeying, obey, reconnect]
    split
    · exact .step rfl (leads_starting (c.note (.reconnecting generation)))
    · exact .step rfl (.rest _ _)
  | close =>
    simp only [obey, disconnect_eq]
    exact (leads_release c _).trans (.step rfl (.step rfl (.rest _ _)))
  | shutdown =>
    simp only [obey, disconnect_eq]
    exact (leads_release c _).trans (.step rfl (.step rfl (.step rfl (.step rfl (.rest _ _)))))

theorem leads_handling (c : Client τ) (signal : Signal) :
    Leads c (c.handling signal) (c.received signal)
      ((c.connection.receive c.config signal).delivery.toList.map .dispatch) := by
  obtain ⟨generation, report⟩ := signal
  by_cases same : generation = c.connection.generation
  next =>
    subst same
    simp only [handling, received, Connection.receive, if_true]
    cases report with
    | opened =>
      simp only [Connection.onOpened]
      split
      · exact .step rfl (.step rfl (.step rfl (.rest _ _)))
      · exact .rest _ _
    | message text =>
      simp only [Connection.onMessage]
      split
      · cases Envelope.ofFrame text with
        | ok envelope => exact .step rfl (.rest _ _)
        | error cause => exact .step rfl (.step rfl (.rest _ _))
      · exact .rest _ _
    | failed error =>
      simp only [Connection.onFailed]
      split
      next live =>
        -- With and without a socket to close, as the state alone does not tell.
        have failed : c.change { c.connection.release.1 with state := .reconnecting }
            (.note (.connectionFailed c.connection.generation error c.config.retryMilliseconds)
              :: c.connection.release.2 ++ [.arm c.connection.generation]) =
            { c with
              connection := { c.connection with current := none, state := .reconnecting }
              transport := c.dismissed
              timers := c.timers ++
                [⟨c.now + c.config.delay.nanoseconds, c.connection.generation⟩]
              events := c.events ++
                [.noted (.connectionFailed c.connection.generation error
                  c.config.retryMilliseconds)] ++ c.connection.farewell } := by
          cases current : c.connection.current <;>
            simp [Connection.release, current, change, Client.act, note, record, dismissed,
              Connection.farewell]
        rw [failed]
        exact .step rfl ((leads_release _ _).trans (.step rfl (.step rfl (.rest _ _))))
      next => exact .rest _ _
    | closed =>
      simp only [Connection.onClosed]
      split
      · exact .step rfl (.step rfl (.step rfl (.rest _ _)))
      · exact .rest _ _
  next =>
    simp only [handling, received, Connection.receive, same, if_false]
    exact .step rfl (.rest _ _)

end whole

end Client

end HotReload
