import HotReload.Bus
import HotReload.Endpoint
import HotReload.Text.Quoted
import HotReload.Transport

set_option autoImplicit false

namespace HotReload

inductive Command where
  | start
  | reconnect (generation : Nat)
  | close
  | shutdown

structure Timer where
  -- In nanoseconds.
  due : Nat
  -- The connection whose failure armed it.
  generation : Nat

def Timer.next? (deadline : Nat) : List Timer → Option (Timer × List Timer)
  | [] => none
  | timer :: rest =>
    match next? deadline rest with
    | some (earliest, others) =>
      if timer.due ≤ earliest.due then some (timer, rest) else some (earliest, timer :: others)
    | none => if timer.due ≤ deadline then some (timer, rest) else none

inductive Phase where
  -- The event loop has not run yet.
  | pending
  | running
  | stopped
  -- A panic that was not a callback's ended the event loop.
  | crashed
  deriving DecidableEq

structure Client (τ : Type) where
  config : Config
  transport : τ
  connection : Connection := .initial
  subscribers : List Subscriber := []
  phase : Phase := .pending
  commands : List Command := []
  inbox : Inbox := .empty
  timers : List Timer := []
  -- In nanoseconds.
  now : Nat := 0
  events : List Event := []

namespace Client

section loop

variable {τ : Type} [Transport τ]

def record (c : Client τ) (event : Event) : Client τ := { c with events := c.events ++ [event] }

def note (c : Client τ) (notice : Notice) : Client τ := c.record (.noted notice)

def isLive (c : Client τ) : Bool := c.phase = .pending ∨ c.phase = .running

def order (c : Client τ) (command : Command) : Client τ :=
  if c.isLive then { c with commands := c.commands ++ [command] } else c

def restart (c : Client τ) : Client τ := c.order .start

def close (c : Client τ) : Client τ := c.order .close

def register (c : Client τ) (subscriber : Subscriber) : Client τ :=
  { c with subscribers := c.subscribers ++ [subscriber] }

-- A second look, once the handle has been read: does the socket found there take frames?
def aim (c : Client τ) : Option Nat → Option Nat
  | some generation =>
    if Transport.ready c.transport generation = .open then some generation else none
  | none => none

def target? (c : Client τ) : Option Nat := c.aim c.connection.current

def isOpen (c : Client τ) : Bool := c.target?.isSome

def give (c : Client τ) (data : String) : Option Nat → Client τ
  | some generation =>
    { c with transport := Transport.sendText c.transport generation data }.record
      (.sent generation data)
  | none => c.note .frameDropped

-- Nobody comes between the looks and the frame here; no lock is held that would keep others away.
def send (c : Client τ) (data : String) : Client τ := c.give data c.target?

def request (c : Client τ) : Request → Client τ
  | .send data => c.send data
  | .restart => c.restart
  | .close => c.close

instance : Host (Client τ) where
  subscribers := subscribers
  register := register
  record := record
  request := request
  events := events
  state? c := some c.connection.state

def emit (c : Client τ) (generation : Nat) (report : Report) : Client τ :=
  let (inbox, notices) := c.inbox.emit ⟨generation, report⟩
  notices.foldl note { c with inbox }

def emitAll (c : Client τ) (generation : Nat) (reports : List Report) : Client τ :=
  reports.foldl (fun c report => c.emit generation report) c

def act (c : Client τ) : Action → Client τ
  | .note notice => c.note notice
  | .close generation =>
    { c with transport := Transport.closeSocket c.transport generation }.record
      (.closed generation)
  | .arm generation =>
    { c with timers := c.timers ++ [⟨c.now + c.config.delay.nanoseconds, generation⟩] }

def change (c : Client τ) (connection : Connection) (actions : List Action) : Client τ :=
  actions.foldl act { c with connection }

-- The event loop ends; what waits for it is lost, and so is what comes later.
def halt (c : Client τ) (phase : Phase) : Client τ :=
  { c with phase, commands := [], inbox := c.inbox.leave }

def start (c : Client τ) : Client τ :=
  let (connection, actions) := c.connection.prepare
  let c := c.change connection actions
  let generation := connection.generation
  let c := (c.note (.opening generation c.config.url)).record (.opened generation c.config.url)
  match Transport.openSocket c.transport generation c.config.url with
  | .opened transport reports =>
    { c with transport, connection := c.connection.install }.emitAll generation reports
  | .panicked transport => { c with transport }.halt .crashed

def reconnect (c : Client τ) (generation : Nat) : Client τ :=
  if c.connection.awaits generation then (c.note (.reconnecting generation)).start
  else c.note (.staleReconnect generation c.connection.generation)

def disconnect (c : Client τ) : Client τ :=
  let (connection, actions) := c.connection.close
  c.change connection actions

def obey (c : Client τ) : Command → Client τ
  | .start => c.start
  | .reconnect generation => c.reconnect generation
  | .close => c.disconnect
  | .shutdown => (c.disconnect.note .loopEnded).halt .stopped

-- A callback that panics costs the rest of the fan-out and nothing else.
def deliver (c : Client τ) (envelope : Envelope) : Client τ :=
  match dispatch (c.config.nesting + 1) envelope c with
  | (c, .panicked payload) => c.note (.subscriberPanicked payload.message)
  | (c, _) => c

def handle (c : Client τ) (signal : Signal) : Client τ :=
  let outcome := c.connection.receive c.config signal
  let c := c.change outcome.connection outcome.actions
  match outcome.delivery with
  | some envelope => c.deliver envelope
  | none => c

def takeCommand? (c : Client τ) : Option (Client τ) :=
  match c.commands with
  | command :: rest => some ({ c with commands := rest }.obey command)
  | [] => none

def takeSignal? (c : Client τ) : Option (Client τ) :=
  match c.inbox.signals with
  | signal :: rest =>
    some ({ c with inbox := { c.inbox with signals := rest } }.handle signal)
  | [] => none

def turn? (c : Client τ) : Option (Client τ) :=
  match c.phase with
  | .pending => some { c with phase := .running }.start
  | .running =>
    match c.takeCommand? with
    | some c => some c
    | none => c.takeSignal?
  | .stopped => none
  | .crashed => none

def settle : Nat → Client τ → Client τ
  | 0, c => c
  | bound + 1, c =>
    match c.turn? with
    | some c => settle bound c
    | none => c

def fireUntil (deadline turns : Nat) : Nat → Client τ → Client τ
  | 0, c => c
  | bound + 1, c =>
    match Timer.next? deadline c.timers with
    | some (timer, timers) =>
      fireUntil deadline turns bound
        (settle turns ({ c with now := max c.now timer.due, timers }.order
          (.reconnect timer.generation)))
    | none => c

-- Lets time pass: timers fire in the order in which they come due.
def sleep (turns : Nat) (duration : Duration) (c : Client τ) : Client τ :=
  let c := settle turns c
  let deadline := c.now + duration.nanoseconds
  { fireUntil deadline turns turns c with now := deadline }

def abandon (c : Client τ) : Client τ := c.order .shutdown

def shutdown (turns : Nat) (c : Client τ) : Client τ :=
  let c := settle turns c.abandon
  if c.phase = .crashed then c.note .loopPanicked else c

end loop

def spawn {τ : Type} (nesting : Nat) (options : Options) (page : Page) (transport : τ)
    (subscribers : List Subscriber) : Client τ :=
  { config := ⟨Endpoint.url options page, options.reconnectDelay, options.log, nesting⟩
    transport
    subscribers }

def generationText : Option Nat → String
  | some generation => "Some(" ++ Decimal.ofNat generation ++ ")"
  | none => "None"

def connectionText (c : Connection) : String :=
  "ConnectionHandle \x7b state: " ++ c.state.text ++ ", generation: "
    ++ generationText c.current ++ " \x7d"

def senderText (c : Connection) : String :=
  "MessageSender \x7b connection: " ++ connectionText c ++ " \x7d"

def describe {τ : Type} (c : Client τ) : String :=
  "Client \x7b url: " ++ Text.quoted c.config.url ++ ", connection: "
    ++ connectionText c.connection ++ ", bus: " ++ Bus.describe c.subscribers ++ " \x7d"

end Client

end HotReload
