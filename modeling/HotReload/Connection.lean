import HotReload.Envelope
import HotReload.Options
import HotReload.Signal

set_option autoImplicit false

namespace HotReload

inductive ConnectionState where
  | idle
  | connecting
  | open
  | reconnecting
  deriving DecidableEq

def ConnectionState.text : ConnectionState → String
  | .idle => "Idle"
  | .connecting => "Connecting"
  | .open => "Open"
  | .reconnecting => "Reconnecting"

structure Config where
  url : String
  delay : Duration
  announces : Bool
  -- How deep callbacks may dispatch from inside one another.
  nesting : Nat

-- The delay in milliseconds, as far as 64 bits hold it.
def Config.retryMilliseconds (config : Config) : Nat := config.delay.milliseconds % UInt64.size

structure Connection where
  state : ConnectionState
  -- The generation of the socket that is in use, if one is.
  current : Option Nat
  -- Raised by every start and every close.
  generation : Nat
  -- How often the connection opened or a frame came; zero means never.
  activity : Nat
  deriving DecidableEq

inductive Action where
  | note (notice : Notice)
  | close (generation : Nat)
  | arm (generation : Nat)

namespace Connection

def initial : Connection := ⟨.idle, none, 0, 0⟩

def release (c : Connection) : Connection × List Action :=
  match c.current with
  | some generation =>
    ({ c with current := none }, [.note (.closing generation), .close generation])
  | none => (c, [])

def advance (c : Connection) : Connection := { c with generation := c.generation + 1 }

def install (c : Connection) : Connection :=
  { c with current := some c.generation, state := .connecting }

def touch (c : Connection) : Connection := { c with activity := c.activity + 1 }

def prepare (c : Connection) : Connection × List Action :=
  let (c, actions) := c.release
  (c.advance, actions)

def close (c : Connection) : Connection × List Action :=
  let (c, actions) := c.release
  ({ c.advance with state := .idle }, actions)

-- Does a timer that this generation armed still count?
def awaits (c : Connection) (generation : Nat) : Bool :=
  generation = c.generation ∧ c.state = .reconnecting

def isLive (c : Connection) : Bool := c.state = .connecting ∨ c.state = .open

structure Outcome where
  connection : Connection
  actions : List Action := []
  delivery : Option Envelope := none

def onOpened (config : Config) (c : Connection) : Outcome :=
  if c.state = .connecting then
    { connection := { c.touch with state := .open }
      actions := [.note (if config.announces then .connected config.url
        else .connectionOpen c.generation)]
      delivery := some .connected }
  else ⟨c, [], none⟩

def onMessage (c : Connection) (text : String) : Outcome :=
  if c.state = .open then
    match Envelope.ofFrame text with
    | .ok envelope => ⟨c.touch, [], some envelope⟩
    | .error cause => ⟨c.touch, [.note (.frameRejected (.json cause))], none⟩
  else ⟨c, [], none⟩

def onFailed (config : Config) (c : Connection) (error : Error) : Outcome :=
  if c.isLive then
    let (released, actions) := c.release
    ⟨{ released with state := .reconnecting },
      .note (.connectionFailed c.generation error config.retryMilliseconds)
        :: actions ++ [.arm c.generation], none⟩
  else ⟨c, [], none⟩

def onClosed (c : Connection) : Outcome :=
  if c.isLive then
    ⟨{ c with current := none, state := .idle }, [.note (.closedByServer c.generation)], none⟩
  else ⟨c, [], none⟩

def receive (config : Config) (c : Connection) (signal : Signal) : Outcome :=
  if signal.generation = c.generation then
    match signal.report with
    | .opened => c.onOpened config
    | .message text => c.onMessage text
    | .failed error => c.onFailed config error
    | .closed => c.onClosed
  else ⟨c, [.note (.superseded signal.generation c.generation)], none⟩

end Connection

end HotReload
