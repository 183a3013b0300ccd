import HotReload.Connection

set_option autoImplicit false

namespace HotReload

inductive Request where
  | send (data : String)
  | restart
  | close

inductive Panic where
  | text (message : String)
  | other

def Panic.message : Panic → String
  | .text message => message
  | .other => "<non-string panic>"

inductive Event where
  | noted (notice : Notice)
  | called (name : String) (envelope : Envelope) (state : Option ConnectionState)
  | opened (generation : Nat) (url : String)
  | closed (generation : Nat)
  | sent (generation : Nat) (data : String)

def Event.heard? : Event → Option (String × Envelope)
  | .called name envelope _ => some (name, envelope)
  | _ => none

abbrev heard (events : List Event) : List (String × Envelope) := events.filterMap Event.heard?

-- What a callback can go by: the calls before its own, from which it knows whatever it or another
-- callback has kept of them, and the state of the client.
structure Sight where
  heard : List (String × Envelope)
  state? : Option ConnectionState

inductive Effect where
  | register (name : String) (seesState : Bool) (react : Sight → Envelope → List Effect)
  | dispatch (text : String)
  | request (request : Request)
  | panic (payload : Panic)

structure Subscriber where
  name : String
  -- Whether its calls are recorded with the state of the client.
  seesState : Bool
  react : Sight → Envelope → List Effect

inductive Fanout where
  | finished
  | panicked (payload : Panic)
  -- Calls were nested deeper than the bound allows.
  | exhausted

class Host (σ : Type) where
  subscribers : σ → List Subscriber
  register : σ → Subscriber → σ
  record : σ → Event → σ
  request : σ → Request → σ
  events : σ → List Event
  state? : σ → Option ConnectionState

def Host.sight {σ : Type} [Host σ] (s : σ) : Sight := ⟨heard (events s), state? s⟩

section dispatch

variable {σ : Type} [Host σ]

def perform (nested : Envelope → σ → σ × Fanout) (s : σ) : Effect → σ × Fanout
  | .register name seesState react => (Host.register s ⟨name, seesState, react⟩, .finished)
  | .dispatch text =>
    match Envelope.ofFrame text with
    | .ok envelope => nested envelope s
    | .error _ => (s, .finished)
  | .request request => (Host.request s request, .finished)
  | .panic payload => (s, .panicked payload)

def performAll (nested : Envelope → σ → σ × Fanout) : List Effect → σ → σ × Fanout
  | [], s => (s, .finished)
  | effect :: rest, s =>
    match perform nested s effect with
    | (s, .finished) => performAll nested rest s
    | stopped => stopped

def recordCall (subscriber : Subscriber) (envelope : Envelope) (s : σ) : σ :=
  Host.record s (.called subscriber.name envelope
    (if subscriber.seesState then Host.state? s else none))

def callAll (nested : Envelope → σ → σ × Fanout) (envelope : Envelope) :
    List Subscriber → σ → σ × Fanout
  | [], s => (s, .finished)
  | subscriber :: rest, s =>
    match performAll nested (subscriber.react (Host.sight s) envelope)
      (recordCall subscriber envelope s) with
    | (s, .finished) => callAll nested envelope rest s
    | stopped => stopped

def dispatch : Nat → Envelope → σ → σ × Fanout
  | 0, _, s => (s, .exhausted)
  | depth + 1, envelope, s =>
    let snapshot := Host.subscribers s
    callAll (dispatch depth) envelope snapshot
      (Host.record s (.noted (.dispatching snapshot.length)))

def dispatchFrame (depth : Nat) (text : String) (s : σ) :
    Except Json.Error (Envelope × σ × Fanout) :=
  (Envelope.ofFrame text).map fun envelope => (envelope, dispatch depth envelope s)

end dispatch

-- A bus by itself: no client listens to what callbacks ask for.
structure Bus where
  subscribers : List Subscriber := []
  events : List Event := []
  -- What callbacks are told of the connection.
  state? : Option ConnectionState := none

namespace Bus

instance : Host Bus where
  subscribers := subscribers
  register bus subscriber := { bus with subscribers := bus.subscribers ++ [subscriber] }
  record bus event := { bus with events := bus.events ++ [event] }
  request bus _ := bus
  events := events
  state? := state?

def describe (subscribers : List Subscriber) : String :=
  "EventBus \x7b subscribers: " ++ Decimal.ofNat subscribers.length ++ " \x7d"

end Bus

end HotReload
