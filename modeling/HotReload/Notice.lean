import HotReload.Error

set_option autoImplicit false

namespace HotReload

inductive Level where
  | trace
  | debug
  | info
  | warn
  | error

inductive Notice where
  | dispatching (subscribers : Nat)
  | opening (generation : Nat) (url : String)
  | closing (generation : Nat)
  | connected (url : String)
  | connectionOpen (generation : Nat)
  | connectionFailed (generation : Nat) (error : Error) (retryMilliseconds : Nat)
  | closedByServer (generation : Nat)
  | superseded (generation current : Nat)
  | reconnecting (generation : Nat)
  | staleReconnect (generation current : Nat)
  | frameRejected (error : Error)
  | frameDropped
  | subscriberPanicked (text : String)
  | signalDropped (generation : Nat)
  | loopEnded
  | loopPanicked

namespace Notice

def level : Notice → Level
  | .dispatching _ => .trace
  | .opening _ _ => .debug
  | .closing _ => .trace
  | .connected _ => .info
  | .connectionOpen _ => .debug
  | .connectionFailed _ _ _ => .warn
  | .closedByServer _ => .debug
  | .superseded _ _ => .trace
  | .reconnecting _ => .debug
  | .staleReconnect _ _ => .debug
  | .frameRejected _ => .warn
  | .frameDropped => .trace
  | .subscriberPanicked _ => .error
  | .signalDropped _ => .trace
  | .loopEnded => .debug
  | .loopPanicked => .warn

def message : Notice → String
  | .dispatching _ => "Dispatching envelope"
  | .opening _ _ => "Opening connection"
  | .closing _ => "Closing connection"
  | .connected _ => "[HMR] connected"
  | .connectionOpen _ => "Connection open"
  | .connectionFailed _ _ _ => "Connection failed, reconnecting"
  | .closedByServer _ => "Connection closed by server"
  | .superseded _ _ => "Ignoring signal from superseded connection"
  | .reconnecting _ => "Reconnecting"
  | .staleReconnect _ _ => "Skipping stale reconnect"
  | .frameRejected _ => "Dropping inbound frame"
  | .frameDropped => "Dropping frame, connection not open"
  | .subscriberPanicked _ => "Subscriber panicked"
  | .signalDropped _ => "Signal dropped, client is gone"
  | .loopEnded => "Client event loop terminated"
  | .loopPanicked => "Client event loop panicked"

def fields : Notice → List (String × String)
  | .dispatching subscribers => [("subscribers", Decimal.ofNat subscribers)]
  | .opening generation url => [("generation", Decimal.ofNat generation), ("url", url)]
  | .closing generation => [("generation", Decimal.ofNat generation)]
  | .connected url => [("url", url)]
  | .connectionOpen generation => [("generation", Decimal.ofNat generation)]
  | .connectionFailed generation error retryMilliseconds =>
    [("generation", Decimal.ofNat generation), ("error", error.message),
      ("retry_in_ms", Decimal.ofNat retryMilliseconds)]
  | .closedByServer generation => [("generation", Decimal.ofNat generation)]
  | .superseded generation current =>
    [("generation", Decimal.ofNat generation), ("current", Decimal.ofNat current)]
  | .reconnecting generation => [("generation", Decimal.ofNat generation)]
  | .staleReconnect generation current =>
    [("generation", Decimal.ofNat generation), ("current", Decimal.ofNat current)]
  | .frameRejected error => [("error", error.message)]
  | .subscriberPanicked text => [("panic", text)]
  | .signalDropped generation => [("generation", Decimal.ofNat generation)]
  | _ => []

end Notice

end HotReload
