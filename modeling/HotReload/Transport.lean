import HotReload.Signal

set_option autoImplicit false

namespace HotReload

inductive ReadyState where
  | connecting
  | open
  | closing
  | closed
  deriving DecidableEq

namespace ReadyState

def text : ReadyState → String
  | .connecting => "Connecting"
  | .open => "Open"
  | .closing => "Closing"
  | .closed => "Closed"

def rank : ReadyState → Nat
  | .connecting => 0
  | .open => 1
  | .closing => 2
  | .closed => 3

end ReadyState

inductive Opening (τ : Type) where
  -- The reports are those that the socket made at once.
  | opened (transport : τ) (reports : List Report)
  | panicked (transport : τ)

class Transport (τ : Type) where
  openSocket : τ → Nat → String → Opening τ
  closeSocket : τ → Nat → τ
  sendText : τ → Nat → String → τ
  ready : τ → Nat → ReadyState

end HotReload
