import HotReload.Error
import HotReload.Notice

set_option autoImplicit false

namespace HotReload

inductive Report where
  | opened
  | message (text : String)
  | failed (error : Error)
  | closed

structure Signal where
  generation : Nat
  report : Report

-- Signals wait here until the client gets to them; once it is gone they are lost.
structure Inbox where
  signals : List Signal
  isGone : Bool

namespace Inbox

def empty : Inbox := ⟨[], false⟩

def emit (inbox : Inbox) (signal : Signal) : Inbox × List Notice :=
  if inbox.isGone then (inbox, [.signalDropped signal.generation])
  else ({ inbox with signals := inbox.signals ++ [signal] }, [])

def leave (_ : Inbox) : Inbox := ⟨[], true⟩

end Inbox

end HotReload
