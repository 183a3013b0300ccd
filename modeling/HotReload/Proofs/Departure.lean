import HotReload.Proofs.Run
import HotReload.Proofs.Trace

set_option autoImplicit false

namespace HotReload

namespace Client

variable {τ : Type} [Transport τ] {c : Client τ}

def departing? (c : Client τ) (signal : Signal) : Option Nat :=
  match signal.report with
  | .closed =>
    if signal.generation = c.connection.generation ∧ c.connection.isLive then
      some signal.generation
    else none
  | _ => none

def departed? (c : Client τ) : Move τ → Option Nat
  | .signal => if c.phase = .running then c.inbox.signals.head?.bind c.departing? else none
  | _ => none

def departed : Client τ → List (Move τ) → List Nat
  | _, [] => []
  | c, move :: rest => (c.departed? move).toList ++ (c.move move).departed rest

end Client

end HotReload
