import HotReload.Client
import HotReload.Socket.Machine

set_option autoImplicit false

namespace HotReload

structure Link where
  generation : Nat
  url : String
  socket : Socket

structure Network where
  links : List Link := []

namespace Network

def socket? (network : Network) (generation : Nat) : Option Socket :=
  (network.links.find? fun link => link.generation = generation).map Link.socket

def mapSocket (network : Network) (generation : Nat) (f : Socket → Socket) : Network :=
  ⟨network.links.map fun link =>
    if link.generation = generation then { link with socket := f link.socket } else link⟩

def ready (network : Network) (generation : Nat) : ReadyState :=
  match network.socket? generation with
  | some socket => socket.ready
  | none => .closed

instance : Transport Network where
  openSocket network generation url :=
    .opened ⟨network.links ++ [⟨generation, url, {}⟩]⟩ []
  closeSocket network generation := network.mapSocket generation Socket.close
  sendText network generation data := network.mapSocket generation (Socket.send · data)
  ready := ready

end Network

def Client.moveSocket (c : Client Network) (generation : Nat) (move : Socket.Move) :
    Client Network :=
  match c.transport.socket? generation with
  | some socket =>
    let outcome := socket.step move
    { c with
      transport := c.transport.mapSocket generation fun _ => outcome.socket }.emitAll generation
        outcome.reports
  | none => c

end HotReload
