import HotReload.Transport

set_option autoImplicit false

namespace HotReload

inductive Handshake where
  | completed
  | failed (cause : SocketError)

inductive Arrival where
  | text (data : String)
  | binary
  | ping
  | pong
  | close
  | failed (cause : SocketError)
  -- The stream ended without a close frame.
  | ended

inductive Frame where
  | text (data : String)
  | close
  deriving DecidableEq

namespace Socket

inductive Command where
  | send (data : String)
  | close
  deriving DecidableEq

inductive Phase where
  | handshake
  -- The handshake is done and the ready state has still to be looked at.
  | checking
  | open
  | ended
  deriving DecidableEq

end Socket

structure Socket where
  ready : ReadyState := .connecting
  phase : Socket.Phase := .handshake
  commands : List Socket.Command := []
  isHeld : Bool := true

namespace Socket

structure Outcome where
  socket : Socket
  reports : List Report := []
  written : List Frame := []

def queue (s : Socket) (command : Command) : Socket :=
  if s.phase = .ended then s else { s with commands := s.commands ++ [command] }

def send (s : Socket) (data : String) : Socket := s.queue (.send data)

def close (s : Socket) : Socket :=
  if s.ready = .closing ∨ s.ready = .closed then s
  else { s with ready := .closing }.queue .close

def release (s : Socket) : Socket := { s with isHeld := false }

def finish (s : Socket) : Socket := { s with ready := .closed, phase := .ended, commands := [] }

-- A failure is reported even if the socket was closed before it came.
def shakeHands (s : Socket) (result : Handshake) : Outcome :=
  if s.phase = .handshake then
    match result with
    | .completed => ⟨{ s with phase := .checking }, [], []⟩
    | .failed cause => ⟨s.finish, [.failed (.socket cause)], []⟩
  else ⟨s, [], []⟩

-- A socket that was closed during the handshake does not open.
def check (s : Socket) : Outcome :=
  if s.phase = .checking then
    if s.ready = .connecting then ⟨{ s with ready := .open, phase := .open }, [.opened], []⟩
    else ⟨s.finish, [], []⟩
  else ⟨s, [], []⟩

def read (s : Socket) (arrival : Arrival) : Outcome :=
  if s.phase = .open then
    match arrival with
    | .text data => ⟨s, [.message data], []⟩
    | .close => ⟨s.finish, [.closed], []⟩
    | .failed cause => ⟨s.finish, [.failed (.socket cause)], []⟩
    | .ended => ⟨s.finish, [.failed .connectionClosed], []⟩
    | .binary => ⟨s, [], []⟩
    | .ping => ⟨s, [], []⟩
    | .pong => ⟨s, [], []⟩
  else ⟨s, [], []⟩

-- What is sent before the handshake is done is lost.
def obey (s : Socket) (command : Command) : Outcome :=
  match s.phase, command with
  | .handshake, .send _ => ⟨s, [], []⟩
  | .handshake, .close => ⟨s.finish, [], []⟩
  | .open, .send data => ⟨s, [], [.text data]⟩
  | .open, .close => ⟨s.finish, [], [.close]⟩
  | _, _ => ⟨s, [], []⟩

def listens (s : Socket) : Bool := s.phase = .handshake ∨ s.phase = .open

-- Takes the next command; a handle that is gone counts as a last close.
def takeCommand (s : Socket) : Outcome :=
  if s.listens then
    match s.commands with
    | command :: rest => { s with commands := rest }.obey command
    | [] => if s.isHeld then ⟨s, [], []⟩ else s.obey .close
  else ⟨s, [], []⟩

inductive Move where
  | send (data : String)
  | close
  | release
  | shakeHands (result : Handshake)
  | check
  | read (arrival : Arrival)
  | takeCommand

def step (s : Socket) : Move → Outcome
  | .send data => ⟨s.send data, [], []⟩
  | .close => ⟨s.close, [], []⟩
  | .release => ⟨s.release, [], []⟩
  | .shakeHands result => s.shakeHands result
  | .check => s.check
  | .read arrival => s.read arrival
  | .takeCommand => s.takeCommand

end Socket

end HotReload
