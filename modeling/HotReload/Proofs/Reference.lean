import HotReload.Connection

set_option autoImplicit false

namespace HotReload

inductive Operation (σ : Type) where
  | opened (socket : σ)
  | closed (socket : σ)

namespace Operation

variable {σ ρ : Type}

def map (f : σ → ρ) : Operation σ → Operation ρ
  | .opened socket => .opened (f socket)
  | .closed socket => .closed (f socket)

def opened? : Operation σ → Option σ
  | .opened socket => some socket
  | .closed _ => none

theorem opened?_map (f : σ → ρ) (operation : Operation σ) :
    (operation.map f).opened? = operation.opened?.map f := by
  cases operation <;> rfl

theorem filterMap_opened?_map (f : σ → ρ) (operations : List (Operation σ)) :
    (operations.map (Operation.map f)).filterMap Operation.opened? =
      (operations.filterMap Operation.opened?).map f := by
  simp only [List.filterMap_map, List.map_filterMap, Function.comp_def, opened?_map]

end Operation

namespace Reference

inductive Mode (σ : Type) where
  | idle
  | connecting (socket : σ)
  | open (socket : σ)
  | reconnecting (failed : σ)
  deriving DecidableEq

inductive Stimulus (σ : Type) where
  | start (fresh : σ)
  | close
  | report (source : σ) (report : Report)
  -- The timer that the failure of a socket armed.
  | elapsed (failed fresh : σ)

structure Machine (σ : Type) where
  mode : Mode σ := .idle
  operations : List (Operation σ) := []
  armed : List σ := []
  dispatched : List Envelope := []

namespace Mode

variable {σ : Type}

def state : Mode σ → ConnectionState
  | .idle => .idle
  | .connecting _ => .connecting
  | .open _ => .open
  | .reconnecting _ => .reconnecting

def socket? : Mode σ → Option σ
  | .idle => none
  | .connecting socket => some socket
  | .open socket => some socket
  | .reconnecting _ => none

end Mode

namespace Machine

variable {σ : Type}

def closeSocket (m : Machine σ) : Machine σ :=
  match m.mode.socket? with
  | some socket => { m with operations := m.operations ++ [.closed socket] }
  | none => m

theorem closeSocket_eq (m : Machine σ) :
    m.closeSocket =
      { m with operations := m.operations ++ m.mode.socket?.toList.map .closed } := by
  unfold closeSocket
  cases m.mode.socket? <;> simp

@[simp] theorem closeSocket_armed (m : Machine σ) : m.closeSocket.armed = m.armed := by
  rw [closeSocket_eq]

@[simp] theorem closeSocket_dispatched (m : Machine σ) :
    m.closeSocket.dispatched = m.dispatched := by
  rw [closeSocket_eq]

def openSocket (m : Machine σ) (fresh : σ) : Machine σ :=
  { m with mode := .connecting fresh, operations := m.operations ++ [.opened fresh] }

def start (m : Machine σ) (fresh : σ) : Machine σ := m.closeSocket.openSocket fresh

def close (m : Machine σ) : Machine σ := { m.closeSocket with mode := .idle }

variable [DecidableEq σ]

def receive (m : Machine σ) (source : σ) : Report → Machine σ
  | .opened =>
    if m.mode = .connecting source then
      { m with mode := .open source, dispatched := m.dispatched ++ [.connected] }
    else m
  | .message text =>
    if m.mode = .open source then
      match Envelope.ofFrame text with
      | .ok envelope => { m with dispatched := m.dispatched ++ [envelope] }
      | .error _ => m
    else m
  | .failed _ =>
    if m.mode.socket? = some source then
      { m.closeSocket with mode := .reconnecting source, armed := m.armed ++ [source] }
    else m
  | .closed => if m.mode.socket? = some source then { m with mode := .idle } else m

def step (m : Machine σ) : Stimulus σ → Machine σ
  | .start fresh => m.start fresh
  | .close => m.close
  | .report source report => m.receive source report
  | .elapsed failed fresh => if m.mode = .reconnecting failed then m.start fresh else m

def run (m : Machine σ) (stimuli : List (Stimulus σ)) : Machine σ := stimuli.foldl step m

def sockets (m : Machine σ) : List σ := m.operations.filterMap Operation.opened?

end Machine

end Reference

end HotReload
