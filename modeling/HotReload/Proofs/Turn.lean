import HotReload.Proofs.Lifecycle

set_option autoImplicit false

namespace HotReload

namespace Socket

inductive Turn where
  | shakeHands (result : Handshake)
  | check
  | read (arrival : Arrival)
  | takeCommand

def Turn.move : Turn → Move
  | .shakeHands result => .shakeHands result
  | .check => .check
  | .read arrival => .read arrival
  | .takeCommand => .takeCommand

inductive Note where
  | looked (data : String) (found : ReadyState)
  | put (data : String)
  -- Somebody began to close it, and later queued the command.
  | closing (found : ReadyState)
  | wished
  | shaken (result : Handshake)
  | checked (found : ReadyState)
  | read (arrival : Arrival)
  | took (phase : Phase) (command : Command)
  | wrote (frame : Frame)
  | said (signal : Signal) (ready : ReadyState)

namespace Note

def isAside : Note → Bool
  | .looked _ _ => true
  | .put _ => true
  | .closing _ => true
  | .wished => true
  | _ => false

def signal? : Note → Option Signal
  | .said signal _ => some signal
  | _ => none

def frame? : Note → Option Frame
  | .wrote frame => some frame
  | _ => none

theorem signal?_of_aside {note : Note} (aside : note.isAside = true) : note.signal? = none := by
  cases note <;> first | rfl | cases aside

theorem filterMap_wrote {α : Type} {f : Note → Option α}
    (unconcerned : ∀ frame, f (.wrote frame) = none) (frames : List Frame) :
    (frames.map Note.wrote).filterMap f = [] := by
  simp [List.filterMap_map, unconcerned]

end Note

def Turn.notes (s : Socket) : Turn → List Note
  | .shakeHands result => if s.phase = .handshake then [.shaken result] else []
  | .check => if s.phase = .checking then [.checked s.ready] else []
  | .read arrival => if s.phase = .open then [.read arrival] else []
  | .takeCommand => if s.listens then s.commands.head?.toList.map (.took s.phase) else []

end Socket

def Arrival.report? : Arrival → Option Report
  | .text data => some (.message data)
  | .binary => none
  | .ping => none
  | .pong => none
  | .close => some .closed
  | .failed cause => some (.failed (.socket cause))
  | .ended => some (.failed .connectionClosed)

namespace Socket

inductive Turned (s : Socket) : Turn → List Note → Outcome → Prop where
  | refused (turn : Turn) : Turned s turn [] ⟨s, [], []⟩
  | shaken (early : s.phase = .handshake) :
    Turned s (.shakeHands .completed) [.shaken .completed] ⟨{ s with phase := .checking }, [], []⟩
  | failed (cause : SocketError) (early : s.phase = .handshake) :
    Turned s (.shakeHands (.failed cause)) [.shaken (.failed cause)]
      ⟨s.finish, [.failed (.socket cause)], []⟩
  | opened (checking : s.phase = .checking) (connecting : s.ready = .connecting) :
    Turned s .check [.checked .connecting]
      ⟨{ s with ready := .open, phase := .open }, [.opened], []⟩
  | aborted (checking : s.phase = .checking) (shut : s.ready ≠ .connecting) :
    Turned s .check [.checked s.ready] ⟨s.finish, [], []⟩
  | heard (data : String) (isOpen : s.phase = .open) :
    Turned s (.read (.text data)) [.read (.text data)] ⟨s, [.message data], []⟩
  | passed (arrival : Arrival) (isOpen : s.phase = .open) (nothing : arrival.report? = none) :
    Turned s (.read arrival) [.read arrival] ⟨s, [], []⟩
  | ended (arrival : Arrival) (last : Report) (isOpen : s.phase = .open)
    (reported : arrival.report? = some last) (ends : last.ends = true) :
    Turned s (.read arrival) [.read arrival] ⟨s.finish, [last], []⟩
  | dropped (data : String) (rest : List Command) (early : s.phase = .handshake)
    (queued : s.commands = .send data :: rest) :
    Turned s .takeCommand [.took .handshake (.send data)] ⟨{ s with commands := rest }, [], []⟩
  | cancelled (rest : List Command) (early : s.phase = .handshake)
    (queued : s.commands = .close :: rest) :
    Turned s .takeCommand [.took .handshake .close] ⟨s.finish, [], []⟩
  | wrote (data : String) (rest : List Command) (isOpen : s.phase = .open)
    (queued : s.commands = .send data :: rest) :
    Turned s .takeCommand [.took .open (.send data)]
      ⟨{ s with commands := rest }, [], [.text data]⟩
  | closed (rest : List Command) (isOpen : s.phase = .open)
    (queued : s.commands = .close :: rest) :
    Turned s .takeCommand [.took .open .close] ⟨s.finish, [], [.close]⟩
  -- The handle is gone, and with it whoever could want anything more.
  | left (listening : s.listens = true) (idle : s.commands = []) (released : s.isHeld = false) :
    Turned s .takeCommand [] ⟨s.finish, [], if s.phase = .open then [.close] else []⟩

theorem queue_phase (s : Socket) (command : Command) : (s.queue command).phase = s.phase := by
  unfold queue
  split <;> rfl

theorem queue_ready (s : Socket) (command : Command) : (s.queue command).ready = s.ready := by
  unfold queue
  split <;> rfl

theorem queue_commands {s : Socket} (going : s.phase ≠ .ended) (command : Command) :
    (s.queue command).commands = s.commands ++ [command] := by
  simp [queue, going]

theorem step_turned (s : Socket) (turn : Turn) :
    s.Turned turn (turn.notes s) (s.step turn.move) := by
  cases turn with
  | shakeHands result =>
    by_cases early : s.phase = .handshake
    next =>
      cases result with
      | completed =>
        simpa [Turn.notes, Turn.move, step, shakeHands, early] using Turned.shaken early
      | failed cause =>
        simpa [Turn.notes, Turn.move, step, shakeHands, early] using Turned.failed cause early
    next => simpa [Turn.notes, Turn.move, step, shakeHands, early] using Turned.refused _
  | check =>
    by_cases checking : s.phase = .checking
    next =>
      by_cases connecting : s.ready = .connecting
      next =>
        simpa [Turn.notes, Turn.move, step, check, checking, connecting]
          using Turned.opened checking connecting
      next =>
        simpa [Turn.notes, Turn.move, step, check, checking, connecting]
          using Turned.aborted checking connecting
    next => simpa [Turn.notes, Turn.move, step, check, checking] using Turned.refused _
  | read arrival =>
    by_cases isOpen : s.phase = .open
    next =>
      simp only [Turn.notes, Turn.move, step, read, isOpen, if_true]
      cases arrival with
      | text data => exact .heard data isOpen
      | binary | ping | pong => exact .passed _ isOpen rfl
      | close | failed | ended => exact .ended _ _ isOpen rfl rfl
    next => simpa [Turn.notes, Turn.move, step, read, isOpen] using Turned.refused _
  | takeCommand =>
    simp only [Turn.notes, Turn.move, step, takeCommand]
    by_cases listening : s.listens = true
    next =>
      have phase : s.phase = .handshake ∨ s.phase = .open := by simpa [listens] using listening
      cases queued : s.commands with
      | nil =>
        cases held : s.isHeld with
        | true => simpa [listening, held] using Turned.refused _
        | false =>
          rcases phase with early | isOpen
          · simpa [listening, held, obey, early] using Turned.left listening queued held
          · simpa [listening, held, obey, isOpen] using Turned.left listening queued held
      | cons command rest =>
        rcases phase with early | isOpen
        · cases command with
          | send data => simpa [listening, obey, early] using Turned.dropped data rest early queued
          | close => simpa [listening, obey, early, finish] using Turned.cancelled rest early queued
        · cases command with
          | send data => simpa [listening, obey, isOpen] using Turned.wrote data rest isOpen queued
          | close => simpa [listening, obey, isOpen, finish] using Turned.closed rest isOpen queued
    next => simpa [listening] using Turned.refused _

def isShut (s : Socket) : Bool := s.ready = .closing ∨ s.ready = .closed

namespace Turned

variable {s : Socket} {turn : Turn} {notes : List Note} {outcome : Outcome}

theorem ofLoop (turned : s.Turned turn notes outcome) :
    ∀ note ∈ notes ++ outcome.written.map Note.wrote, note.isAside = false := by
  have wrote : ∀ note ∈ outcome.written.map Note.wrote, note.isAside = false := by
    simp [Note.isAside]
  refine List.forall_mem_append.mpr ⟨?_, wrote⟩
  cases turned <;> simp [Note.isAside]

theorem filterMap_eq_nil {α : Type} {f : Note → Option α} (turned : s.Turned turn notes outcome)
    (aside : ∀ note, note.isAside = false → f note = none) :
    (notes ++ outcome.written.map Note.wrote).filterMap f = [] :=
  List.filterMap_eq_nil_iff.mpr fun note member => aside note (turned.ofLoop note member)

theorem shut (turned : s.Turned turn notes outcome) (shut : s.isShut = true) :
    outcome.socket.isShut = true := by
  cases turned with
  | refused | shaken | heard | passed | dropped | wrote => exact shut
  | opened checking connecting => simp [isShut, connecting] at shut
  | failed | aborted | ended | cancelled | closed | left => rfl

end Turned

end Socket

end HotReload
