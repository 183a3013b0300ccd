import HotReload.Proofs.Linked
import HotReload.Proofs.Turn

set_option autoImplicit false

namespace HotReload

open Socket (Note Turn)

structure Traffic where
  -- The one that the socket's sink is bound to.
  generation : Nat
  socket : Socket := {}
  -- Frames of those who found the socket open and have still to queue them.
  unsent : List String := []
  -- How many have begun to close and have still to queue the command.
  closers : Nat := 0
  -- What the event loop has still to report; until then it does nothing else.
  unsaid : List Report := []
  history : List Note := []

namespace Traffic

inductive Move where
  | look (data : String)
  | put (index : Nat)
  -- Without a look at the ready state.
  | send (data : String)
  | shut
  | wish
  | release
  | turn (turn : Turn)
  | say

def record (t : Traffic) (notes : List Note) : Traffic := { t with history := t.history ++ notes }

def look (t : Traffic) (data : String) : Traffic :=
  if t.socket.ready = .open then { t with unsent := t.unsent ++ [data] } else t

def put (t : Traffic) (index : Nat) : Traffic :=
  match t.unsent[index]? with
  | some data =>
    { t with socket := t.socket.send data, unsent := t.unsent.eraseIdx index }.record [.put data]
  | none => t

def shut (t : Traffic) : Traffic :=
  if t.socket.ready = .closing ∨ t.socket.ready = .closed then t
  else { t with socket := { t.socket with ready := .closing }, closers := t.closers + 1 }

def wish (t : Traffic) : Traffic :=
  match t.closers with
  | 0 => t
  | closers + 1 => { t with socket := t.socket.queue .close, closers }.record [.wished]

def turn (t : Traffic) (turn : Turn) : Traffic :=
  if t.unsaid.isEmpty then
    let outcome := t.socket.step turn.move
    { t with socket := outcome.socket, unsaid := outcome.reports }.record
      (turn.notes t.socket ++ outcome.written.map Note.wrote)
  else t

def say (t : Traffic) : Traffic :=
  match t.unsaid with
  | [] => t
  | report :: rest =>
    { t with unsaid := rest }.record [.said ⟨t.generation, report⟩ t.socket.ready]

def move (t : Traffic) : Move → Traffic
  | .look data => (t.look data).record [.looked data t.socket.ready]
  | .put index => t.put index
  | .send data => { t with socket := t.socket.send data }.record [.put data]
  | .shut => t.shut.record [.closing t.socket.ready]
  | .wish => t.wish
  | .release => { t with socket := t.socket.release }
  | .turn turn => t.turn turn
  | .say => t.say

def run (t : Traffic) (moves : List Move) : Traffic := moves.foldl move t

def signals (t : Traffic) : List Signal := t.history.filterMap Note.signal?

def written (t : Traffic) : List Frame := t.history.filterMap Note.frame?

inductive Passed (t : Traffic) : Move → Traffic → Prop where
  | refused (move : Move) : Passed t move t
  | waiting (data : String) (isOpen : t.socket.ready = .open) :
    Passed t (.look data) ({ t with unsent := t.unsent ++ [data] }.record [.looked data .open])
  | missed (data : String) (shut : t.socket.ready ≠ .open) :
    Passed t (.look data) (t.record [.looked data t.socket.ready])
  | put (index : Nat) (data : String) (waiting : t.unsent[index]? = some data) :
    Passed t (.put index)
      ({ t with
        socket := t.socket.send data
        unsent := t.unsent.eraseIdx index }.record [.put data])
  | sent (data : String) :
    Passed t (.send data) ({ t with socket := t.socket.send data }.record [.put data])
  | shut (fresh : t.socket.ready = .connecting ∨ t.socket.ready = .open) :
    Passed t .shut
      ({ t with
        socket := { t.socket with ready := .closing }
        closers := t.closers + 1 }.record [.closing t.socket.ready])
  | shutAgain (shut : t.socket.ready = .closing ∨ t.socket.ready = .closed) :
    Passed t .shut (t.record [.closing t.socket.ready])
  | wished (closers : Nat) (begun : t.closers = closers + 1) :
    Passed t .wish ({ t with socket := t.socket.queue .close, closers }.record [.wished])
  | released : Passed t .release { t with socket := t.socket.release }
  | turned (turn : Turn) (notes : List Note) (outcome : Socket.Outcome) (silent : t.unsaid = [])
    (made : outcome = t.socket.step turn.move) (turned : t.socket.Turned turn notes outcome) :
    Passed t (.turn turn)
      ({ t with socket := outcome.socket, unsaid := outcome.reports }.record
        (notes ++ outcome.written.map Note.wrote))
  | said (report : Report) (rest : List Report) (unsaid : t.unsaid = report :: rest) :
    Passed t .say
      ({ t with unsaid := rest }.record [.said ⟨t.generation, report⟩ t.socket.ready])

theorem move_passed (t : Traffic) (move : Move) : t.Passed move (t.move move) := by
  cases move with
  | look data =>
    by_cases isOpen : t.socket.ready = .open
    next => simpa [Traffic.move, look, isOpen] using Passed.waiting data isOpen
    next => simpa [Traffic.move, look, isOpen] using Passed.missed data isOpen
  | put index =>
    cases waiting : t.unsent[index]? with
    | some data => simpa [Traffic.move, Traffic.put, waiting] using Passed.put index data waiting
    | none => simpa [Traffic.move, Traffic.put, waiting] using Passed.refused _
  | send data => exact .sent data
  | shut =>
    by_cases shut : t.socket.ready = .closing ∨ t.socket.ready = .closed
    next => simpa [Traffic.move, Traffic.shut, shut] using Passed.shutAgain shut
    next =>
      have fresh : t.socket.ready = .connecting ∨ t.socket.ready = .open := by
        cases ready : t.socket.ready <;> simp_all
      simpa [Traffic.move, Traffic.shut, shut] using Passed.shut fresh
  | wish =>
    cases begun : t.closers with
    | zero => simpa [Traffic.move, wish, begun] using Passed.refused _
    | succ closers => simpa [Traffic.move, wish, begun] using Passed.wished closers begun
  | release => exact .released
  | turn turn =>
    cases unsaid : t.unsaid with
    | nil =>
      simpa [Traffic.move, Traffic.turn, unsaid]
        using Passed.turned turn _ _ unsaid rfl (t.socket.step_turned turn)
    | cons report rest => simpa [Traffic.move, Traffic.turn, unsaid] using Passed.refused _
  | say =>
    cases unsaid : t.unsaid with
    | nil => simpa [Traffic.move, say, unsaid] using Passed.refused _
    | cons report rest => simpa [Traffic.move, say, unsaid] using Passed.said report rest unsaid

theorem run_induction {P : Traffic → Prop} (t : Traffic) (moves : List Move)
    (step : ∀ t, ∀ move ∈ moves, P t → P (t.move move)) (holds : P t) : P (t.run moves) := by
  induction moves generalizing t with
  | nil => exact holds
  | cons move rest ih =>
    have first : P (t.move move) := step t move List.mem_cons_self holds
    exact ih (t.move move) (fun t other later => step t other (List.mem_cons_of_mem _ later)) first

section projections

variable (t : Traffic) (notes : List Note)

@[simp] theorem record_generation : (t.record notes).generation = t.generation := rfl

@[simp] theorem record_socket : (t.record notes).socket = t.socket := rfl

@[simp] theorem record_unsent : (t.record notes).unsent = t.unsent := rfl

@[simp] theorem record_closers : (t.record notes).closers = t.closers := rfl

@[simp] theorem record_unsaid : (t.record notes).unsaid = t.unsaid := rfl

@[simp] theorem record_history : (t.record notes).history = t.history ++ notes := rfl

end projections

-- Nothing but the event loop does anything else than this.
structure Aside (t after : Traffic) : Prop where
  generation : after.generation = t.generation
  phase : after.socket.phase = t.socket.phase
  unsaid : after.unsaid = t.unsaid
  history : ∃ notes, after.history = t.history ++ notes ∧ ∀ note ∈ notes, note.isAside = true

theorem Aside.of_record {t after : Traffic} {note : Note} (aside : note.isAside = true)
    (generation : after.generation = t.generation) (phase : after.socket.phase = t.socket.phase)
    (unsaid : after.unsaid = t.unsaid) (history : after.history = t.history) :
    t.Aside (after.record [note]) :=
  ⟨generation, phase, unsaid, [note], by simp [record, history], by simpa using aside⟩

inductive Stepped (t : Traffic) : Traffic → Prop where
  | aside {after : Traffic} (aside : t.Aside after) : Stepped t after
  | turned (turn : Turn) (notes : List Note) (outcome : Socket.Outcome) (silent : t.unsaid = [])
    (turned : t.socket.Turned turn notes outcome) :
    Stepped t
      ({ t with socket := outcome.socket, unsaid := outcome.reports }.record
        (notes ++ outcome.written.map Note.wrote))
  | said (report : Report) (rest : List Report) (unsaid : t.unsaid = report :: rest) :
    Stepped t
      ({ t with unsaid := rest }.record [.said ⟨t.generation, report⟩ t.socket.ready])

theorem move_stepped (t : Traffic) (move : Move) : t.Stepped (t.move move) := by
  have passed := t.move_passed move
  generalize t.move move = after at passed
  have still : t.Aside t := ⟨rfl, rfl, rfl, [], by simp, by simp⟩
  have phase := t.socket.queue_phase
  cases passed with
  | refused => exact .aside still
  | waiting | missed | shut | shutAgain => exact .aside (.of_record rfl rfl rfl rfl rfl)
  | put index data waiting => exact .aside (.of_record rfl rfl (phase _) rfl rfl)
  | sent data => exact .aside (.of_record rfl rfl (phase _) rfl rfl)
  | wished closers begun => exact .aside (.of_record rfl rfl (phase _) rfl rfl)
  | released => exact .aside ⟨rfl, rfl, rfl, [], by simp, by simp⟩
  | turned turn notes outcome silent made turned => exact .turned turn notes outcome silent turned
  | said report rest unsaid => exact .said report rest unsaid

def fresh (generation : Nat) : Traffic := { generation }

structure Sound (t : Traffic) : Prop where
  socket : t.socket.Sound
  closers : t.closers ≠ 0 → t.socket.ready = .closing ∨ t.socket.ready = .closed
  unsaid : ∀ report ∈ t.unsaid, report.ends = true → t.socket.ready = .closed
  unsent : t.unsent ≠ [] → t.socket.ready ≠ .connecting

theorem sound_fresh (generation : Nat) : (fresh generation).Sound where
  socket := Socket.sound_new
  closers := by simp [fresh]
  unsaid := by simp [fresh]
  unsent := by simp [fresh]

theorem Sound.send {t : Traffic} (sound : t.Sound) (data : String) :
    (t.socket.send data).Sound ∧ (t.socket.send data).ready = t.socket.ready :=
  ⟨(Socket.ongoing_send sound.socket data).sound, t.socket.queue_ready _⟩

theorem Sound.wish {t : Traffic} (sound : t.Sound) (begun : t.closers ≠ 0) :
    (t.socket.queue .close).Sound ∧ (t.socket.queue .close).ready = t.socket.ready := by
  unfold Socket.queue
  split
  next => exact ⟨sound.socket, rfl⟩
  next going =>
    refine ⟨{ sound.socket with wished := fun _ => ?_ }, rfl⟩
    rcases sound.closers begun with closing | closed
    · exact closing
    · exact absurd (sound.socket.closed closed) going

theorem Sound.move {t : Traffic} (sound : t.Sound) (move : Move) : (t.move move).Sound := by
  have passed := t.move_passed move
  generalize t.move move = after at passed
  cases passed with
  | refused => exact sound
  | waiting data isOpen => exact { sound with unsent := by simp [isOpen] }
  | missed data shut => exact { sound with }
  | put index data waiting =>
    obtain ⟨socket, ready⟩ := sound.send data
    have some : t.unsent ≠ [] := by
      rintro none
      simp [none] at waiting
    exact ⟨socket, ready ▸ sound.closers, ready ▸ sound.unsaid, fun _ => ready ▸ sound.unsent some⟩
  | sent data =>
    obtain ⟨socket, ready⟩ := sound.send data
    exact ⟨socket, ready ▸ sound.closers, ready ▸ sound.unsaid, ready ▸ sound.unsent⟩
  | shut fresh =>
    have going : t.socket.phase ≠ .ended := sound.socket.going fun shut => by
      rcases fresh with fresh | fresh <;> simp [fresh] at shut
    refine ⟨⟨nofun, nofun, fun _ => going, nofun, fun _ => rfl⟩, fun _ => .inl rfl, ?_, nofun⟩
    intro report waiting ends
    rcases fresh with fresh | fresh <;> simp [sound.unsaid report waiting ends] at fresh
  | shutAgain shut => exact { sound with }
  | wished closers begun =>
    obtain ⟨socket, ready⟩ := sound.wish (by simp [begun])
    have shut := sound.closers (by simp [begun])
    exact ⟨socket, fun _ => ready ▸ shut, ready ▸ sound.unsaid, ready ▸ sound.unsent⟩
  | released => exact ⟨{ sound.socket with }, sound.closers, sound.unsaid, sound.unsent⟩
  | turned turn notes outcome silent made turned =>
    have ongoing : t.socket.Ongoing outcome :=
      made ▸ Socket.ongoing_step sound.socket turn.move (by cases turn <;> nofun)
    refine ⟨ongoing.sound, fun begun => ?_, fun report told => (ongoing.reports report told).2,
      fun some => ongoing.shaken (sound.unsent some)⟩
    rcases ongoing.onward with same | ⟨connecting, _⟩ | closed
    · exact same ▸ sound.closers begun
    · rcases sound.closers begun with shut | shut <;> simp [connecting] at shut
    · exact .inr closed
  | said report rest unsaid =>
    have unsaid other (later : other ∈ rest) := sound.unsaid other (by simp [unsaid, later])
    exact { sound with unsaid }

theorem sound_run (generation : Nat) (moves : List Move) : ((fresh generation).run moves).Sound :=
  run_induction _ moves (fun _ move _ sound => sound.move move) (sound_fresh generation)

section adequacy

theorem run_cons (t : Traffic) (move : Move) (rest : List Move) :
    t.run (move :: rest) = (t.move move).run rest := rfl

theorem run_say (t : Traffic) :
    t.run (t.unsaid.map fun _ => .say) =
      { t with unsaid := [] }.record
        (t.unsaid.map fun report => .said ⟨t.generation, report⟩ t.socket.ready) := by
  generalize same : t.unsaid = reports
  induction reports generalizing t with
  | nil =>
    simp only [List.map_nil, run, List.foldl_nil, record, List.append_nil]
    rw [← same]
  | cons report rest ih =>
    have said : t.move .say =
        { t with unsaid := rest }.record [.said ⟨t.generation, report⟩ t.socket.ready] := by
      simp [Traffic.move, say, same]
    rw [List.map_cons, run_cons, said, ih _ rfl]
    simp [record]

theorem turn_eq_run (t : Traffic) (silent : t.unsaid = []) (turn : Turn) :
    ∃ moves, t.run moves =
      { t with socket := (t.socket.step turn.move).socket }.record
        (turn.notes t.socket ++ (t.socket.step turn.move).written.map Note.wrote ++
          (t.socket.step turn.move).reports.map fun report =>
            Note.said ⟨t.generation, report⟩ (t.socket.step turn.move).socket.ready) := by
  refine ⟨.turn turn :: (t.socket.step turn.move).reports.map fun _ => .say, ?_⟩
  have turned : (t.move (.turn turn)).unsaid = (t.socket.step turn.move).reports := by
    simp [Traffic.move, Traffic.turn, silent]
  rw [run_cons, ← turned, run_say, turned]
  simp [Traffic.move, Traffic.turn, silent, record]

theorem close_eq_run (t : Traffic) (settled : t.closers = 0) :
    (t.run [.shut, .wish]).socket = t.socket.close ∧ (t.run [.shut, .wish]).closers = 0 := by
  by_cases shut : t.socket.ready = .closing ∨ t.socket.ready = .closed
  next => simp [run, Traffic.move, Traffic.shut, wish, Socket.close, shut, settled]
  next => simp [run, Traffic.move, Traffic.shut, wish, Socket.close, shut, settled]

theorem send_eq_run (t : Traffic) (data : String) :
    (t.run [.look data, .put t.unsent.length]).socket =
        (if t.socket.ready = .open then t.socket.send data else t.socket) ∧
      (t.run [.look data, .put t.unsent.length]).unsent = t.unsent := by
  by_cases isOpen : t.socket.ready = .open
  next =>
    simp [run, Traffic.move, look, put, isOpen, List.eraseIdx_append_of_length_le (Nat.le_refl _)]
  next => simp [run, Traffic.move, look, put, isOpen]

end adequacy

end Traffic

theorem Client.socket?_send {c : Client Network} {generation : Nat} {s : Socket}
    (inUse : c.connection.current = some generation)
    (found : c.transport.socket? generation = some s) (data : String) :
    (c.send data).transport.socket? generation =
      some (if s.ready = .open then s.send data else s) := by
  by_cases isOpen : s.ready = .open
  next =>
    simp [send, give, target?, aim, inUse, Transport.ready, Network.ready, found, isOpen, record,
      Transport.sendText, Network.socket?_mapSocket_self found]
  next =>
    simp [send, give, target?, aim, inUse, Transport.ready, Network.ready, found, isOpen, note,
      record]

end HotReload
