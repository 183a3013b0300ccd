import HotReload.Proofs.Outcome
import HotReload.Socket.Machine

set_option autoImplicit false

namespace HotReload

namespace Socket

def isActive (s : Socket) : Bool := s.ready = .connecting ∨ s.ready = .open

structure Sound (s : Socket) : Prop where
  connecting : s.ready = .connecting → s.phase = .handshake ∨ s.phase = .checking
  opened : s.ready = .open → s.phase = .open
  closing : s.ready = .closing → s.phase ≠ .ended
  closed : s.ready = .closed → s.phase = .ended
  wished : .close ∈ s.commands → s.ready = .closing

theorem sound_new : ({} : Socket).Sound where
  connecting _ := .inl rfl
  opened := nofun
  closing := nofun
  closed := nofun
  wished := nofun

theorem sound_finish (s : Socket) : s.finish.Sound where
  connecting := nofun
  opened := nofun
  closing := nofun
  closed _ := rfl
  wished := nofun

-- All that can come of a move, unless the socket is closed by it.
structure Ongoing (s : Socket) (after : Outcome) : Prop where
  sound : after.socket.Sound
  onward : after.socket.ready = s.ready ∨
    (s.ready = .connecting ∧ after.socket.ready = .open) ∨ after.socket.ready = .closed
  reports : ∀ report ∈ after.reports, after.socket.ready ≠ .connecting ∧
    (report.ends = true → after.socket.ready = .closed)
  -- Unless it is told to, a socket does not end without a word.
  ended : s.isHeld = true → s.isActive = true → after.socket.ready = .closed →
    ∃ report ∈ after.reports, report.ends = true

variable {s : Socket}

theorem Ongoing.of_ready {after : Outcome} (sound : after.socket.Sound)
    (ready : after.socket.ready = s.ready)
    (going : ∀ report ∈ after.reports, report.ends = false ∧ s.ready ≠ .connecting) :
    s.Ongoing after where
  sound := sound
  onward := .inl ready
  reports report member := by
    obtain ⟨goes, shaken⟩ := going report member
    exact ⟨ready ▸ shaken, fun ends => by cases goes.symm.trans ends⟩
  ended _ active closed := by simp [isActive, ready.symm.trans closed] at active

theorem Ongoing.refl (sound : s.Sound) : s.Ongoing ⟨s, [], []⟩ := .of_ready sound rfl (by simp)

theorem Ongoing.finish (reports : List Report) (written : List Frame)
    (told : s.isHeld = true → s.isActive = true → ∃ report ∈ reports, report.ends = true) :
    s.Ongoing ⟨s.finish, reports, written⟩ where
  sound := s.sound_finish
  onward := .inr (.inr rfl)
  reports _ _ := ⟨nofun, fun _ => rfl⟩
  ended held active _ := told held active

section onward

variable {after : Outcome} (ongoing : s.Ongoing after)

include ongoing

theorem Ongoing.active (active : after.socket.isActive = true) : s.isActive = true := by
  rcases ongoing.onward with same | ⟨connecting, _⟩ | closed
  · simpa only [isActive, same] using active
  · simp [isActive, connecting]
  · simp [isActive, closed] at active

theorem Ongoing.shaken (shaken : s.ready ≠ .connecting) : after.socket.ready ≠ .connecting := by
  rcases ongoing.onward with same | ⟨connecting, _⟩ | closed
  · rwa [same]
  · exact absurd connecting shaken
  · simp [closed]

theorem Ongoing.closed (closed : s.ready = .closed) : after.socket.ready = .closed := by
  rcases ongoing.onward with same | ⟨connecting, _⟩ | ended
  · rwa [same]
  · cases closed.symm.trans connecting
  · exact ended

theorem Ongoing.wanted (wanted : s.ready ≠ .closing) : after.socket.ready ≠ .closing := by
  rcases ongoing.onward with same | ⟨_, isOpen⟩ | closed
  · rwa [same]
  · simp [isOpen]
  · simp [closed]

end onward

theorem ongoing_shakeHands (sound : s.Sound) (result : Handshake) :
    s.Ongoing (s.shakeHands result) := by
  unfold shakeHands
  split
  next early =>
    cases result with
    | completed =>
      have shaken : Sound { s with phase := .checking } :=
        { connecting := fun _ => .inr rfl
          opened := fun ready => by cases early.symm.trans (sound.opened ready)
          closing := nofun
          closed := fun ready => by cases early.symm.trans (sound.closed ready)
          wished := sound.wished }
      exact .of_ready shaken rfl (by simp)
    | failed cause => exact .finish _ _ fun _ _ => ⟨_, List.mem_singleton.mpr rfl, rfl⟩
  next => exact .refl sound

theorem ongoing_check (sound : s.Sound) : s.Ongoing s.check := by
  unfold check
  split
  next checking =>
    split
    next connecting =>
      exact {
        sound :=
          { connecting := nofun
            opened := fun _ => rfl
            closing := nofun
            closed := nofun
            wished := fun wished => by cases connecting.symm.trans (sound.wished wished) }
        onward := .inr (.inl ⟨connecting, rfl⟩)
        reports := by simp [Report.ends]
        ended := nofun }
    next shut =>
      refine .finish _ _ fun _ active => ?_
      have isOpen : s.ready = .open := by simpa [isActive, shut] using active
      cases checking.symm.trans (sound.opened isOpen)
  next => exact .refl sound

theorem ongoing_read (sound : s.Sound) (arrival : Arrival) : s.Ongoing (s.read arrival) := by
  unfold read
  split
  next isOpen =>
    have shaken : s.ready ≠ .connecting := fun connecting => by
      rcases sound.connecting connecting with phase | phase <;> cases isOpen.symm.trans phase
    cases arrival with
    | text data =>
      refine .of_ready sound rfl fun report member => ?_
      rw [List.mem_singleton.mp member]
      exact ⟨rfl, shaken⟩
    | close | failed | ended =>
      exact .finish _ _ fun _ _ => ⟨_, List.mem_singleton.mpr rfl, rfl⟩
    | binary | ping | pong => exact .refl sound
  next => exact .refl sound

theorem ongoing_obey (sound : s.Sound) (command : Command)
    (wished : command = .close → s.isHeld = true → s.isActive = false) :
    s.Ongoing (s.obey command) := by
  have told (close : command = .close) (held : s.isHeld = true) (active : s.isActive = true) :
      ∃ report ∈ ([] : List Report), report.ends = true := by
    cases active.symm.trans (wished close held)
  unfold obey
  split
  · exact .refl sound
  · exact .finish _ _ (told rfl)
  · exact .of_ready sound rfl (by simp)
  · exact .finish _ _ (told rfl)
  · exact .refl sound

theorem ongoing_takeCommand (sound : s.Sound) : s.Ongoing s.takeCommand := by
  unfold takeCommand
  split
  next =>
    split
    next command rest queued =>
      have taken : Sound { s with commands := rest } :=
        { sound with wished := fun wished => sound.wished (by simp [queued, wished]) }
      have closing (close : command = .close) : s.isActive = false := by
        have ready := sound.wished (by simp [queued, close])
        simp [isActive, ready]
      have obeyed := ongoing_obey taken command fun close _ => closing close
      exact ⟨obeyed.sound, obeyed.onward, obeyed.reports, obeyed.ended⟩
    next =>
      split
      next => exact .refl sound
      next released => exact ongoing_obey sound .close fun _ held => absurd held released
  next => exact .refl sound

theorem ongoing_send (sound : s.Sound) (data : String) : s.Ongoing ⟨s.send data, [], []⟩ := by
  unfold send queue
  split
  next => exact .refl sound
  next =>
    have sent : Sound { s with commands := s.commands ++ [.send data] } :=
      { sound with wished := fun wished => sound.wished (by simpa using wished) }
    exact .of_ready sent rfl (by simp)

theorem ongoing_step (sound : s.Sound) (move : Move) (alone : move ≠ .close) :
    s.Ongoing (s.step move) := by
  cases move with
  | send data => exact ongoing_send sound data
  | close => exact absurd rfl alone
  | release =>
    have released : Sound { s with isHeld := false } := { sound with }
    exact .of_ready released rfl (by simp [step])
  | shakeHands result => exact ongoing_shakeHands sound result
  | check => exact ongoing_check sound
  | read arrival => exact ongoing_read sound arrival
  | takeCommand => exact ongoing_takeCommand sound

theorem step_isHeld (s : Socket) (move : Move) (other : move ≠ .release) :
    (s.step move).socket.isHeld = s.isHeld := by
  have queued (s : Socket) (command : Command) : (s.queue command).isHeld = s.isHeld := by
    unfold queue
    split <;> rfl
  have obeyed (s : Socket) (command : Command) : (s.obey command).socket.isHeld = s.isHeld := by
    unfold obey
    split <;> rfl
  cases move with
  | send data => exact queued s _
  | close =>
    simp only [step, close]
    split
    · rfl
    · exact queued _ _
  | release => exact absurd rfl other
  | shakeHands result =>
    simp only [step, shakeHands]
    split
    · cases result <;> rfl
    · rfl
  | check =>
    simp only [step, check]
    split
    · split <;> rfl
    · rfl
  | read arrival =>
    simp only [step, read]
    split
    · cases arrival <;> rfl
    · rfl
  | takeCommand =>
    simp only [step, takeCommand]
    split
    · split
      · exact obeyed _ _
      · split
        · rfl
        · exact obeyed _ _
    · rfl

theorem Sound.going (sound : s.Sound) (fresh : ¬(s.ready = .closing ∨ s.ready = .closed)) :
    s.phase ≠ .ended := by
  cases ready : s.ready with
  | connecting => rcases sound.connecting ready with phase | phase <;> simp [phase]
  | closing => simp [ready] at fresh
  | closed => simp [ready] at fresh
  | _ => simp [sound.opened ready]

theorem Sound.close (sound : s.Sound) : s.close.Sound := by
  unfold Socket.close
  split
  next => exact sound
  next fresh =>
    have going := sound.going fresh
    simp only [queue, going, if_false]
    exact ⟨nofun, nofun, fun _ => going, nofun, fun _ => rfl⟩

theorem close_ready (s : Socket) :
    (s.ready = .closed ∧ s.close.ready = .closed) ∨
      (s.ready ≠ .closed ∧ s.close.ready = .closing) := by
  unfold close queue
  split
  next shut =>
    rcases shut with closing | closed
    · exact .inr ⟨by simp [closing], closing⟩
    · exact .inl ⟨closed, closed⟩
  next fresh =>
    refine .inr ⟨fun closed => fresh (.inr closed), ?_⟩
    split <;> rfl

end Socket

end HotReload
