import HotReload.Proofs.Admission

set_option autoImplicit false

namespace HotReload

open Socket (Note Turn Turned)

@[simp] def Frame.text? : Frame → Option String
  | .text data => some data
  | .close => none

@[simp] theorem Frame.text?_comp_text : Frame.text? ∘ Frame.text = some := rfl

namespace Socket

@[simp] def Command.text? : Command → Option String
  | .send data => some data
  | .close => none

@[simp] theorem Command.text?_comp_send : Command.text? ∘ Command.send = some := rfl

namespace Note

def queued? : Note → Option Command
  | .put data => some (.send data)
  | .wished => some .close
  | _ => none

def taken? : Note → Option (Phase × Command)
  | .took phase command => some (phase, command)
  | _ => none

theorem queued?_of_loop {note : Note} (ofLoop : note.isAside = false) : note.queued? = none := by
  cases note <;> first | rfl | cases ofLoop

theorem taken?_eq_some {note : Note} {phase : Phase} {command : Command} :
    note.taken? = some (phase, command) ↔ note = .took phase command := by
  cases note <;> simp [taken?]

end Note

def openSends (texts : List String) : List (Phase × Command) :=
  texts.map fun text => (.open, .send text)

@[simp] theorem map_openSends (texts : List String) :
    (openSends texts).map Prod.snd = texts.map .send := by
  simp [openSends]

inductive Conduct : Phase → List (Phase × Command) → List Frame → Prop where
  | early (phase : Phase) (early : phase = .handshake ∨ phase = .checking) : Conduct phase [] []
  | isOpen (texts : List String) : Conduct .open (openSends texts) (texts.map .text)
  | cancelled : Conduct .ended [(.handshake, .close)] []
  | closed (texts : List String) :
    Conduct .ended (openSends texts ++ [(.open, .close)]) (texts.map .text ++ [.close])
  -- It was not a command that it ended with.
  | ended (texts : List String) (last : List Frame) (textless : last.filterMap Frame.text? = []) :
    Conduct .ended (openSends texts) (texts.map .text ++ last)

namespace Conduct

variable {phase : Phase} {taken : List (Phase × Command)} {written : List Frame}

theorem eq_nil (conduct : Conduct phase taken written)
    (early : phase = .handshake ∨ phase = .checking) : taken = [] ∧ written = [] := by
  cases conduct with
  | early => exact ⟨rfl, rfl⟩
  | isOpen | cancelled | closed | ended => simp at early

theorem eq_of_open (conduct : Conduct .open taken written) :
    ∃ texts : List String, taken = openSends texts ∧ written = texts.map .text := by
  cases conduct with
  | early _ early => simp at early
  | isOpen texts => exact ⟨texts, rfl, rfl⟩

theorem finish (conduct : Conduct phase taken written) (going : phase ≠ .ended) {last : List Frame}
    (textless : last.filterMap Frame.text? = []) :
    Conduct .ended (taken ++ []) (written ++ last) := by
  rw [List.append_nil]
  cases conduct with
  | early => exact .ended [] last textless
  | isOpen texts => exact .ended texts last textless
  | cancelled | closed | ended => exact absurd rfl going

theorem not_dropped (conduct : Conduct phase taken written) (data : String) :
    (.handshake, .send data) ∉ taken := by
  cases conduct <;> simp [openSends]

theorem sends (conduct : Conduct phase taken written) :
    taken.map Prod.snd = (written.filterMap Frame.text?).map .send ∨
      taken.map Prod.snd = (written.filterMap Frame.text?).map .send ++ [.close] := by
  cases conduct with
  | early | isOpen => exact .inl (by simp)
  | ended texts last textless => exact .inl (by simp [textless])
  | cancelled | closed => exact .inr (by simp)

theorem sends_of_going (conduct : Conduct phase taken written) (going : phase ≠ .ended) :
    taken.map Prod.snd = (written.filterMap Frame.text?).map .send := by
  cases conduct with
  | early | isOpen => simp
  | cancelled | closed | ended => exact absurd rfl going

theorem of_closed (conduct : Conduct phase taken written) {during : Phase}
    (closed : (during, .close) ∈ taken) :
    taken.map Prod.snd = (written.filterMap Frame.text?).map .send ++ [.close] ∧
      written = if during = .open then (written.filterMap Frame.text?).map .text ++ [.close]
        else [] := by
  cases conduct with
  | early | isOpen | ended => simp [openSends] at closed
  | cancelled =>
    cases List.mem_singleton.mp closed
    exact ⟨rfl, rfl⟩
  | closed texts =>
    have last : during = .open := by simpa [openSends] using closed
    simp [last]

end Conduct

namespace Turned

variable {s : Socket} {turn : Turn} {notes : List Note} {outcome : Outcome}

theorem early (turned : s.Turned turn notes outcome)
    (early : outcome.socket.phase = .handshake ∨ outcome.socket.phase = .checking) :
    s.phase = .handshake ∨ s.phase = .checking := by
  cases turned with
  | shaken shaking | dropped _ _ shaking => exact .inl shaking
  | opened | failed | aborted | ended | cancelled | closed | left =>
    rcases early with early | early <;> cases early
  | refused | heard | passed | wrote => exact early

theorem of_ended (turned : s.Turned turn notes outcome) (ended : s.phase = .ended) :
    notes = [] ∧ outcome = ⟨s, [], []⟩ := by
  cases turned with
  | refused => exact ⟨rfl, rfl⟩
  | shaken early | failed _ early | dropped _ _ early | cancelled _ early =>
    cases ended.symm.trans early
  | opened checking | aborted checking => cases ended.symm.trans checking
  | heard _ isOpen | passed _ isOpen | ended _ _ isOpen | wrote _ _ isOpen | closed _ isOpen =>
    cases ended.symm.trans isOpen
  | left listening => simp [listens, ended] at listening

theorem unwritten (turned : s.Turned turn notes outcome) : notes.filterMap Note.frame? = [] := by
  cases turned <;> rfl

theorem queue (turned : s.Turned turn notes outcome) :
    ∃ rest, s.commands = (notes.filterMap Note.taken?).map Prod.snd ++ rest ∧
      (outcome.socket.phase ≠ .ended → outcome.socket.commands = rest) := by
  cases turned with
  | refused | shaken | heard | passed | opened => exact ⟨s.commands, rfl, fun _ => rfl⟩
  | failed | aborted | ended | left => exact ⟨s.commands, rfl, fun going => absurd rfl going⟩
  | dropped _ rest _ queued | wrote _ rest _ queued => exact ⟨rest, queued, fun _ => rfl⟩
  | cancelled rest _ queued | closed rest _ queued =>
    exact ⟨rest, queued, fun going => absurd rfl going⟩

theorem conduct (turned : s.Turned turn notes outcome) {taken : List (Phase × Command)}
    {written : List Frame} (conduct : Conduct s.phase taken written)
    (undropped : s.phase = .handshake → ∀ data, .send data ∉ s.commands) :
    Conduct outcome.socket.phase (taken ++ notes.filterMap Note.taken?)
      (written ++ outcome.written) := by
  have same : Conduct s.phase (taken ++ []) (written ++ []) := by simpa using conduct
  cases turned with
  | refused | heard | passed => exact same
  | shaken early =>
    obtain ⟨rfl, rfl⟩ := conduct.eq_nil (.inl early)
    exact .early _ (.inr rfl)
  | opened checking connecting =>
    obtain ⟨rfl, rfl⟩ := conduct.eq_nil (.inr checking)
    exact .isOpen []
  | failed cause early => exact conduct.finish (by simp [early]) rfl
  | aborted checking shut => exact conduct.finish (by simp [checking]) rfl
  | ended arrival last isOpen reported ends => exact conduct.finish (by simp [isOpen]) rfl
  | left listening idle released =>
    have going : s.phase ≠ .ended := by
      intro ended
      simp [listens, ended] at listening
    exact conduct.finish going (by split <;> rfl)
  | dropped data rest early queued =>
    exact absurd (by simp [queued]) (undropped early data)
  | cancelled rest early queued =>
    obtain ⟨rfl, rfl⟩ := conduct.eq_nil (.inl early)
    exact .cancelled
  | wrote data rest isOpen queued =>
    obtain ⟨texts, rfl, rfl⟩ := (isOpen ▸ conduct).eq_of_open
    simpa [isOpen, openSends, Note.taken?] using Conduct.isOpen (texts ++ [data])
  | closed rest isOpen queued =>
    obtain ⟨texts, rfl, rfl⟩ := (isOpen ▸ conduct).eq_of_open
    exact .closed texts

end Turned

end Socket

namespace Traffic

def texts (t : Traffic) : List String := t.written.filterMap Frame.text?

def queued (t : Traffic) : List Socket.Command := t.history.filterMap Note.queued?

def taken (t : Traffic) : List (Socket.Phase × Socket.Command) := t.history.filterMap Note.taken?

-- The queue holds what was asked for and is still to be done, first come, first served.
structure Outbound (t : Traffic) : Prop where
  sound : t.Sound
  -- Nobody has found the socket open yet, so the handshake has no frame to drop.
  early : t.socket.phase = .handshake ∨ t.socket.phase = .checking → t.unsent = [] ∧ t.sent = []
  conduct : Socket.Conduct t.socket.phase t.taken t.written
  -- At its end the event loop leaves the queue to itself; from then on only the order is kept.
  waiting : t.socket.phase ≠ .ended → t.queued = t.taken.map Prod.snd ++ t.socket.commands
  inOrder : t.taken.map Prod.snd <+: t.queued

theorem outbound_fresh (generation : Nat) : (fresh generation).Outbound where
  sound := sound_fresh generation
  early _ := ⟨rfl, rfl⟩
  conduct := .early _ (.inl rfl)
  waiting _ := rfl
  inOrder := List.nil_prefix

theorem send_mem_queued {t : Traffic} {data : String} :
    Socket.Command.send data ∈ t.queued ↔ data ∈ t.sent := by
  have same (note : Note) : note.queued? = some (.send data) ↔ note.put? = some data := by
    cases note <;> simp [Note.queued?, Note.put?]
  simp [queued, sent, List.mem_filterMap, same]

theorem Outbound.beside {t after : Traffic} (outbound : t.Outbound) (sound : after.Sound)
    {notes : List Note} (history : after.history = t.history ++ notes)
    (phase : after.socket.phase = t.socket.phase)
    (untaken : notes.filterMap Note.taken? = []) (unwritten : notes.filterMap Note.frame? = [])
    (early : t.socket.phase = .handshake ∨ t.socket.phase = .checking →
      after.unsent = [] ∧ notes.filterMap Note.put? = [])
    (commands : t.socket.phase ≠ .ended →
      after.socket.commands = t.socket.commands ++ notes.filterMap Note.queued?) :
    after.Outbound := by
  have taken : after.taken = t.taken := by simp [taken, history, untaken]
  have written : after.written = t.written := by simp [written, history, unwritten]
  have queued : after.queued = t.queued ++ notes.filterMap Note.queued? := by
    simp [queued, history]
  refine ⟨sound, fun shaking => ?_, ?_, fun going => ?_, ?_⟩
  · have shaking := phase ▸ shaking
    obtain ⟨unsent, put⟩ := early shaking
    exact ⟨unsent, by simpa [sent, history, put] using (outbound.early shaking).2⟩
  · rw [phase, taken, written]
    exact outbound.conduct
  · have going := phase ▸ going
    rw [queued, taken, commands going, outbound.waiting going, List.append_assoc]
  · rw [queued, taken]
    exact outbound.inOrder.trans (List.prefix_append _ _)

theorem Outbound.undropped {t : Traffic} (outbound : t.Outbound)
    (shaking : t.socket.phase = .handshake) (data : String) : .send data ∉ t.socket.commands := by
  intro waits
  have queued : .send data ∈ t.queued := by
    rw [outbound.waiting (by simp [shaking])]
    exact List.mem_append_right _ waits
  have sent := send_mem_queued.mp queued
  simp [(outbound.early (.inl shaking)).2] at sent

theorem Outbound.turned {t after : Traffic} (outbound : t.Outbound) {turn : Turn}
    {notes : List Note} {outcome : Socket.Outcome} (turned : t.socket.Turned turn notes outcome)
    (sound : after.Sound) (socket : after.socket = outcome.socket)
    (unsent : after.unsent = t.unsent)
    (history : after.history = t.history ++ (notes ++ outcome.written.map Note.wrote)) :
    after.Outbound := by
  by_cases ended : t.socket.phase = .ended
  next =>
    obtain ⟨rfl, rfl⟩ := turned.of_ended ended
    refine outbound.beside sound history (socket ▸ rfl) rfl rfl (fun shaking => ?_) (absurd ended)
    simp [ended] at shaking
  next =>
    obtain ⟨rest, commands, later⟩ := turned.queue
    have nothing := turned.filterMap_eq_nil fun _ => Note.put?_of_loop
    have unqueued := turned.filterMap_eq_nil fun _ => Note.queued?_of_loop
    have untaken := Note.filterMap_wrote (f := Note.taken?) (fun _ => rfl) outcome.written
    have taken : after.taken = t.taken ++ notes.filterMap Note.taken? := by
      simp [taken, history, untaken]
    have written : after.written = t.written ++ outcome.written := by
      simp [written, history, turned.unwritten, List.filterMap_map, Function.comp_def, Note.frame?]
    have queued : after.queued = t.queued := by
      rw [queued, history, List.filterMap_append, unqueued, List.append_nil, queued]
    have inOrder : t.queued = after.taken.map Prod.snd ++ rest := by
      rw [outbound.waiting ended, commands, taken, List.map_append, List.append_assoc]
    refine ⟨sound, fun shaking => ?_, ?_, fun going => ?_, ?_⟩
    · obtain ⟨none, unsaid⟩ := outbound.early (turned.early (socket ▸ shaking))
      refine ⟨unsent.trans none, ?_⟩
      rw [sent, history, List.filterMap_append, nothing, List.append_nil]
      exact unsaid
    · rw [socket, taken, written]
      exact turned.conduct outbound.conduct outbound.undropped
    · rw [queued, inOrder, socket, later (socket ▸ going)]
    · rw [queued, inOrder]
      exact List.prefix_append _ _

theorem Outbound.move {t : Traffic} (outbound : t.Outbound) (move : Move)
    (looking : ∀ data, move ≠ .send data) : (t.move move).Outbound := by
  have sound := outbound.sound.move move
  have passed := t.move_passed move
  generalize t.move move = after at passed sound
  have phase command := t.socket.queue_phase command
  have still shaking : t.unsent = [] ∧ ([] : List String) = [] :=
    ⟨(outbound.early shaking).1, rfl⟩
  have idle (_ : t.socket.phase ≠ .ended) : t.socket.commands = t.socket.commands ++ [] :=
    (List.append_nil _).symm
  cases passed with
  | refused => exact outbound
  | waiting data isOpen =>
    have isOpen := outbound.sound.socket.opened isOpen
    exact outbound.beside sound rfl rfl rfl rfl (by simp [isOpen]) idle
  | missed | shut | shutAgain | said => exact outbound.beside sound rfl rfl rfl rfl still idle
  | put index data waiting =>
    refine outbound.beside sound rfl (phase _) rfl rfl (fun shaking => ?_)
      (Socket.queue_commands · _)
    simp [(outbound.early shaking).1] at waiting
  | sent data => exact absurd rfl (looking data)
  | wished closers begun =>
    exact outbound.beside sound rfl (phase _) rfl rfl still (Socket.queue_commands · _)
  | released =>
    exact outbound.beside sound (List.append_nil _).symm rfl rfl rfl still idle
  | turned turn notes outcome silent made turned => exact outbound.turned turned sound rfl rfl rfl

theorem outbound_run (generation : Nat) (moves : List Move)
    (looking : ∀ data, Move.send data ∉ moves) :
    ((fresh generation).run moves).Outbound ∧ ((fresh generation).run moves).Admission := by
  have guarded move (member : move ∈ moves) data : move ≠ .send data := fun same =>
    looking data (same ▸ member)
  constructor
  · exact run_induction _ moves
      (fun _ move member outbound => outbound.move move (guarded move member))
      (outbound_fresh generation)
  · exact run_induction _ moves
      (fun _ move member admission => admission.move move (guarded move member))
      (admission_fresh generation)

theorem sent_eq_queued (t : Traffic) : t.sent = t.queued.filterMap Socket.Command.text? := by
  have same (note : Note) : note.put? = note.queued?.bind Socket.Command.text? := by
    cases note <;> rfl
  rw [queued, List.filterMap_filterMap, sent]
  exact congrArg (t.history.filterMap ·) (funext same)

theorem sends_beforeWished (t : Traffic) :
    (t.beforeWished.filterMap Note.put?).map Socket.Command.send =
      t.queued.takeWhile (· ≠ .close) := by
  unfold beforeWished queued
  induction t.history with
  | nil => rfl
  | cons note rest ih =>
    cases note <;> simp_all [List.filterMap_cons, Note.put?, Note.queued?, Note.isWished]

theorem send_injective : Function.Injective Socket.Command.send := fun _ _ => by simp

theorem beforeWished_of_queued {t : Traffic} {texts : List String} {rest : List Socket.Command}
    (queued : t.queued = texts.map .send ++ rest) :
    (t.beforeWished.filterMap Note.put?).map Socket.Command.send =
      texts.map .send ++ rest.takeWhile (· ≠ .close) := by
  rw [sends_beforeWished, queued]
  exact List.takeWhile_append_of_pos (by simp)

theorem Outbound.beforeWished {t : Traffic} (outbound : t.Outbound) :
    t.texts <+: t.beforeWished.filterMap Note.put? := by
  obtain ⟨rest, queued⟩ := outbound.inOrder
  have sends : ∃ rest, t.queued = t.texts.map .send ++ rest := by
    rcases outbound.conduct.sends with sends | sends
    · exact ⟨rest, by rw [← queued, sends, texts]⟩
    · exact ⟨.close :: rest, by rw [← queued, sends, texts, List.append_assoc]; rfl⟩
  obtain ⟨rest, queued⟩ := sends
  refine (List.prefix_map_iff_of_injective send_injective).mp ?_
  rw [beforeWished_of_queued queued]
  exact List.prefix_append _ _

theorem Outbound.closed {t : Traffic} (outbound : t.Outbound) {phase : Socket.Phase}
    (closed : .took phase .close ∈ t.history) :
    t.texts = t.beforeWished.filterMap Note.put? ∧
      t.written = if phase = .open then t.texts.map .text ++ [.close] else [] := by
  have taken : (phase, .close) ∈ t.taken :=
    List.mem_filterMap.mpr ⟨_, closed, Note.taken?_eq_some.mpr rfl⟩
  obtain ⟨sends, written⟩ := outbound.conduct.of_closed taken
  obtain ⟨rest, queued⟩ := outbound.inOrder
  have queued : t.queued = t.texts.map .send ++ .close :: rest := by
    rw [← queued, sends, texts, List.append_assoc]
    rfl
  refine ⟨List.map_injective_iff.mpr send_injective ?_, written⟩
  rw [beforeWished_of_queued queued]
  simp

theorem frames_written_in_order (generation : Nat) (moves : List Move)
    (looking : ∀ data, Move.send data ∉ moves) :
    let t := (fresh generation).run moves
    t.texts <+: t.sent ∧
    (∀ data, .took .handshake (.send data) ∉ t.history) ∧
    (t.socket.phase ≠ .ended →
      t.sent = t.texts ++ t.socket.commands.filterMap Socket.Command.text?) ∧
    (∀ phase, .took phase .close ∈ t.history →
      t.beforeClosing.filterMap Note.put? <+: t.texts ∧
      t.texts = t.beforeWished.filterMap Note.put? ∧
      t.written = if phase = .open then t.texts.map .text ++ [.close] else []) ∧
    t.texts <+: t.beforeWished.filterMap Note.put? ∧
    (t.sent ++ t.unsent).Perm (t.beforeClosing.filterMap Note.admitted?) := by
  intro t
  obtain ⟨outbound, admission⟩ : t.Outbound ∧ t.Admission := outbound_run generation moves looking
  refine ⟨?_, fun data dropped => ?_, fun going => ?_, fun phase closed => ?_,
    outbound.beforeWished, admission.admitted⟩
  · exact outbound.beforeWished.trans ((List.takeWhile_prefix _).filterMap _)
  · have taken : (.handshake, .send data) ∈ t.taken :=
      List.mem_filterMap.mpr ⟨_, dropped, Note.taken?_eq_some.mpr rfl⟩
    exact outbound.conduct.not_dropped data taken
  · rw [t.sent_eq_queued, outbound.waiting going, List.filterMap_append,
      outbound.conduct.sends_of_going going, List.filterMap_map]
    simp [texts]
  · obtain ⟨all, written⟩ := outbound.closed closed
    exact ⟨all ▸ admission.inOrder.filterMap _, all, written⟩

theorem frames_written_in_order_beside_close :
    let moves : List Move := [.look "early", .turn (.shakeHands .completed), .turn .check,
      .look "one", .say, .put 0, .look "two", .look "three", .look "four", .put 1,
      .turn .takeCommand, .turn (.read (.text "update")), .say, .shut, .put 0, .look "late", .shut,
      .wish, .put 0, .turn .takeCommand, .turn .takeCommand, .turn .takeCommand, .turn .takeCommand]
    let t := (fresh 5).run moves
    (∀ data, Move.send data ∉ moves) ∧ .took .open .close ∈ t.history ∧
      t.sent = ["one", "three", "two", "four"] ∧
      t.texts = t.beforeWished.filterMap Note.put? ∧
      t.written = [.text "one", .text "three", .text "two", .close] := by
  intro moves t
  have looking data : Move.send data ∉ moves := by simp [moves]
  have closed : .took .open .close ∈ t.history := List.mem_of_getElem? (i := 24) (by rfl)
  have written := (frames_written_in_order 5 moves looking).2.2.2.1 .open closed
  exact ⟨looking, closed, by rfl, written.2.1, by rfl⟩

end Traffic

end HotReload
