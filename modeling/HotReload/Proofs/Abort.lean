import HotReload.Proofs.Language

set_option autoImplicit false

namespace HotReload

open Socket (Note Turn Turned)

theorem Report.Word.of_unopened {reports : List Report} (word : Word reports)
    (unopened : .opened ∉ reports) : reports = [] ∨ ∃ error, reports = [.failed error] := by
  cases word with
  | silent => exact .inl rfl
  | failed error => exact .inr ⟨error, rfl⟩
  | going | ended => simp at unopened

namespace Socket

def Note.missed? : Note → Option Report
  | .shaken (.failed cause) => some (.failed (.socket cause))
  | _ => none

theorem Note.missed?_eq_some {note : Note} {report : Report} : note.missed? = some report ↔
    ∃ cause, note = .shaken (.failed cause) ∧ report = .failed (.socket cause) := by
  constructor
  · intro missed
    cases note with
    | shaken result =>
      cases result with
      | completed => cases missed
      | failed cause => exact ⟨cause, rfl, (Option.some.inj missed).symm⟩
    | _ => cases missed
  · rintro ⟨cause, rfl, rfl⟩
    rfl

theorem Note.missed?_of_aside {note : Note} (aside : note.isAside = true) :
    note.missed? = none := by
  cases note <;> first | rfl | cases aside

theorem Note.due?_of_missed? {note : Note} {report : Report} (missed : note.missed? = some report) :
    note.due? = some report := by
  obtain ⟨cause, rfl, rfl⟩ := missed?_eq_some.mp missed
  rfl

namespace Turned

variable {s : Socket} {turn : Turn} {notes : List Note} {outcome : Outcome}

theorem hushed (turned : s.Turned turn notes outcome) (shut : s.isShut = true)
    (unopened : s.phase ≠ .open) :
    outcome.socket.phase ≠ .open ∧ notes.filterMap Note.due? = notes.filterMap Note.missed? := by
  cases turned with
  | refused | dropped => exact ⟨unopened, rfl⟩
  | shaken | failed | cancelled | left => exact ⟨nofun, rfl⟩
  | opened checking connecting => simp [isShut, connecting] at shut
  | aborted checking other =>
    have undue : (Note.checked s.ready).due? = none := by
      cases ready : s.ready <;> simp_all [Note.due?]
    exact ⟨nofun, by simp [undue, Note.missed?]⟩
  | heard data isOpen | passed _ isOpen | ended _ _ isOpen | wrote _ _ isOpen | closed _ isOpen =>
    exact absurd isOpen unopened

end Turned

end Socket

namespace Traffic

-- Nothing has come of the socket, and nothing will, but perhaps that its handshake failed.
structure Hushed (t : Traffic) : Prop where
  shut : t.socket.isShut = true
  unopened : t.socket.phase ≠ .open
  due : t.history.filterMap Note.due? = t.history.filterMap Note.missed?

theorem Hushed.aside {t after : Traffic} (hushed : t.Hushed) (aside : t.Aside after)
    (ready : after.socket.ready = t.socket.ready) : after.Hushed := by
  obtain ⟨notes, history, outside⟩ := aside.history
  have missed : notes.filterMap Note.missed? = [] :=
    List.filterMap_eq_nil_iff.mpr fun note member => Note.missed?_of_aside (outside note member)
  refine ⟨?_, aside.phase ▸ hushed.unopened, ?_⟩
  · simpa [Socket.isShut, ready] using hushed.shut
  · rw [aside.due.2, hushed.due, history, List.filterMap_append, missed, List.append_nil]

theorem Hushed.ended {t : Traffic} (hushed : t.Hushed) (sound : t.Sound) :
    t.socket.ready ≠ .connecting ∧ t.socket.ready ≠ .open ∧
      (t.socket.phase = .ended → t.socket.ready = .closed) := by
  have shut : t.socket.ready = .closing ∨ t.socket.ready = .closed := by
    simpa [Socket.isShut] using hushed.shut
  rcases shut with closing | closed
  · exact ⟨by simp [closing], by simp [closing],
      fun ended => absurd ended (sound.socket.closing closing)⟩
  · exact ⟨by simp [closed], by simp [closed], fun _ => closed⟩

theorem Truthful.hushed {generation : Nat} {t : Traffic} (truthful : Truthful generation t)
    (connecting : t.socket.ready = .connecting) :
    ({ t with
      socket := { t.socket with ready := .closing }
      closers := t.closers + 1 }.record [.closing .connecting]).Hushed := by
  have early := truthful.sound.socket.connecting connecting
  have nothing : t.history.filterMap Note.due? = [] := truthful.course.eq_nil early
  have missed : t.history.filterMap Note.missed? = [] :=
    List.filterMap_eq_nil_iff.mpr fun note member => Option.eq_none_iff_forall_ne_some.mpr
      fun report missed => by
        have due := List.filterMap_eq_nil_iff.mp nothing note member
        cases due.symm.trans (Note.due?_of_missed? missed)
  refine ⟨rfl, ?_, ?_⟩
  · rcases early with early | early <;> simp [early]
  · rw [record_history, List.filterMap_append, List.filterMap_append, nothing, missed]
    rfl

def ClosedEarly (t : Traffic) : Prop := .closing .connecting ∈ t.history

-- Of the moves only the first close can make the premise true, and it finds the socket connecting.
theorem hushed_move {generation : Nat} {t : Traffic} (truthful : Truthful generation t)
    (hushed : t.ClosedEarly → t.Hushed) (move : Move) :
    (t.move move).ClosedEarly → (t.move move).Hushed := by
  have passed := t.move_passed move
  generalize t.move move = after at passed
  have ready command := t.socket.queue_ready command
  intro closed
  cases passed with
  | refused => exact hushed closed
  | waiting | missed | put | sent | wished =>
    have earlier : t.ClosedEarly := by simpa [ClosedEarly] using closed
    refine (hushed earlier).aside (.of_record rfl rfl ?_ rfl rfl) ?_
    all_goals first | rfl | exact ready _ | exact t.socket.queue_phase _
  | released => exact (hushed closed).aside ⟨rfl, rfl, rfl, [], by simp, by simp⟩ rfl
  | shut fresh =>
    rcases fresh with connecting | isOpen
    · rw [connecting]
      exact truthful.hushed connecting
    · have earlier : t.ClosedEarly := by simpa [ClosedEarly, isOpen] using closed
      have shut := (hushed earlier).shut
      simp [Socket.isShut, isOpen] at shut
  | shutAgain shut =>
    have earlier : t.ClosedEarly := by
      rcases shut with shut | shut <;> simpa [ClosedEarly, shut] using closed
    exact (hushed earlier).aside (.of_record rfl rfl rfl rfl rfl) rfl
  | turned turn notes outcome silent made turned =>
    have earlier : t.ClosedEarly := by
      rcases List.mem_append.mp closed with earlier | now
      · exact earlier
      · cases turned.ofLoop _ now
    have shut := turned.shut (hushed earlier).shut
    obtain ⟨unopened, due⟩ := turned.hushed (hushed earlier).shut (hushed earlier).unopened
    have undue := Note.filterMap_wrote (f := Note.due?) (fun _ => rfl) outcome.written
    have unmissed := Note.filterMap_wrote (f := Note.missed?) (fun _ => rfl) outcome.written
    exact ⟨shut, unopened, by simp [due, undue, unmissed, (hushed earlier).due]⟩
  | said report rest unsaid =>
    have earlier : t.ClosedEarly := by simpa [ClosedEarly] using closed
    obtain ⟨shut, unopened, due⟩ := hushed earlier
    exact ⟨shut, unopened, by simp [List.filterMap_cons, due, Note.due?, Note.missed?]⟩

theorem hushed_run (generation : Nat) (moves : List Move)
    (closed : ((fresh generation).run moves).ClosedEarly) :
    ((fresh generation).run moves).Hushed := by
  have kept : Truthful generation ((fresh generation).run moves) ∧
      (((fresh generation).run moves).ClosedEarly → ((fresh generation).run moves).Hushed) :=
    run_induction (P := fun t => Truthful generation t ∧ (t.ClosedEarly → t.Hushed)) _ moves
      (fun _ move _ kept => ⟨kept.1.move move, hushed_move kept.1 kept.2 move⟩)
      ⟨truthful_fresh generation, nofun⟩
  exact kept.2 closed

-- A socket that is closed while it connects never opens, whatever comes in between, and once its
-- event loop has ended it is closed. Nothing is reported of it but a handshake that fails before
-- the event loop takes the command: that failure is told like any other.
theorem closed_early_tells_failure_only (generation : Nat) (moves : List Move)
    (closed : ((fresh generation).run moves).ClosedEarly) :
    let t := (fresh generation).run moves
    t.signals.map Signal.report ++ t.unsaid = t.history.filterMap Note.missed? ∧
    (t.signals = [] ∨ ∃ cause, .shaken (.failed cause) ∈ t.history ∧
      t.signals = [⟨generation, .failed (.socket cause)⟩]) ∧
    (t.unsaid = [] →
      (t.signals = [] ↔ ∀ cause, .shaken (.failed cause) ∉ t.history)) ∧
    t.socket.ready ≠ .connecting ∧ t.socket.ready ≠ .open ∧
    (t.socket.phase = .ended → t.socket.ready = .closed) := by
  intro t
  have truthful : Truthful generation t := truthful_run generation moves
  have hushed : t.Hushed := hushed_run generation moves closed
  have told : t.signals.map Signal.report ++ t.unsaid = t.history.filterMap Note.missed? :=
    truthful.told.trans hushed.due
  have word : Report.Word (t.signals.map Signal.report) :=
    .of_append (truthful.told ▸ truthful.course.word)
  have missed report (member : report ∈ t.signals.map Signal.report) :
      ∃ cause, .shaken (.failed cause) ∈ t.history ∧ report = .failed (.socket cause) := by
    have missed : report ∈ t.history.filterMap Note.missed? :=
      told ▸ List.mem_append_left _ member
    obtain ⟨note, noted, missed⟩ := List.mem_filterMap.mp missed
    obtain ⟨cause, rfl, rfl⟩ := Note.missed?_eq_some.mp missed
    exact ⟨cause, noted, rfl⟩
  refine ⟨told, ?_, ?_, ?_⟩
  · have unopened : .opened ∉ t.signals.map Signal.report := fun member => by
      obtain ⟨_, _, impossible⟩ := missed .opened member
      cases impossible
    rcases word.of_unopened unopened with nothing | ⟨error, reports⟩
    · exact .inl (List.map_eq_nil_iff.mp nothing)
    · obtain ⟨⟨source, report⟩, only, rfl⟩ := List.map_eq_singleton_iff.mp reports
      obtain ⟨cause, noted, same⟩ := missed (.failed error) (by simp [reports])
      have bound : source = generation :=
        truthful.source ⟨source, .failed error⟩ (by simp [only])
      exact .inr ⟨cause, noted, same ▸ bound ▸ only⟩
  · intro silent
    rw [silent, List.append_nil] at told
    rw [← List.map_eq_nil_iff (f := Signal.report), told, List.filterMap_eq_nil_iff]
    constructor
    · intro nothing cause noted
      cases nothing _ noted
    · intro never note noted
      refine Option.eq_none_iff_forall_ne_some.mpr fun report missed => ?_
      obtain ⟨cause, rfl, _⟩ := Note.missed?_eq_some.mp missed
      exact never cause noted
  · exact hushed.ended truthful.sound

theorem closed_early_tells_failure_only_beside_frame :
    let moves : List Move := [.look "early", .shut, .turn (.shakeHands .completed), .wish, .shut,
      .send "late", .turn .check, .turn (.shakeHands (.failed .attackAttempt)), .say]
    let t := (fresh 3).run moves
    t.ClosedEarly ∧ t.signals = [] ∧ t.socket.phase = .ended ∧ t.socket.ready = .closed := by
  intro moves t
  have closed : t.ClosedEarly := .tail _ (.head _)
  have told := closed_early_tells_failure_only 3 moves closed
  exact ⟨closed, rfl, rfl, told.2.2.2.2.2 rfl⟩

-- Here the handshake fails while the command waits.
theorem failure_told_after_close :
    let t := (fresh 3).run
      [.shut, .wish, .turn (.shakeHands (.failed (.address .invalidCharacter))), .say]
    t.ClosedEarly ∧ t.signals ≠ [] ∧
      t.history = [.closing .connecting, .wished, .shaken (.failed (.address .invalidCharacter)),
        .said ⟨3, .failed (.socket (.address .invalidCharacter))⟩ .closed] :=
  ⟨.head _, List.cons_ne_nil _ _, rfl⟩

end Traffic

end HotReload
