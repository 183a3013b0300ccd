import HotReload.Proofs.Traffic

set_option autoImplicit false

namespace HotReload

open Socket (Note Turn Turned)

namespace Report

-- All that one socket may report, and in which order.
inductive Word : List Report → Prop where
  | silent : Word []
  | failed (error : Error) : Word [.failed error]
  | going (texts : List String) : Word (.opened :: texts.map .message)
  | ended (texts : List String) (last : Report) (ends : last.ends = true) :
    Word (.opened :: texts.map .message ++ [last])

theorem Word.of_append {first rest : List Report} (word : Word (first ++ rest)) : Word first := by
  have shorter : first <+: first ++ rest := List.prefix_append first rest
  generalize first ++ rest = whole at word shorter
  cases first with
  | nil => exact .silent
  | cons report more =>
    cases word with
    | silent => cases List.prefix_nil.mp shorter
    | failed error =>
      obtain ⟨rfl, nothing⟩ := List.cons_prefix_cons.mp shorter
      rw [List.prefix_nil.mp nothing]
      exact .failed error
    | going texts =>
      obtain ⟨rfl, later⟩ := List.cons_prefix_cons.mp shorter
      obtain ⟨some, rfl⟩ : ∃ some : List String, more = some.map .message :=
        ⟨texts.take more.length, by rw [List.map_take]; exact List.prefix_iff_eq_take.mp later⟩
      exact .going some
    | ended texts last ends =>
      obtain ⟨rfl, later⟩ := List.cons_prefix_cons.mp shorter
      rcases List.prefix_concat_iff.mp later with rfl | later
      · exact .ended texts last ends
      · obtain ⟨some, rfl⟩ : ∃ some : List String, more = some.map .message :=
          ⟨texts.take more.length, by rw [List.map_take]; exact List.prefix_iff_eq_take.mp later⟩
        exact .going some

inductive Course : Socket.Phase → List Report → Prop where
  | early (phase : Socket.Phase) (early : phase = .handshake ∨ phase = .checking) : Course phase []
  | isOpen (texts : List String) : Course .open (.opened :: texts.map .message)
  | ended {reports : List Report} (word : Word reports) : Course .ended reports

theorem Course.word {phase : Socket.Phase} {reports : List Report} (course : Course phase reports) :
    Word reports := by
  cases course with
  | early => exact .silent
  | isOpen texts => exact .going texts
  | ended word => exact word

theorem Course.eq_nil {phase : Socket.Phase} {reports : List Report} (course : Course phase reports)
    (early : phase = .handshake ∨ phase = .checking) : reports = [] := by
  cases course with
  | early => rfl
  | isOpen | ended => simp at early

theorem Course.eq_of_open {reports : List Report} (course : Course .open reports) :
    ∃ texts : List String, reports = .opened :: texts.map .message := by
  cases course with
  | early _ early => simp at early
  | isOpen texts => exact ⟨texts, rfl⟩

def text? : Report → Option String
  | .message text => some text
  | _ => none

end Report

namespace Socket

def Note.due? : Note → Option Report
  | .shaken (.failed cause) => some (.failed (.socket cause))
  | .checked .connecting => some .opened
  | .read arrival => arrival.report?
  | _ => none

def Note.heard? : Note → Option String
  | .read (.text data) => some data
  | _ => none

theorem Note.due?_of_aside {note : Note} (aside : note.isAside = true) : note.due? = none := by
  cases note <;> first | rfl | cases aside

theorem Note.text_of_due? (note : Note) : note.due?.bind Report.text? = note.heard? := by
  cases note with
  | shaken result => cases result <;> rfl
  | checked found => cases found <;> rfl
  | read arrival => cases arrival <;> rfl
  | _ => rfl

namespace Turned

variable {s : Socket} {turn : Turn} {notes : List Note} {outcome : Outcome}

theorem due (turned : s.Turned turn notes outcome) :
    notes.filterMap Note.due? = outcome.reports := by
  cases turned with
  | aborted checking shut => cases ready : s.ready <;> simp_all [Note.due?]
  | passed arrival isOpen nothing => simp [Note.due?, nothing]
  | ended arrival last isOpen reported ends => simp [Note.due?, reported]
  | _ => rfl

theorem unsaid (turned : s.Turned turn notes outcome) :
    notes.filterMap Note.signal? = [] := by
  cases turned <;> rfl

theorem course (turned : s.Turned turn notes outcome) {reports : List Report}
    (course : Report.Course s.phase reports) :
    Report.Course outcome.socket.phase (reports ++ outcome.reports) := by
  have ended : Report.Course .ended (reports ++ []) := by simpa using Report.Course.ended course.word
  have same : Report.Course s.phase (reports ++ []) := by simpa using course
  cases turned with
  | refused | passed | dropped | wrote => exact same
  | aborted | cancelled | closed | left => exact ended
  | shaken early =>
    rw [course.eq_nil (.inl early)]
    exact .early _ (.inr rfl)
  | failed cause early =>
    rw [course.eq_nil (.inl early)]
    exact .ended (.failed _)
  | opened checking connecting =>
    rw [course.eq_nil (.inr checking)]
    exact .isOpen []
  | heard data isOpen =>
    obtain ⟨texts, rfl⟩ := (isOpen ▸ course).eq_of_open
    simpa [isOpen] using Report.Course.isOpen (texts ++ [data])
  | ended arrival last isOpen reported ends =>
    obtain ⟨texts, rfl⟩ := (isOpen ▸ course).eq_of_open
    exact .ended (.ended texts last ends)

end Turned

end Socket

namespace Traffic

def Announced (t : Traffic) : Prop :=
  ∀ signal ready, .said signal ready ∈ t.history → signal.report.ends = true → ready = .closed

theorem Announced.move {t : Traffic} (announced : t.Announced) (sound : t.Sound) (move : Move) :
    (t.move move).Announced := by
  have stepped := t.move_stepped move
  generalize t.move move = after at stepped
  intro signal ready told ends
  cases stepped with
  | aside aside =>
    obtain ⟨notes, history, outside⟩ := aside.history
    rcases List.mem_append.mp (history ▸ told) with earlier | now
    · exact announced signal ready earlier ends
    · cases outside _ now
  | turned turn notes outcome silent turned =>
    rcases List.mem_append.mp told with earlier | now
    · exact announced signal ready earlier ends
    · have unsaid : signal ∈ (notes ++ outcome.written.map Note.wrote).filterMap Note.signal? :=
        List.mem_filterMap.mpr ⟨_, now, rfl⟩
      simp [turned.unsaid, Note.signal?] at unsaid
  | said report rest unsaid =>
    rcases List.mem_append.mp told with earlier | now
    · exact announced signal ready earlier ends
    · cases List.mem_singleton.mp now
      exact sound.unsaid report (by simp [unsaid]) ends

theorem Aside.due {t after : Traffic} (aside : t.Aside after) :
    after.signals = t.signals ∧
      after.history.filterMap Note.due? = t.history.filterMap Note.due? := by
  obtain ⟨notes, history, outside⟩ := aside.history
  have unsaid : notes.filterMap Note.signal? = [] :=
    List.filterMap_eq_nil_iff.mpr fun note member => Note.signal?_of_aside (outside note member)
  have undue : notes.filterMap Note.due? = [] :=
    List.filterMap_eq_nil_iff.mpr fun note member => Note.due?_of_aside (outside note member)
  exact ⟨by simp [signals, history, unsaid], by simp [history, undue]⟩

structure Truthful (generation : Nat) (t : Traffic) : Prop where
  sound : t.Sound
  announced : t.Announced
  bound : t.generation = generation
  source : ∀ signal ∈ t.signals, signal.generation = generation
  course : Report.Course t.socket.phase (t.history.filterMap Note.due?)
  told : t.signals.map Signal.report ++ t.unsaid = t.history.filterMap Note.due?

theorem truthful_fresh (generation : Nat) : Truthful generation (fresh generation) where
  sound := sound_fresh generation
  announced := by simp [Announced, fresh]
  bound := rfl
  source := by simp [signals, fresh]
  course := .early _ (.inl rfl)
  told := rfl

theorem Truthful.move {generation : Nat} {t : Traffic} (truthful : Truthful generation t)
    (move : Move) : Truthful generation (t.move move) := by
  have sound := truthful.sound.move move
  have announced := truthful.announced.move truthful.sound move
  obtain ⟨_, _, bound, source, course, told⟩ := truthful
  have stepped := t.move_stepped move
  generalize t.move move = after at stepped sound announced
  cases stepped with
  | aside aside =>
    obtain ⟨signals, due⟩ := aside.due
    exact ⟨sound, announced, aside.generation.trans bound, signals ▸ source,
      aside.phase ▸ due ▸ course, signals ▸ aside.unsaid ▸ due ▸ told⟩
  | turned turn notes outcome silent turned =>
    have due := turned.due
    have unsaid := turned.unsaid
    have undue := Note.filterMap_wrote (f := Note.due?) (fun _ => rfl) outcome.written
    have silently := Note.filterMap_wrote (f := Note.signal?) (fun _ => rfl) outcome.written
    refine ⟨sound, announced, bound, ?_, ?_, ?_⟩
    · simpa [signals, unsaid, silently] using source
    · simpa [due, undue] using turned.course course
    · rw [silent, List.append_nil] at told
      simp [signals, due, undue, unsaid, silently, ← told]
  | said report rest unsaid =>
    have signals : ({ t with unsaid := rest }.record
        [.said ⟨t.generation, report⟩ t.socket.ready]).signals =
          t.signals ++ [⟨t.generation, report⟩] := by simp [signals, Note.signal?]
    have due : ({ t with unsaid := rest }.record
        [.said ⟨t.generation, report⟩ t.socket.ready]).history.filterMap Note.due? =
          t.history.filterMap Note.due? := by simp [List.filterMap_cons, Note.due?]
    refine ⟨sound, announced, bound, ?_, due ▸ course, ?_⟩
    · rw [signals]
      exact List.forall_mem_append.mpr ⟨source, by simpa using bound⟩
    · rw [signals, due]
      simpa [unsaid] using told

theorem truthful_run (generation : Nat) (moves : List Move) :
    Truthful generation ((fresh generation).run moves) :=
  run_induction _ moves (fun _ move _ truthful => truthful.move move) (truthful_fresh generation)

theorem reports_form_word (generation : Nat) (moves : List Move) :
    let t := (fresh generation).run moves
    Report.Word (t.signals.map Signal.report) ∧
    (∀ signal ∈ t.signals, signal.generation = generation) ∧
    t.signals.map Signal.report ++ t.unsaid = t.history.filterMap Note.due? ∧
    (t.signals.map Signal.report).filterMap Report.text? ++ t.unsaid.filterMap Report.text? =
      t.history.filterMap Note.heard? ∧
    (∀ signal ready, .said signal ready ∈ t.history → signal.report.ends = true →
      ready = .closed) := by
  intro t
  have truthful : Truthful generation t := truthful_run generation moves
  refine ⟨?_, truthful.source, truthful.told, ?_, truthful.announced⟩
  · exact .of_append (truthful.told ▸ truthful.course.word)
  · rw [← List.filterMap_append, truthful.told, List.filterMap_filterMap]
    exact congrArg (t.history.filterMap ·) (funext Note.text_of_due?)

theorem reports_form_word_across_close :
    let moves : List Move := [.turn (.shakeHands .completed), .turn .check, .shut, .say,
      .turn (.read (.text "one")), .turn (.read .ping), .say, .turn (.read .ping), .wish, .shut,
      .turn (.read (.text "two")), .say, .turn (.read .close), .say, .turn (.read (.text "three"))]
    let t := (fresh 7).run moves
    Report.Word (t.signals.map Signal.report) ∧
      t.signals = [⟨7, .opened⟩, ⟨7, .message "one"⟩, ⟨7, .message "two"⟩, ⟨7, .closed⟩] ∧
      t.history.filterMap Note.heard? = ["one", "two"] := by
  intro moves t
  exact ⟨(reports_form_word 7 moves).1, by rfl, by rfl⟩

end Traffic

end HotReload
