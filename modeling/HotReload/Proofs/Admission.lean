import Mathlib.Data.List.Perm.Basic
import Mathlib.Data.List.TakeWhile
import HotReload.Proofs.Traffic

set_option autoImplicit false

namespace HotReload

open Socket (Note Turn Turned)

namespace Socket.Note

def put? : Note → Option String
  | .put data => some data
  | _ => none

-- The frame of somebody who found the socket open.
def admitted? : Note → Option String
  | .looked data .open => some data
  | _ => none

def isClosing : Note → Bool
  | .closing _ => true
  | _ => false

def isWished : Note → Bool
  | .wished => true
  | _ => false

def isPlain (note : Note) : Bool :=
  !note.isClosing && !note.isWished && note.admitted?.isNone

theorem isPlain_iff {note : Note} : note.isPlain = true ↔
    note.isClosing = false ∧ note ≠ .wished ∧ note.admitted? = none := by
  cases note <;> simp [isPlain, isClosing, isWished]

theorem isPlain_of_loop {note : Note} (ofLoop : note.isAside = false) : note.isPlain = true := by
  cases note <;> first | rfl | cases ofLoop

theorem put?_of_loop {note : Note} (ofLoop : note.isAside = false) : note.put? = none := by
  cases note <;> first | rfl | cases ofLoop

end Socket.Note

namespace Traffic

def sent (t : Traffic) : List String := t.history.filterMap Note.put?

def beforeClosing (t : Traffic) : List Note := t.history.takeWhile (!·.isClosing)

-- What happened before anybody had queued the command to close it.
def beforeWished (t : Traffic) : List Note := t.history.takeWhile (!·.isWished)

theorem beforeClosing_of_begun {t : Traffic} (begun : t.history.any Note.isClosing = true)
    (notes : List Note) : (t.record notes).beforeClosing = t.beforeClosing := by
  obtain ⟨note, member, closing⟩ := List.any_eq_true.mp begun
  obtain ⟨before, after, history⟩ := List.append_of_mem member
  simp [beforeClosing, record, history, List.takeWhile_append, closing]

theorem beforeClosing_of_going {t : Traffic} (going : t.history.any Note.isClosing = false)
    (notes : List Note) :
    (t.record notes).beforeClosing = t.beforeClosing ++ notes.takeWhile (!·.isClosing) := by
  have inside : ∀ note ∈ t.history, (!note.isClosing) = true := by simpa using going
  have all : t.beforeClosing = t.history := List.takeWhile_eq_self_iff.mpr inside
  rw [all]
  exact List.takeWhile_append_of_pos inside

theorem beforeClosing_record (t : Traffic) (notes : List Note) :
    ∃ more, (t.record notes).beforeClosing = t.beforeClosing ++ more ∧ more <+: notes := by
  cases begun : t.history.any Note.isClosing with
  | true => exact ⟨[], by simp [beforeClosing_of_begun begun], List.nil_prefix⟩
  | false => exact ⟨_, beforeClosing_of_going begun notes, List.takeWhile_prefix _⟩

structure Admission (t : Traffic) : Prop where
  shut : t.history.any Note.isClosing = true → t.socket.isShut = true
  begun : t.closers ≠ 0 → t.history.any Note.isClosing = true
  wished : .wished ∉ t.beforeClosing
  admitted : (t.sent ++ t.unsent).Perm (t.beforeClosing.filterMap Note.admitted?)

theorem admission_fresh (generation : Nat) : (fresh generation).Admission where
  shut := by simp [fresh]
  begun := by simp [fresh]
  wished := by simp [fresh, beforeClosing]
  admitted := by simp [fresh, beforeClosing, sent]

theorem Admission.plain {t after : Traffic} (admission : t.Admission) {notes : List Note}
    (history : after.history = t.history ++ notes) (plain : ∀ note ∈ notes, note.isPlain = true)
    (shut : t.socket.isShut = true → after.socket.isShut = true)
    (closers : after.closers = t.closers)
    (put : (notes.filterMap Note.put? ++ after.unsent).Perm t.unsent) : after.Admission := by
  obtain ⟨more, before, some⟩ := t.beforeClosing_record notes
  have same : after.beforeClosing = t.beforeClosing ++ more := by
    rw [← before]
    simp [beforeClosing, history]
  have inside note (member : note ∈ more) := Note.isPlain_iff.mp (plain note (some.mem member))
  have unbegun : notes.any Note.isClosing = false :=
    List.any_eq_false.mpr fun note member => by simp [(Note.isPlain_iff.mp (plain note member)).1]
  have begun : after.history.any Note.isClosing = t.history.any Note.isClosing := by
    rw [history, List.any_append, unbegun, Bool.or_false]
  refine ⟨fun closing => shut (admission.shut (begun ▸ closing)),
    fun some => begun ▸ admission.begun (closers ▸ some), fun wished => ?_, ?_⟩
  · rcases List.mem_append.mp (same ▸ wished) with earlier | now
    · exact admission.wished earlier
    · exact (inside _ now).2.1 rfl
  · have nobody : more.filterMap Note.admitted? = [] :=
      List.filterMap_eq_nil_iff.mpr fun note member => (inside note member).2.2
    rw [same, List.filterMap_append, nobody, List.append_nil, sent, history,
      List.filterMap_append, List.append_assoc]
    exact (put.append_left t.sent).trans admission.admitted

theorem Admission.going {t : Traffic} (admission : t.Admission) (unshut : t.socket.isShut = false) :
    t.history.any Note.isClosing = false := by
  cases begun : t.history.any Note.isClosing with
  | true => cases unshut.symm.trans (admission.shut begun)
  | false => rfl

theorem Admission.waiting {t : Traffic} (admission : t.Admission) (data : String)
    (isOpen : t.socket.ready = .open) :
    ({ t with unsent := t.unsent ++ [data] }.record [.looked data .open]).Admission := by
  have going : t.history.any Note.isClosing = false :=
    admission.going (by simp [Socket.isShut, isOpen])
  have same : ({ t with unsent := t.unsent ++ [data] }.record [.looked data .open]).beforeClosing =
      t.beforeClosing ++ [.looked data .open] := beforeClosing_of_going going _
  refine ⟨fun begun => ?_, fun some => ?_, ?_, ?_⟩
  · simp [going, Note.isClosing] at begun
  · cases going.symm.trans (admission.begun some)
  · rw [same]
    simpa using admission.wished
  · have sent : ({ t with unsent := t.unsent ++ [data] }.record [.looked data .open]).sent =
      t.sent := by simp [sent, Note.put?]
    rw [same, sent, List.filterMap_append, record_unsent, ← List.append_assoc]
    exact admission.admitted.append_right [data]

theorem Admission.closing {t after : Traffic} (admission : t.Admission) {found : ReadyState}
    (history : after.history = t.history ++ [.closing found])
    (shut : after.socket.isShut = true) (unsent : after.unsent = t.unsent) : after.Admission := by
  have same : after.beforeClosing = t.beforeClosing := by
    have same : (t.record [.closing found]).beforeClosing = t.beforeClosing := by
      cases begun : t.history.any Note.isClosing with
      | true => exact beforeClosing_of_begun begun _
      | false => simp [beforeClosing_of_going begun, Note.isClosing]
    rw [← same]
    simp [beforeClosing, history]
  refine ⟨fun _ => shut, fun _ => by simp [history, Note.isClosing], same ▸ admission.wished, ?_⟩
  have sent : after.sent = t.sent := by simp [sent, history, Note.put?]
  rw [same, sent, unsent]
  exact admission.admitted

theorem Admission.wish {t : Traffic} (admission : t.Admission) {closers : Nat}
    (begun : t.closers = closers + 1) :
    ({ t with socket := t.socket.queue .close, closers }.record [.wished]).Admission := by
  have begun : t.history.any Note.isClosing = true := admission.begun (by simp [begun])
  have same : ({ t with socket := t.socket.queue .close, closers }.record [.wished]).beforeClosing =
      t.beforeClosing := beforeClosing_of_begun (t := { t with }) begun _
  have shut : (t.socket.queue .close).isShut = true := by
    simpa [Socket.isShut, Socket.queue_ready] using admission.shut begun
  refine ⟨fun _ => shut, fun _ => by simp [begun], same ▸ admission.wished, ?_⟩
  have sent : ({ t with socket := t.socket.queue .close, closers }.record [.wished]).sent =
    t.sent := by simp [sent, Note.put?]
  rw [same, sent]
  exact admission.admitted

theorem Admission.move {t : Traffic} (admission : t.Admission) (move : Move)
    (looking : ∀ data, move ≠ .send data) : (t.move move).Admission := by
  have passed := t.move_passed move
  generalize t.move move = after at passed
  cases passed with
  | refused => exact admission
  | waiting data isOpen => exact admission.waiting data isOpen
  | missed data other =>
    have plain : (Note.looked data t.socket.ready).isPlain = true := by
      cases ready : t.socket.ready <;> first | rfl | exact absurd ready other
    exact admission.plain rfl (by simpa using plain) id rfl (.refl _)
  | put index data waiting =>
    obtain ⟨bound, rfl⟩ := List.getElem?_eq_some_iff.mp waiting
    have plain : (Note.put t.unsent[index]).isPlain = true := rfl
    have shut : (t.socket.send t.unsent[index]).isShut = t.socket.isShut := by
      simp [Socket.isShut, Socket.send, Socket.queue_ready]
    exact admission.plain rfl (by simpa using plain) shut.trans rfl
      (List.getElem_cons_eraseIdx_perm bound)
  | sent data => exact absurd rfl (looking data)
  | shut fresh => exact admission.closing rfl rfl rfl
  | shutAgain shut => exact admission.closing rfl (decide_eq_true shut) rfl
  | wished closers begun => exact admission.wish begun
  | released => exact ⟨admission.shut, admission.begun, admission.wished, admission.admitted⟩
  | turned turn notes outcome silent made turned =>
    have nothing := turned.filterMap_eq_nil fun _ => Note.put?_of_loop
    exact admission.plain rfl (fun note member => Note.isPlain_of_loop (turned.ofLoop note member))
      turned.shut rfl (nothing ▸ .refl _)
  | said report rest unsaid =>
    have plain : (Note.said ⟨t.generation, report⟩ t.socket.ready).isPlain = true := rfl
    exact admission.plain rfl (by simpa using plain) id rfl (.refl _)

theorem Admission.inOrder {t : Traffic} (admission : t.Admission) :
    t.beforeClosing <+: t.beforeWished := by
  have unwished : ∀ note ∈ t.beforeClosing, (!note.isWished) = true := by
    intro note member
    cases note with
    | wished => exact absurd member admission.wished
    | _ => rfl
  have parts : t.beforeClosing ++ t.history.dropWhile (!·.isClosing) = t.history :=
    List.takeWhile_append_dropWhile
  rw [beforeWished, ← parts, List.takeWhile_append_of_pos unwished]
  exact List.prefix_append _ _

end Traffic

end HotReload
