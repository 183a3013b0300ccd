import HotReload.Proofs.Traffic

set_option autoImplicit false

namespace HotReload

namespace ReadyState

theorem rank_le_closed (ready : ReadyState) : ready.rank ≤ closed.rank := by
  cases ready <;> decide

theorem eq_closed_of_rank_le {ready : ReadyState} (last : closed.rank ≤ ready.rank) :
    ready = .closed := by
  cases ready with
  | closed => rfl
  | connecting | «open» | closing => exact absurd last (by decide)

end ReadyState

namespace Socket

def Note.isWish : Note → Bool
  | .wished => true
  | _ => false

theorem Ongoing.rank_le {s : Socket} {after : Outcome} (ongoing : s.Ongoing after) :
    s.ready.rank ≤ after.socket.ready.rank := by
  rcases ongoing.onward with same | ⟨connecting, isOpen⟩ | closed
  · exact Nat.le_of_eq (congrArg _ same.symm)
  · rw [connecting, isOpen]
    decide
  · rw [closed]
    exact s.ready.rank_le_closed

theorem Turned.commands_suffix {s : Socket} {turn : Turn} {notes : List Note} {outcome : Outcome}
    (turned : s.Turned turn notes outcome) : outcome.socket.commands <:+ s.commands := by
  cases turned with
  | refused | shaken | opened | heard | passed => exact List.suffix_refl _
  | failed | aborted | ended | cancelled | closed | left => exact List.nil_suffix
  | dropped data rest early queued | wrote data rest isOpen queued =>
    rw [queued]
    exact List.suffix_cons _ rest

theorem Turned.isWish {s : Socket} {turn : Turn} {notes : List Note} {outcome : Outcome}
    (turned : s.Turned turn notes outcome) :
    (notes ++ outcome.written.map Note.wrote).countP Note.isWish = 0 := by
  refine List.countP_eq_zero.mpr fun note member => ?_
  have ofLoop := turned.ofLoop note member
  cases note <;> simp_all [Note.isWish, Note.isAside]

end Socket

namespace Traffic

open Socket (Note)

def wishes (t : Traffic) : Nat := t.history.countP Note.isWish

theorem wishes_record (t : Traffic) (notes : List Note) :
    (t.record notes).wishes = t.wishes + notes.countP Note.isWish := by
  simp [wishes, List.countP_append]

theorem rank_le_move {t : Traffic} (sound : t.Sound) (move : Move) :
    t.socket.ready.rank ≤ (t.move move).socket.ready.rank := by
  have passed := t.move_passed move
  generalize t.move move = after at passed
  cases passed with
  | refused | waiting | missed | shutAgain | released | said => exact Nat.le_refl _
  | put | sent | wished => exact Nat.le_of_eq (congrArg _ (t.socket.queue_ready _).symm)
  | shut fresh =>
    rcases fresh with connecting | isOpen
    · simp [connecting, ReadyState.rank]
    · simp [isOpen, ReadyState.rank]
  | turned turn notes outcome silent made turned =>
    have ongoing : t.socket.Ongoing outcome :=
      made ▸ Socket.ongoing_step sound.socket turn.move (by cases turn <;> nofun)
    exact ongoing.rank_le

theorem rank_le_run {t : Traffic} (sound : t.Sound) (moves : List Move) :
    t.socket.ready.rank ≤ (t.run moves).socket.ready.rank := by
  induction moves generalizing t with
  | nil => exact Nat.le_refl _
  | cons move rest ih => exact Nat.le_trans (rank_le_move sound move) (ih (sound.move move))

structure ClosedOnce (t : Traffic) : Prop where
  once : t.closers + t.wishes ≤ 1
  unwanted : t.socket.isShut = false → t.closers + t.wishes = 0
  queued : t.socket.commands.count .close ≤ t.wishes

theorem ClosedOnce.queue {t : Traffic} (queued : t.socket.commands.count .close ≤ t.wishes)
    (command : Socket.Command) :
    (t.socket.queue command).commands.count .close ≤ t.wishes + [command].count .close := by
  unfold Socket.queue
  split
  next => omega
  next => simpa [List.count_append] using queued

-- Only the move that begins a close wants one more, and it finds that none was wanted before.
theorem ClosedOnce.move {t : Traffic} (closedOnce : t.ClosedOnce) (move : Move) :
    (t.move move).ClosedOnce := by
  obtain ⟨once, unwanted, queued⟩ := closedOnce
  have passed := t.move_passed move
  generalize t.move move = after at passed
  have same {after : Traffic} (closers : after.closers + after.wishes = t.closers + t.wishes)
      (shut : t.socket.isShut = true → after.socket.isShut = true)
      (queued : after.socket.commands.count .close ≤ after.wishes) : after.ClosedOnce := by
    refine ⟨closers ▸ once, fun active => closers ▸ unwanted ?_, queued⟩
    cases before : t.socket.isShut with
    | false => rfl
    | true => cases active.symm.trans (shut before)
  have ready (command : Socket.Command) :
      (t.socket.queue command).isShut = t.socket.isShut := by
    simp [Socket.isShut, Socket.queue_ready]
  cases passed with
  | refused | released => exact ⟨once, unwanted, queued⟩
  | waiting | missed | shutAgain | said =>
    refine same ?_ id ?_
    · simp [wishes, Note.isWish]
    · simpa [wishes, Note.isWish] using queued
  | put | sent =>
    refine same ?_ (ready _ ▸ id) ?_
    · simp [wishes, Note.isWish]
    · simpa [wishes, Note.isWish, Socket.send] using ClosedOnce.queue queued (.send _)
  | shut fresh =>
    have none : t.closers + t.wishes = 0 := unwanted (by
      rcases fresh with fresh | fresh <;> simp [Socket.isShut, fresh])
    refine ⟨?_, fun active => (by cases active), ?_⟩
    · have noted : [Note.closing t.socket.ready].countP Note.isWish = 0 := rfl
      simp only [wishes_record, record_closers, noted]
      change t.closers + 1 + (t.wishes + 0) ≤ 1
      omega
    · simpa [wishes, Note.isWish] using queued
  | wished closers begun =>
    refine same ?_ (ready _ ▸ id) ?_
    · have noted : [Note.wished].countP Note.isWish = 1 := rfl
      simp only [wishes_record, record_closers, noted, begun]
      change closers + (t.wishes + 1) = closers + 1 + t.wishes
      omega
    · simpa [wishes, Note.isWish] using ClosedOnce.queue queued .close
  | turned turn notes outcome silent made turned =>
    have unwished := turned.isWish
    refine same ?_ turned.shut ?_
    · simp only [wishes_record, record_closers, unwished]
      rfl
    · rw [wishes_record, unwished]
      exact Nat.le_trans (turned.commands_suffix.sublist.count_le _) queued

theorem closedOnce_run (generation : Nat) (moves : List Move) :
    ((fresh generation).run moves).ClosedOnce :=
  run_induction _ moves (fun _ move _ closedOnce => closedOnce.move move)
    ⟨Nat.zero_le 1, fun _ => rfl, Nat.le_refl 0⟩

theorem run_append (t : Traffic) (earlier later : List Move) :
    t.run (earlier ++ later) = (t.run earlier).run later := by
  simp [run, List.foldl_append]

theorem closed_of_ended {t : Traffic} (sound : t.Sound) (ended : t.socket.phase = .ended) :
    t.socket.ready = .closed := by
  cases ready : t.socket.ready with
  | closed => rfl
  | connecting =>
    rcases sound.socket.connecting ready with phase | phase <;> cases ended.symm.trans phase
  | «open» => cases ended.symm.trans (sound.socket.opened ready)
  | closing => exact absurd ended (sound.socket.closing ready)

theorem ready_moves_forward (generation : Nat) (earlier later : List Move) :
    let t := (fresh generation).run earlier
    let after := t.run later
    t.socket.ready.rank ≤ after.socket.ready.rank ∧
    after.wishes ≤ 1 ∧
    after.socket.commands.count .close ≤ after.wishes ∧
    (t.socket.phase = .ended → t.socket.ready = .closed ∧ after.socket.ready = .closed) := by
  intro t after
  have sound : t.Sound := sound_run generation earlier
  have forward : t.socket.ready.rank ≤ after.socket.ready.rank := rank_le_run sound later
  have closedOnce : after.ClosedOnce := by
    have whole := closedOnce_run generation (earlier ++ later)
    rwa [run_append] at whole
  refine ⟨forward, Nat.le_trans (Nat.le_add_left _ _) closedOnce.once, closedOnce.queued, ?_⟩
  intro ended
  have closed : t.socket.ready = .closed := closed_of_ended sound ended
  exact ⟨closed, ReadyState.eq_closed_of_rank_le (closed ▸ forward)⟩

theorem ready_moves_forward_past_end :
    let earlier : List Move := [.turn (.shakeHands .completed), .shut, .shut, .wish,
      .turn .check]
    let later : List Move := [.shut, .wish, .look "late", .send "late", .turn .takeCommand]
    let t := (fresh 2).run earlier
    let after := t.run later
    t.socket.phase = .ended ∧ after.wishes = 1 ∧ after.socket.ready = .closed := by
  intro earlier later t after
  have ended : t.socket.phase = .ended := rfl
  obtain ⟨_, _, _, closed⟩ := ready_moves_forward 2 earlier later
  exact ⟨ended, rfl, (closed ended).2⟩

end Traffic

end HotReload
