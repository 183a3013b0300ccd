import HotReload.Proofs.Departure
import HotReload.Proofs.Regular
import HotReload.Proofs.Rest
import HotReload.Stage

set_option autoImplicit false

namespace HotReload

namespace Client

variable {τ : Type}

-- A start that panics ends the event loop with an opening that led to nothing.
structure Orderly (c : Client τ) : Prop where
  recorded : c.Recorded
  regular : c.phase ≠ .crashed → c.Regular
  vacant : c.phase = .stopped → c.connection.current = none

theorem Regular.orderly {c : Client τ} (regular : c.Regular) (going : c.phase ≠ .stopped) :
    c.Orderly :=
  ⟨regular.recorded, fun _ => regular, fun stopped => absurd stopped going⟩

theorem Beside.orderly {c after : Client τ} (beside : c.Beside after) (orderly : c.Orderly) :
    after.Orderly where
  recorded := beside.recorded orderly.recorded
  regular going := beside.regular (orderly.regular (beside.phase ▸ going))
  vacant stopped := by
    rw [beside.connection]
    exact orderly.vacant (beside.phase ▸ stopped)

variable [Transport τ] {c : Client τ}

theorem Regular.orderly_start (regular : c.Regular) (going : c.phase ≠ .stopped) :
    c.start.Orderly := by
  obtain ⟨recorded, started⟩ := regular.start
  refine ⟨recorded, started, fun stopped => ?_⟩
  rcases c.start_keeps.2.2 with same | crashed
  · exact absurd (same.symm.trans stopped) going
  · cases crashed.symm.trans stopped

theorem Regular.orderly_reconnect (regular : c.Regular) (going : c.phase ≠ .stopped)
    (generation : Nat) : (c.reconnect generation).Orderly := by
  obtain ⟨recorded, reconnected⟩ := regular.reconnect generation
  refine ⟨recorded, reconnected, fun stopped => ?_⟩
  rcases (c.reconnect_keeps generation).2.2 with same | crashed
  · exact absurd (same.symm.trans stopped) going
  · cases crashed.symm.trans stopped

theorem Regular.obey (regular : c.Regular) (running : c.phase = .running) (command : Command) :
    (c.obey command).Orderly := by
  have going : c.phase ≠ .stopped := by simp [running]
  cases command with
  | start => exact regular.orderly_start going
  | reconnect generation => exact regular.orderly_reconnect going generation
  | close => exact regular.disconnect.orderly (by rw [c.disconnect_keeps.2.2]; exact going)
  | shutdown =>
    have noted := regular.disconnect.record (.noted .loopEnded) rfl
    have halted : (c.obey .shutdown).Regular := ⟨noted.trace, noted.current⟩
    refine ⟨halted.recorded, fun _ => halted, fun _ => ?_⟩
    simp [Client.obey, halt, note, Client.record, disconnect_eq]

theorem Orderly.move (orderly : c.Orderly) (move : Move τ) : (c.move move).Orderly := by
  have moved := c.move_moved move
  generalize c.move move = after at moved ⊢
  cases moved with
  | beside _ beside => exact beside.orderly orderly
  | begun pending =>
    have regular := orderly.regular (by simp [pending])
    have begun : Regular { c with phase := .running } := ⟨regular.trace, regular.current⟩
    exact begun.orderly_start (by simp)
  | obeyed command rest running queued =>
    have regular := orderly.regular (by simp [running])
    have taken : Regular { c with commands := rest } := ⟨regular.trace, regular.current⟩
    exact taken.obey running command
  | handled signal rest running queued =>
    have regular := orderly.regular (by simp [running])
    have taken : Regular { c with inbox := { c.inbox with signals := rest } } :=
      ⟨regular.trace, regular.current⟩
    apply (taken.handle signal).orderly
    rw [(handle_keeps _ signal).2.2]
    simp [running]
  | fired index timer armed due =>
    unfold order
    have regular going : Regular { c with timers := c.timers.eraseIdx index } :=
      ⟨(orderly.regular going).trace, (orderly.regular going).current⟩
    split
    · exact ⟨orderly.recorded, fun going => ⟨(regular going).trace, (regular going).current⟩,
        orderly.vacant⟩
    · exact ⟨orderly.recorded, regular, orderly.vacant⟩

theorem Orderly.run (orderly : c.Orderly) (moves : List (Move τ)) : (c.run moves).Orderly :=
  run_induction (fun _ move holds => holds.move move) c moves orderly

omit [Transport τ] in
theorem orderly_spawn (nesting : Nat) (options : Options) (page : Page) (transport : τ)
    (subscribers : List Subscriber) : (spawn nesting options page transport subscribers).Orderly :=
  (regular_spawn nesting options page transport subscribers).orderly (by simp [spawn])

end Client

end HotReload
