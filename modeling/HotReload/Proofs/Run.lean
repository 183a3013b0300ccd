import HotReload.Proofs.Transition

set_option autoImplicit false

namespace HotReload

inductive Move (τ : Type) where
  | begin
  | command
  | signal
  | wait (nanoseconds : Nat)
  | fire (index : Nat)
  | report (generation : Nat) (report : Report)
  -- What sockets do of their own accord is left to them.
  | shift (transport : τ)
  | restart
  | close
  | abandon
  | send (data : String)
  | register (subscriber : Subscriber)
  -- Somebody else uses the bus.
  | publish (envelope : Envelope)

def Move.isOfLoop {τ : Type} : Move τ → Bool
  | .begin => true
  | .command => true
  | .signal => true
  | .fire _ => true
  | _ => false

theorem Timer.next?_eq_some {deadline : Nat} {timers others : List Timer} {timer : Timer}
    (found : next? deadline timers = some (timer, others)) :
    ∃ index : Nat, timers[index]? = some timer ∧ others = timers.eraseIdx index := by
  induction timers generalizing timer others with
  | nil => cases found
  | cons first rest ih =>
    simp only [next?] at found
    split at found
    next earliest remaining later =>
      split at found
      next => cases found; exact ⟨0, rfl, rfl⟩
      next =>
        cases found
        obtain ⟨index, armed, rfl⟩ := ih later
        exact ⟨index + 1, by simpa using armed, rfl⟩
    next =>
      split at found
      next => cases found; exact ⟨0, rfl, rfl⟩
      next => cases found

namespace Client

variable {τ : Type}

section moves

variable [Transport τ]

def move (c : Client τ) : Move τ → Client τ
  | .begin => if c.phase = .pending then { c with phase := .running }.start else c
  | .command => if c.phase = .running then c.takeCommand?.getD c else c
  | .signal => if c.phase = .running then c.takeSignal?.getD c else c
  | .wait nanoseconds => { c with now := c.now + nanoseconds }
  | .fire index =>
    match c.timers[index]? with
    | some timer =>
      if timer.due ≤ c.now then
        { c with timers := c.timers.eraseIdx index }.order (.reconnect timer.generation)
      else c
    | none => c
  | .report generation report => c.emit generation report
  | .shift transport => { c with transport }
  | .restart => c.restart
  | .close => c.close
  | .abandon => c.abandon
  | .send data => c.send data
  | .register subscriber => c.register subscriber
  | .publish envelope => (dispatch (c.config.nesting + 1) envelope c).1

def run (c : Client τ) (moves : List (Move τ)) : Client τ := moves.foldl move c

@[simp] theorem run_nil (c : Client τ) : c.run [] = c := rfl

@[simp] theorem run_cons (c : Client τ) (move : Move τ) (rest : List (Move τ)) :
    c.run (move :: rest) = (c.move move).run rest := rfl

theorem run_append (c : Client τ) (moves others : List (Move τ)) :
    c.run (moves ++ others) = (c.run moves).run others := List.foldl_append

theorem run_induction {P : Client τ → Prop} (step : ∀ c move, P c → P (c.move move))
    (c : Client τ) (moves : List (Move τ)) (holds : P c) : P (c.run moves) := by
  induction moves generalizing c with
  | nil => exact holds
  | cons move rest ih => exact ih (c.move move) (step c move holds)

end moves

variable [Transport τ]

section queues

omit [Transport τ]

def obeyed? (c : Client τ) : Move τ → Option Command
  | .command => if c.phase = .running then c.commands.head? else none
  | _ => none

def heeded? (c : Client τ) : Move τ → Option Signal
  | .signal => if c.phase = .running then c.inbox.signals.head? else none
  | _ => none

def starts (c : Client τ) (move : Move τ) : Bool :=
  match move, c.obeyed? move with
  | .begin, _ => c.phase = .pending
  | _, some .start => true
  | _, some (.reconnect generation) => c.connection.awaits generation
  | _, _ => false

end queues

inductive Passed (c : Client τ) : Move τ → Client τ → Prop where
  | beside (move : Move τ) (outside : move.isOfLoop = false) : Passed c move (c.move move)
  | refused (move : Move τ) (inside : move.isOfLoop = true) (idle : c.obeyed? move = none)
    (deaf : c.heeded? move = none) (still : c.starts move = false) : Passed c move c
  | begun (pending : c.phase = .pending) : Passed c .begin { c with phase := .running }.start
  | obeyed (command : Command) (rest : List Command) (running : c.phase = .running)
    (queued : c.commands = command :: rest) :
    Passed c .command ({ c with commands := rest }.obey command)
  | handled (signal : Signal) (rest : List Signal) (running : c.phase = .running)
    (queued : c.inbox.signals = signal :: rest) :
    Passed c .signal ({ c with inbox := { c.inbox with signals := rest } }.handle signal)
  | fired (index : Nat) (timer : Timer) (armed : c.timers[index]? = some timer)
    (due : timer.due ≤ c.now) :
    Passed c (.fire index)
      ({ c with timers := c.timers.eraseIdx index }.order (.reconnect timer.generation))

theorem move_passed (c : Client τ) (move : Move τ) : c.Passed move (c.move move) := by
  cases move with
  | begin =>
    simp only [Client.move]
    split
    next pending => exact .begun pending
    next begun => exact .refused _ rfl rfl rfl (by simp [starts, begun])
  | command =>
    simp only [Client.move, takeCommand?]
    split
    next running =>
      split
      next command rest queued => exact .obeyed command rest running queued
      next empty =>
        have idle : c.obeyed? .command = none := by simp [obeyed?, empty]
        exact .refused _ rfl idle rfl (by simp [starts, idle])
    next stopped =>
      have idle : c.obeyed? .command = none := by simp [obeyed?, stopped]
      exact .refused _ rfl idle rfl (by simp [starts, idle])
  | signal =>
    simp only [Client.move, takeSignal?]
    split
    next running =>
      split
      next signal rest queued => exact .handled signal rest running queued
      next empty => exact .refused _ rfl rfl (by simp [heeded?, empty]) rfl
    next stopped => exact .refused _ rfl rfl (by simp [heeded?, stopped]) rfl
  | fire index =>
    simp only [Client.move]
    split
    next timer armed =>
      split
      next due => exact .fired index timer armed due
      next => exact .refused _ rfl rfl rfl rfl
    next => exact .refused _ rfl rfl rfl rfl
  | _ => exact .beside _ rfl

theorem beside_move (c : Client τ) (move : Move τ) (outside : move.isOfLoop = false) :
    c.Beside (c.move move) := by
  cases move with
  | begin => cases outside
  | command => cases outside
  | signal => cases outside
  | wait nanoseconds =>
    exact ⟨rfl, rfl, rfl, rfl, ⟨[], by simp [Client.move]⟩, ⟨[], by simp [Client.move]⟩⟩
  | fire index => cases outside
  | report generation report => exact c.beside_emit generation report
  | shift transport =>
    exact ⟨rfl, rfl, rfl, rfl, ⟨[], by simp [Client.move]⟩, ⟨[], by simp [Client.move]⟩⟩
  | restart => exact c.beside_order .start rfl
  | close => exact c.beside_order .close rfl
  | abandon => exact c.beside_order .shutdown rfl
  | send data => exact ((CalledBack.refl c).send data).beside
  | register subscriber => exact ((CalledBack.refl c).register subscriber).beside
  | publish envelope => exact (c.calledBack_dispatch _ envelope).beside

theorem unmoved_fire (c : Client τ) (index : Nat) : c.Unmoved (c.move (.fire index)) := by
  simp only [move]
  split
  next timer armed =>
    split
    next due =>
      obtain ⟨commands, same⟩ :=
        { c with timers := c.timers.eraseIdx index }.order_eq (.reconnect timer.generation)
      rw [same]
      exact ⟨rfl, rfl, rfl, [], by simp, by simp⟩
    next => exact .refl c
  next => exact .refl c

inductive Moved (c : Client τ) : Client τ → Prop where
  | beside (after : Client τ) (beside : c.Beside after) : Moved c after
  | begun (pending : c.phase = .pending) : Moved c { c with phase := .running }.start
  | obeyed (command : Command) (rest : List Command) (running : c.phase = .running)
    (queued : c.commands = command :: rest) :
    Moved c ({ c with commands := rest }.obey command)
  | handled (signal : Signal) (rest : List Signal) (running : c.phase = .running)
    (queued : c.inbox.signals = signal :: rest) :
    Moved c ({ c with inbox := { c.inbox with signals := rest } }.handle signal)
  | fired (index : Nat) (timer : Timer) (armed : c.timers[index]? = some timer)
    (due : timer.due ≤ c.now) :
    Moved c ({ c with timers := c.timers.eraseIdx index }.order (.reconnect timer.generation))

theorem move_moved (c : Client τ) (move : Move τ) : c.Moved (c.move move) := by
  have passed := c.move_passed move
  generalize c.move move = after at passed ⊢
  cases passed with
  | beside move outside => exact .beside _ (c.beside_move move outside)
  | refused move inside idle deaf still => exact .beside _ (CalledBack.refl c).beside
  | begun pending => exact .begun pending
  | obeyed command rest running queued => exact .obeyed command rest running queued
  | handled signal rest running queued => exact .handled signal rest running queued
  | fired index timer armed due => exact .fired index timer armed due

theorem obey_keeps (c : Client τ) (command : Command) :
    (c.obey command).config = c.config ∧
      c.connection.generation ≤ (c.obey command).connection.generation := by
  obtain ⟨closedConfig, closedLater, _⟩ := c.disconnect_keeps
  have closed := Nat.le_trans (Nat.le_succ _) (Nat.le_of_eq closedLater.symm)
  cases command with
  | start =>
    obtain ⟨config, later, _⟩ := c.start_keeps
    exact ⟨config, Nat.le_trans (Nat.le_succ _) (Nat.le_of_eq later.symm)⟩
  | reconnect generation =>
    obtain ⟨config, later, _⟩ := c.reconnect_keeps generation
    exact ⟨config, later⟩
  | close => exact ⟨closedConfig, closed⟩
  | shutdown => exact ⟨closedConfig, closed⟩

theorem move_keeps (c : Client τ) (move : Move τ) :
    (c.move move).config = c.config ∧
      c.connection.generation ≤ (c.move move).connection.generation := by
  have moved := c.move_moved move
  generalize c.move move = after at moved ⊢
  cases moved with
  | beside _ beside => exact ⟨beside.config, Nat.le_of_eq (by rw [beside.connection])⟩
  | begun pending =>
    obtain ⟨config, later, _⟩ := { c with phase := .running }.start_keeps
    exact ⟨config, Nat.le_trans (Nat.le_succ _) (Nat.le_of_eq later.symm)⟩
  | obeyed command rest running queued => exact { c with commands := rest }.obey_keeps command
  | handled signal rest running queued =>
    obtain ⟨config, same, _⟩ :=
      { c with inbox := { c.inbox with signals := rest } }.handle_keeps signal
    exact ⟨config, Nat.le_of_eq same.symm⟩
  | fired index timer armed due =>
    unfold order
    split <;> exact ⟨rfl, Nat.le_refl _⟩

theorem run_keeps (c : Client τ) (moves : List (Move τ)) :
    (c.run moves).config = c.config ∧
      c.connection.generation ≤ (c.run moves).connection.generation := by
  induction moves generalizing c with
  | nil => exact ⟨rfl, Nat.le_refl _⟩
  | cons move rest ih =>
    obtain ⟨config, later⟩ := c.move_keeps move
    obtain ⟨restConfig, restLater⟩ := ih (c.move move)
    exact ⟨restConfig.trans config, Nat.le_trans later restLater⟩

section adequacy

theorem turn?_eq_run {c after : Client τ} (turned : c.turn? = some after) :
    ∃ moves, after = c.run moves := by
  unfold turn? at turned
  cases phase : c.phase with
  | pending =>
    simp only [phase, Option.some.injEq] at turned
    exact ⟨[.begin], by simp [run, move, phase, turned]⟩
  | running =>
    simp only [phase] at turned
    split at turned
    next next taken =>
      cases turned
      exact ⟨[.command], by simp [run, move, phase, taken]⟩
    next => exact ⟨[.signal], by simp [run, move, phase, turned]⟩
  | stopped => simp [phase] at turned
  | crashed => simp [phase] at turned

theorem settle_eq_run (turns : Nat) (c : Client τ) : ∃ moves, settle turns c = c.run moves := by
  induction turns generalizing c with
  | zero => exact ⟨[], rfl⟩
  | succ turns ih =>
    simp only [settle]
    split
    next next turned =>
      obtain ⟨first, rfl⟩ := turn?_eq_run turned
      obtain ⟨rest, settled⟩ := ih (c.run first)
      exact ⟨first ++ rest, by rw [settled, run_append]⟩
    next => exact ⟨[], rfl⟩

theorem fireUntil_eq_run (deadline turns bound : Nat) (c : Client τ) :
    ∃ moves, fireUntil deadline turns bound c = c.run moves := by
  induction bound generalizing c with
  | zero => exact ⟨[], rfl⟩
  | succ bound ih =>
    simp only [fireUntil]
    split
    next timer timers found =>
      obtain ⟨index, armed, rfl⟩ := Timer.next?_eq_some found
      -- Waiting takes the clock to where the timer is due, unless it is there already.
      have fired : { c with now := max c.now timer.due, timers := c.timers.eraseIdx index }.order
          (.reconnect timer.generation) =
            c.run [.wait (timer.due - c.now), .fire index] := by
        have later : c.now + (timer.due - c.now) = max c.now timer.due := by omega
        have due : timer.due ≤ max c.now timer.due := Nat.le_max_right _ _
        simp only [run, List.foldl_cons, List.foldl_nil, move, armed, later, due, if_true]
      rw [fired]
      obtain ⟨settling, settled⟩ := settle_eq_run turns
        (c.run [.wait (timer.due - c.now), .fire index])
      rw [settled]
      obtain ⟨rest, firing⟩ := ih ((c.run [.wait (timer.due - c.now), .fire index]).run settling)
      exact ⟨_ ++ settling ++ rest, by rw [firing, run_append, run_append]⟩
    next => exact ⟨[], rfl⟩

end adequacy

end Client

end HotReload
