import HotReload.Proofs.Glimpse

set_option autoImplicit false

namespace HotReload

def Move.takesCommand {τ : Type} : Move τ → Bool
  | .command => true
  | _ => false

namespace Client

variable {τ : Type}

def due? (c : Client τ) (index : Nat) : Option Timer :=
  c.timers[index]?.filter fun timer => timer.due ≤ c.now

variable [Transport τ]

def ordered (c : Client τ) : Move τ → List Command
  | .restart => [.start]
  | .close => [.close]
  | .abandon => [.shutdown]
  | .fire index => (c.due? index).toList.map fun timer => .reconnect timer.generation
  | move => (c.glimpses move).filterMap Glimpse.command?

def Balks (τ : Type) [Transport τ] (url : String) : Prop :=
  ∃ (transport left : τ) (generation : Nat),
    Transport.openSocket transport generation url = .panicked left

-- The commands that a running client has got are obeyed in the course of these moves.
structure Serves (c : Client τ) (moves : List (Move τ)) : Prop where
  -- In order, and each of them once.
  inOrder : c.obeyed moves <+: c.commands ++ c.collect ordered moves
  -- While the event loop lives, none of them is lost.
  kept : (c.run moves).isLive = true →
    c.commands ++ c.collect ordered moves = c.obeyed moves ++ (c.run moves).commands
  -- The loop has come to those that wait now once it has taken as many.
  reached : (c.run moves).isLive = true →
    c.commands.length ≤ moves.countP Move.takesCommand → c.commands <+: c.obeyed moves
  ended : (c.run moves).isLive = true ∨
    ((c.run moves).phase = .stopped ∧ ∃ earlier, c.obeyed moves = earlier ++ [.shutdown]) ∨
    ((c.run moves).phase = .crashed ∧ Balks τ c.config.url)

section step

omit [Transport τ] in
theorem isLive_of_phase {c after : Client τ} (phase : after.phase = c.phase) :
    after.isLive = c.isLive := by
  simp only [isLive, phase]

theorem start_commands (c : Client τ) (going : c.start.isLive = true) :
    c.start.commands = c.commands := by
  have started := c.start_started
  generalize c.start = after at started going ⊢
  cases started with
  | returned transport reports opening => rfl
  | panicked transport opening => simp [isLive] at going

theorem obey_commands (c : Client τ) (command : Command) (going : (c.obey command).isLive = true) :
    (c.obey command).commands = c.commands := by
  cases command with
  | start => exact c.start_commands going
  | reconnect generation =>
    simp only [obey, reconnect] at going ⊢
    split
    next awaited =>
      simp only [awaited, if_true] at going
      exact start_commands _ going
    next => rfl
  | close =>
    simp only [obey, disconnect_eq]
  | shutdown => simp [obey, halt, isLive] at going

theorem actAll_queue (c : Client τ) (actions : List Action) :
    (actions.foldl act c).commands = c.commands ∧ (actions.foldl act c).phase = c.phase := by
  induction actions generalizing c with
  | nil => exact ⟨rfl, rfl⟩
  | cons action rest ih =>
    obtain ⟨commands, phase⟩ := ih (c.act action)
    cases action with
    | note | close | arm => exact ⟨commands, phase⟩

theorem received_queue (c : Client τ) (signal : Signal) :
    (c.received signal).commands = c.commands ∧ (c.received signal).phase = c.phase :=
  actAll_queue { c with connection := (c.connection.receive c.config signal).connection } _

structure Lasts (c after : Client τ) (command? : Option Command) : Prop where
  running : after.isLive = true → c.phase = .running → after.phase = .running
  ended : c.isLive = true → after.isLive = true ∨
    (after.phase = .stopped ∧ command? = some .shutdown) ∨
    (after.phase = .crashed ∧ Balks τ c.config.url)
  still : c.isLive = false → after.phase = c.phase

theorem Lasts.of_phase {c after : Client τ} (command? : Option Command)
    (phase : after.phase = c.phase) : c.Lasts after command? :=
  ⟨fun _ running => phase.trans running, fun live => .inl (by rwa [isLive_of_phase phase]),
    fun _ => phase⟩

theorem lasts_start {c : Client τ} (live : c.isLive = true) (command? : Option Command) :
    c.Lasts c.start command? := by
  have started := c.start_started
  generalize c.start = after at started ⊢
  cases started with
  | returned transport reports opening => exact .of_phase _ rfl
  | panicked transport opening =>
    exact {
      running := fun going => by simp [isLive] at going
      ended := fun _ => .inr (.inr ⟨rfl, _, _, _, opening⟩)
      still := fun ended => by cases live.symm.trans ended }

theorem lasts_obey {c : Client τ} (live : c.isLive = true) (command : Command) :
    c.Lasts (c.obey command) (some command) := by
  cases command with
  | start => exact lasts_start live _
  | reconnect generation =>
    simp only [obey, reconnect]
    split
    · have started := lasts_start (c := c.note (.reconnecting generation)) live
        (some (.reconnect generation))
      exact ⟨started.running, started.ended, started.still⟩
    · exact .of_phase _ rfl
  | close => exact .of_phase _ c.disconnect_keeps.2.2
  | shutdown =>
    exact {
      running := fun going => by simp [obey, halt, isLive] at going
      ended := fun _ => .inr (.inl ⟨rfl, rfl⟩)
      still := fun ended => by cases live.symm.trans ended }

theorem lasts_move (c : Client τ) (move : Move τ) : c.Lasts (c.move move) (c.obeyed? move) := by
  have passed := c.move_passed move
  have beside := c.beside_move move
  generalize c.move move = after at passed beside ⊢
  cases passed with
  | beside _ outside => exact .of_phase _ (beside outside).phase
  | refused _ inside idle deaf still => exact .of_phase _ rfl
  | begun pending =>
    have started := lasts_start (c := { c with phase := .running }) rfl none
    exact {
      running := fun going _ => started.running going rfl
      ended := fun _ => started.ended rfl
      still := fun ended => by simp [isLive, pending] at ended }
  | obeyed command rest running queued =>
    have live : isLive { c with commands := rest } = true := by simp [isLive, running]
    have obeyed := lasts_obey live command
    have given : c.obeyed? .command = some command := by simp [obeyed?, running, queued]
    rw [given]
    exact ⟨obeyed.running, obeyed.ended, obeyed.still⟩
  | handled signal rest running queued =>
    exact .of_phase _ ({ c with inbox := { c.inbox with signals := rest } }.handle_keeps signal).2.2
  | fired index timer armed due =>
    obtain ⟨commands, same⟩ := { c with timers := c.timers.eraseIdx index }.order_eq
      (.reconnect timer.generation)
    exact .of_phase _ (by rw [same])

theorem isLive_of_move {c : Client τ} {move : Move τ} (going : (c.move move).isLive = true) :
    c.isLive = true := by
  cases live : c.isLive with
  | true => rfl
  | false =>
    have same := isLive_of_phase ((c.lasts_move move).still live)
    exact live.symm.trans (same.symm.trans going)

theorem isLive_of_run {c : Client τ} {moves : List (Move τ)} (going : (c.run moves).isLive = true) :
    c.isLive = true := by
  induction moves generalizing c with
  | nil => exact going
  | cons move rest ih => exact isLive_of_move (ih going)

theorem move_fire (c : Client τ) (index : Nat) :
    c.move (.fire index) = (c.due? index).elim c fun timer =>
      { c with timers := c.timers.eraseIdx index }.order (.reconnect timer.generation) := by
  simp only [move, due?]
  cases c.timers[index]? with
  | none => rfl
  | some timer => by_cases due : timer.due ≤ c.now <;> simp [due, Option.filter]

omit [Transport τ] in
theorem commands_order (c : Client τ) (command : Command) (going : (c.order command).isLive = true) :
    (c.order command).commands = c.commands ++ [command] := by
  have live : c.isLive = true := by
    obtain ⟨commands, same⟩ := c.order_eq command
    rwa [same] at going
  simp [order, live]

theorem commands_move (c : Client τ) (move : Move τ) (going : (c.move move).isLive = true) :
    c.commands ++ c.ordered move = (c.obeyed? move).toList ++ (c.move move).commands := by
  have live := isLive_of_move going
  have given (idle : c.obeyed? move = none)
      (queued : (c.move move).commands = c.commands ++ c.ordered move) :
      c.commands ++ c.ordered move = (c.obeyed? move).toList ++ (c.move move).commands := by
    simp [idle, queued]
  cases move with
  | wait | shift | register => exact given rfl (List.append_nil _).symm
  | report generation report =>
    have emitted := c.emitAll_eq generation [report]
    change c.emit generation report = _ at emitted
    exact given rfl (by simp [Client.move, emitted, ordered, glimpses, calling?])
  | send data =>
    refine given rfl ?_
    simp only [Client.move, send]
    cases c.target? <;> exact (List.append_nil _).symm
  | restart | close | abandon => exact given rfl (c.commands_order _ going)
  | publish envelope => exact given rfl ((c.witnessed_dispatch envelope).commands live)
  | fire index =>
    refine given rfl ?_
    rw [move_fire] at going ⊢
    cases due : c.due? index with
    | none => simp [ordered, due]
    | some timer =>
      simp only [due, Option.elim] at going ⊢
      rw [commands_order _ _ going]
      simp [ordered, due]
  | begin =>
    refine given rfl ?_
    simp only [Client.move] at going ⊢
    split
    next pending =>
      simp only [pending, if_true] at going
      exact (start_commands _ going).trans (List.append_nil _).symm
    next => exact (List.append_nil _).symm
  | command =>
    have passed := c.move_passed .command
    have silent : c.ordered .command = [] := rfl
    generalize c.move .command = after at passed going ⊢
    cases passed with
    | beside _ outside => cases outside
    | refused _ inside idle deaf still => simp [silent, idle]
    | obeyed command rest running queued =>
      rw [obey_commands _ _ going]
      simp [silent, obeyed?, running, queued]
  | signal =>
    have passed := c.move_passed .signal
    generalize c.move .signal = after at passed going ⊢
    cases passed with
    | beside _ outside => cases outside
    | refused _ inside idle deaf still => simp [ordered, glimpses, calling?, deaf, obeyed?]
    | handled signal rest running queued =>
      have heeded : c.heeded? .signal = some signal := by simp [heeded?, running, queued]
      obtain ⟨commands, phase⟩ :=
        { c with inbox := { c.inbox with signals := rest } }.received_queue signal
      simp only [ordered, glimpses, calling?, heeded, queued, List.tail_cons, handle_eq, obeyed?]
      cases (c.connection.receive c.config signal).delivery with
      | none => simpa using commands.symm
      | some envelope =>
        have witnessed := witnessed_deliver
          ({ c with inbox := { c.inbox with signals := rest } }.received signal) envelope
        have queued := witnessed.commands (by rw [isLive_of_phase phase]; exact live)
        rw [commands] at queued
        simpa using queued.symm

end step

section run

omit [Transport τ] in
theorem eq_cons_of_obeyed? {c : Client τ} {move : Move τ} {command : Command}
    (obeyed : c.obeyed? move = some command) : ∃ rest, c.commands = command :: rest := by
  cases move with
  | command =>
    simp only [obeyed?] at obeyed
    split at obeyed
    · exact List.head?_eq_some_iff.mp obeyed
    · cases obeyed
  | _ => cases obeyed

theorem of_ended {c : Client τ} (ended : c.isLive = false) (moves : List (Move τ)) :
    (c.run moves).phase = c.phase ∧ c.obeyed moves = [] := by
  induction moves generalizing c with
  | nil => exact ⟨rfl, rfl⟩
  | cons move rest ih =>
    have idle : c.obeyed? move = none := by
      cases move with
      | command => cases phase : c.phase <;> simp_all [obeyed?, isLive]
      | _ => rfl
    have same := (c.lasts_move move).still ended
    obtain ⟨phase, nothing⟩ := ih ((isLive_of_phase same).trans ended)
    refine ⟨phase.trans same, ?_⟩
    change (c.obeyed? move).toList ++ (c.move move).obeyed rest = []
    simp [idle, nothing]

theorem obeyed_prefix (c : Client τ) (moves : List (Move τ)) :
    c.obeyed moves <+: c.commands ++ c.collect ordered moves := by
  induction moves generalizing c with
  | nil => simp [obeyed, collect]
  | cons move rest ih =>
    change (c.obeyed? move).toList ++ (c.move move).obeyed rest <+:
      c.commands ++ (c.ordered move ++ (c.move move).collect ordered rest)
    -- An event loop that ends here leaves its queue behind, so there is no balance to carry on with.
    cases going : (c.move move).isLive with
    | true =>
      rw [← List.append_assoc, c.commands_move move going, List.append_assoc]
      exact (List.prefix_append_right_inj _).mpr (ih _)
    | false =>
      rw [(of_ended going rest).2, List.append_nil]
      cases taken : c.obeyed? move with
      | none => exact List.nil_prefix
      | some command =>
        obtain ⟨waiting, queued⟩ := eq_cons_of_obeyed? taken
        simp [queued]

theorem commands_run (c : Client τ) (moves : List (Move τ)) (going : (c.run moves).isLive = true) :
    c.commands ++ c.collect ordered moves = c.obeyed moves ++ (c.run moves).commands := by
  induction moves generalizing c with
  | nil => simp [obeyed, collect]
  | cons move rest ih =>
    change c.commands ++ (c.ordered move ++ (c.move move).collect ordered rest) =
      (c.obeyed? move).toList ++ (c.move move).obeyed rest ++ ((c.move move).run rest).commands
    rw [← List.append_assoc, c.commands_move move (isLive_of_run going), List.append_assoc,
      ih (c.move move) going, List.append_assoc]

theorem obeyed_of_taken {c : Client τ} {moves : List (Move τ)} {waiting : List Command}
    (running : c.phase = .running) (queued : waiting <+: c.commands)
    (going : (c.run moves).isLive = true)
    (enough : waiting.length ≤ moves.countP Move.takesCommand) : waiting <+: c.obeyed moves := by
  induction moves generalizing c waiting with
  | nil =>
    have none : waiting = [] := List.eq_nil_of_length_eq_zero (by simpa using enough)
    simp [none]
  | cons move rest ih =>
    have live : (c.move move).isLive = true := isLive_of_run going
    have still := (c.lasts_move move).running live running
    have balance := c.commands_move move live
    change waiting <+: (c.obeyed? move).toList ++ (c.move move).obeyed rest
    cases taken : c.obeyed? move with
    | some command =>
      obtain ⟨others, all⟩ := eq_cons_of_obeyed? taken
      cases waiting with
      | nil => exact List.nil_prefix
      | cons first more =>
        simp only [taken, all, Option.toList_some, List.cons_append, List.nil_append,
          List.cons.injEq, true_and] at balance
        rw [all, List.cons_prefix_cons] at queued
        obtain ⟨rfl, queued⟩ := queued
        have fewer : more.length ≤ rest.countP Move.takesCommand := by
          simp only [List.length_cons, List.countP_cons] at enough
          split at enough <;> omega
        refine List.cons_prefix_cons.mpr ⟨rfl, ih still ?_ going fewer⟩
        exact queued.trans ⟨_, balance⟩
    | none =>
      -- A move that could take a command and takes none has found the queue empty.
      cases takes : move.takesCommand with
      | true =>
        have empty : c.commands = [] := by
          cases move with
          | command => simpa [obeyed?, running] using taken
          | _ => cases takes
        rw [empty, List.prefix_nil] at queued
        simp [queued]
      | false =>
        simp only [taken, Option.toList_none, List.nil_append] at balance
        have fewer : waiting.length ≤ rest.countP Move.takesCommand := by
          simpa [List.countP_cons, takes] using enough
        exact ih still (queued.trans ⟨_, balance⟩) going fewer

theorem run_ended {c : Client τ} (live : c.isLive = true) (moves : List (Move τ)) :
    (c.run moves).isLive = true ∨
      ((c.run moves).phase = .stopped ∧ ∃ earlier, c.obeyed moves = earlier ++ [.shutdown]) ∨
      ((c.run moves).phase = .crashed ∧ Balks τ c.config.url) := by
  induction moves generalizing c with
  | nil => exact .inl live
  | cons move rest ih =>
    change ((c.move move).run rest).isLive = true ∨
      (((c.move move).run rest).phase = .stopped ∧
        ∃ earlier, (c.obeyed? move).toList ++ (c.move move).obeyed rest = earlier ++ [.shutdown]) ∨
      (((c.move move).run rest).phase = .crashed ∧ Balks τ c.config.url)
    cases going : (c.move move).isLive with
    | true =>
      rw [← (c.move_keeps move).1]
      refine (ih going).imp_right (Or.imp_left ?_)
      rintro ⟨stopped, earlier, obeyed⟩
      exact ⟨stopped, (c.obeyed? move).toList ++ earlier, by rw [obeyed, List.append_assoc]⟩
    | false =>
      obtain ⟨phase, nothing⟩ := of_ended going rest
      have ended := (c.lasts_move move).ended live
      rw [going] at ended
      rw [phase, nothing]
      rcases ended with still | ⟨stopped, shutdown⟩ | crashed
      · cases still
      · exact .inr (.inl ⟨stopped, [], by simp [shutdown]⟩)
      · exact .inr (.inr crashed)

theorem serves {c : Client τ} (running : c.phase = .running) (moves : List (Move τ)) :
    c.Serves moves where
  inOrder := c.obeyed_prefix moves
  kept := c.commands_run moves
  reached := obeyed_of_taken running List.prefix_rfl
  ended := run_ended (by simp [isLive, running]) moves

end run

end Client

end HotReload
