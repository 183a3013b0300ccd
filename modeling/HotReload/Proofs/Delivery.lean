import HotReload.Proofs.Course
import HotReload.Proofs.Discipline
import HotReload.Proofs.Past
import HotReload.Proofs.Recorder
import HotReload.Proofs.Session
import HotReload.Proofs.Tally

set_option autoImplicit false

namespace HotReload

def Move.source? {τ : Type} : Move τ → Option Nat
  | .report generation _ => some generation
  | _ => none

-- Nobody but the client dispatches, and nobody takes the reserved name.
def Move.Discreet {τ : Type} (reserved : String) : Move τ → Prop
  | .register subscriber => subscriber.Discreet reserved
  | .publish _ => False
  | _ => True

namespace Client

variable {τ : Type}

def delivered? (c : Client τ) (move : Move τ) : Option (Nat × Envelope) :=
  (c.heeded? move).bind fun signal =>
    (c.connection.receive c.config signal).delivery.map (Prod.mk signal.generation)

-- A socket reports for a connection that has begun, not for one that is to come.
def Sourced (c : Client τ) (move : Move τ) : Prop :=
  ∀ generation ∈ move.source?, generation ≤ c.connection.generation

structure Told (recorder : Subscriber) (emitted heeded : List Signal)
    (delivered : List (Nat × Envelope)) (c : Client τ) : Prop where
  record : ∃ bus, c.Echoes bus ∧ bus.Attended recorder (delivered.map Prod.snd)
  tallies : c.inbox.Tallies heeded emitted
  known : ∀ signal ∈ emitted, signal.generation ≤ c.connection.generation
  blocks : Blocks c.connection.generation delivered
  faithful : ∀ generation,
    Faithful (reportsOf generation heeded) (envelopesOf generation delivered)
  -- A start that panics leaves a state behind that nobody acts upon.
  followed : c.phase ≠ .crashed → Followed c.connection.state
    (reportsOf c.connection.generation heeded) (envelopesOf c.connection.generation delivered)

namespace Told

variable {recorder : Subscriber} {emitted heeded : List Signal}
  {delivered : List (Nat × Envelope)} {c after : Client τ}

theorem unheeded (told : c.Told recorder emitted heeded delivered) :
    reportsOf (c.connection.generation + 1) heeded = [] := by
  apply reportsOf_eq_nil
  intro signal member
  have := told.known signal (told.tallies.taken_prefix.subset member)
  omega

theorem of_same (told : c.Told recorder emitted heeded delivered)
    (connection : after.connection = c.connection)
    (going : after.phase ≠ .crashed → c.phase ≠ .crashed) (inbox : after.inbox = c.inbox)
    (record : ∃ bus, after.Echoes bus ∧ bus.Attended recorder (delivered.map Prod.snd)) :
    after.Told recorder emitted heeded delivered where
  record := record
  tallies := by rw [inbox]; exact told.tallies
  known := by rw [connection]; exact told.known
  blocks := by rw [connection]; exact told.blocks
  faithful := told.faithful
  followed survived := by rw [connection]; exact told.followed (going survived)

theorem of_unheard (told : c.Told recorder emitted heeded delivered)
    (connection : after.connection = c.connection)
    (going : after.phase ≠ .crashed → c.phase ≠ .crashed) (inbox : after.inbox = c.inbox)
    (subscribers : after.subscribers = c.subscribers)
    (unheard : heard after.events = heard c.events) :
    after.Told recorder emitted heeded delivered := by
  obtain ⟨bus, echoes, attended⟩ := told.record
  exact told.of_same connection going inbox ⟨bus, echoes.of_same subscribers unheard, attended⟩

theorem superseded (told : c.Told recorder emitted heeded delivered) {more : List Signal}
    (next : after.connection.generation = c.connection.generation + 1)
    (fresh : after.phase ≠ .crashed → Followed after.connection.state [] [])
    (tallies : after.inbox.Tallies heeded (emitted ++ more))
    (greeted : ∀ signal ∈ more, signal.generation = c.connection.generation + 1)
    (echo : ∀ bus, c.Echoes bus → after.Echoes bus) :
    after.Told recorder (emitted ++ more) heeded delivered where
  record := by
    obtain ⟨bus, echoes, attended⟩ := told.record
    exact ⟨bus, echo bus echoes, attended⟩
  tallies := tallies
  known := by
    intro signal member
    rcases List.mem_append.mp member with old | new
    · have := told.known signal old
      omega
    · exact Nat.le_of_eq ((greeted signal new).trans next.symm)
  blocks := by rw [next]; exact told.blocks.succ
  faithful := told.faithful
  followed going := by
    rw [next, told.unheeded, told.blocks.unheard (Nat.lt_succ_self _)]
    exact fresh going

theorem emit (told : c.Told recorder emitted heeded delivered) {generation : Nat}
    (sourced : generation ≤ c.connection.generation) (report : Report) :
    (c.emit generation report).Told recorder (emitted ++ [⟨generation, report⟩]) heeded
      delivered := by
  have emission := c.emitAll_eq generation [report]
  change c.emit generation report = _ at emission
  obtain ⟨bus, echoes, attended⟩ := told.record
  rw [emission]
  refine ⟨⟨bus, echoes.of_same rfl (by simp), attended⟩,
    told.tallies.emitAll generation [report], ?_, told.blocks, told.faithful, told.followed⟩
  intro signal member
  rcases List.mem_append.mp member with old | new
  · exact told.known signal old
  · rw [List.mem_singleton.mp new]
    exact sourced

theorem stop (told : c.Told recorder emitted heeded delivered) (going : c.phase ≠ .crashed) :
    (c.halt .stopped).Told recorder emitted heeded delivered := by
  obtain ⟨bus, echoes, attended⟩ := told.record
  exact ⟨⟨bus, echoes.of_same rfl rfl, attended⟩, told.tallies.leave, told.known, told.blocks,
    told.faithful, fun _ => told.followed going⟩

theorem note (told : c.Told recorder emitted heeded delivered) (notice : Notice) :
    (c.note notice).Told recorder emitted heeded delivered :=
  told.of_unheard rfl id rfl rfl (by simp [Client.note, Client.record, Event.heard?])

theorem followed_receive (told : c.Told recorder emitted heeded delivered)
    (going : c.phase ≠ .crashed) (signal : Signal) :
    Followed (c.connection.receive c.config signal).connection.state
      (reportsOf c.connection.generation (heeded ++ [signal]))
      (envelopesOf c.connection.generation
        (delivered ++ ((c.connection.receive c.config signal).delivery.map
          (Prod.mk signal.generation)).toList)) := by
  have followed := told.followed going
  simp only [reportsOf_append, envelopesOf_append, reportsOf_singleton, envelopesOf_toList]
  by_cases same : signal.generation = c.connection.generation
  next =>
    obtain ⟨generation, report⟩ := signal
    subst same
    simpa using followed.receive c.config report
  next => simpa [Connection.receive_of_ne same, same] using followed

theorem faithful_receive (told : c.Told recorder emitted heeded delivered)
    (going : c.phase ≠ .crashed) (signal : Signal) (generation : Nat) :
    Faithful (reportsOf generation (heeded ++ [signal]))
      (envelopesOf generation
        (delivered ++ ((c.connection.receive c.config signal).delivery.map
          (Prod.mk signal.generation)).toList)) := by
  by_cases present : generation = c.connection.generation
  next =>
    subst present
    exact (told.followed_receive going signal).faithful
  next =>
    -- An envelope can only go out for the present connection.
    have unchanged : envelopesOf generation ((c.connection.receive c.config signal).delivery.map
        (Prod.mk signal.generation)).toList = [] := by
      cases delivery : (c.connection.receive c.config signal).delivery with
      | none => rfl
      | some envelope =>
        have source := (Connection.isLive_of_delivery delivery).1
        simpa [envelopesOf, source] using Ne.symm present
    rw [reportsOf_append, envelopesOf_append, unchanged, List.append_nil]
    exact (told.faithful generation).append _

theorem blocks_receive (told : c.Told recorder emitted heeded delivered) (signal : Signal) :
    Blocks c.connection.generation
      (delivered ++ ((c.connection.receive c.config signal).delivery.map
        (Prod.mk signal.generation)).toList) := by
  cases delivery : (c.connection.receive c.config signal).delivery with
  | none => simpa using told.blocks
  | some envelope =>
    rw [(Connection.isLive_of_delivery delivery).1]
    exact told.blocks.concat (some envelope)

variable [Transport τ]

theorem start (told : c.Told recorder emitted heeded delivered) :
    c.start.Told recorder (emitted ++ c.greeting) heeded delivered := by
  have echo bus (echoes : c.Echoes bus) := echoes.start
  have started := c.start_started
  generalize c.start = after at started echo ⊢
  cases started with
  | returned transport reports opening =>
    have greeting : c.greeting = reports.map (Signal.mk (c.connection.generation + 1)) := by
      simp [Client.greeting, opening]
    rw [greeting]
    exact told.superseded rfl (fun _ => .connecting []) (told.tallies.emitAll _ reports) (by simp)
      echo
  | panicked transport opening =>
    have silent : c.greeting = [] := by simp [Client.greeting, opening]
    rw [silent]
    exact told.superseded rfl (fun going => absurd rfl going) (by simpa using told.tallies.leave)
      (by simp) echo

theorem disconnect (told : c.Told recorder emitted heeded delivered) :
    c.disconnect.Told recorder emitted heeded delivered := by
  have echo bus (echoes : c.Echoes bus) := echoes.disconnect
  rw [disconnect_eq] at echo ⊢
  rw [← List.append_nil emitted]
  exact told.superseded rfl (fun _ => .finished (.inl rfl) (.inl rfl)) (by simpa using told.tallies)
    (by simp) echo

theorem reconnect (told : c.Told recorder emitted heeded delivered) (generation : Nat) :
    (c.reconnect generation).Told recorder
      (emitted ++ if c.connection.awaits generation then c.greeting else []) heeded delivered := by
  unfold Client.reconnect
  split
  next => exact (told.note (.reconnecting generation)).start
  next =>
    rw [List.append_nil]
    exact told.note _

theorem handle (told : c.Told recorder emitted heeded delivered)
    (records : ∀ sight envelope, recorder.react sight envelope = []) (going : c.phase ≠ .crashed)
    {signal : Signal} {rest : List Signal} (queued : c.inbox.signals = signal :: rest) :
    ({ c with inbox := { c.inbox with signals := rest } }.handle signal).Told recorder emitted
      (heeded ++ [signal])
      (delivered ++ ((c.connection.receive c.config signal).delivery.map
        (Prod.mk signal.generation)).toList) := by
  obtain ⟨connection, inbox, echo⟩ :=
    { c with inbox := { c.inbox with signals := rest } }.handle_outcome signal
  obtain ⟨_, generation, phase⟩ :=
    { c with inbox := { c.inbox with signals := rest } }.handle_keeps signal
  generalize { c with inbox := { c.inbox with signals := rest } }.handle signal = after
    at connection inbox echo generation phase ⊢
  refine ⟨?_, ?_, ?_, ?_, told.faithful_receive going signal, ?_⟩
  · obtain ⟨bus, echoes, attended⟩ := told.record
    refine ⟨_, echo bus { echoes with }, ?_⟩
    cases (c.connection.receive c.config signal).delivery with
    | none => simpa using attended
    | some envelope => simpa using attended.dispatch records c.config.nesting envelope
  · rw [inbox]
    exact told.tallies.take queued
  · rw [generation]
    exact told.known
  · rw [generation]
    exact told.blocks_receive signal
  · rw [generation, connection]
    exact fun _ => told.followed_receive going signal

theorem obey (told : c.Told recorder emitted heeded delivered) (running : c.phase = .running)
    {command : Command} {rest : List Command} (queued : c.commands = command :: rest) :
    ({ c with commands := rest }.obey command).Told recorder (emitted ++ c.reported .command) heeded
      delivered := by
  have taken : Told recorder emitted heeded delivered { c with commands := rest } :=
    told.of_unheard rfl id rfl rfl rfl
  have head : c.obeyed? .command = some command := by simp [obeyed?, running, queued]
  cases command with
  | start =>
    have reported : c.reported .command = c.greeting := by simp [Client.reported, starts, head]
    rw [reported]
    exact taken.start
  | reconnect generation =>
    have reported : c.reported .command =
        if c.connection.awaits generation then c.greeting else [] := by
      simp [Client.reported, starts, head]
    rw [reported]
    exact taken.reconnect generation
  | close =>
    have reported : c.reported .command = [] := by simp [Client.reported, starts, head]
    rw [reported, List.append_nil]
    exact taken.disconnect
  | shutdown =>
    have reported : c.reported .command = [] := by simp [Client.reported, starts, head]
    rw [reported, List.append_nil]
    apply (taken.disconnect.note .loopEnded).stop
    rw [disconnect_eq]
    simp [Client.note, Client.record, running]

theorem beside (told : c.Told recorder emitted heeded delivered) (move : Move τ)
    (outside : move.isOfLoop = false) (discreet : move.Discreet recorder.name)
    (mute : ∀ generation report, move ≠ .report generation report) :
    (c.move move).Told recorder emitted heeded delivered := by
  obtain ⟨bus, echoes, attended⟩ := told.record
  have ordered (command : Command) : (c.order command).Told recorder emitted heeded delivered := by
    obtain ⟨commands, same⟩ := c.order_eq command
    rw [same]
    exact told.of_unheard rfl id rfl rfl rfl
  cases move with
  | begin => cases outside
  | command => cases outside
  | signal => cases outside
  | fire index => cases outside
  | report generation report => exact absurd rfl (mute generation report)
  | wait nanoseconds => exact told.of_unheard rfl id rfl rfl rfl
  | shift transport => exact told.of_unheard rfl id rfl rfl rfl
  | restart => exact ordered .start
  | close => exact ordered .close
  | abandon => exact ordered .shutdown
  | send data =>
    have called := (CalledBack.refl c).send data
    exact told.of_same called.connection (fun going => called.phase ▸ going) called.inbox
      ⟨bus, echoes.request (.send data), attended⟩
  | register subscriber =>
    have registered : (c.register subscriber).Echoes (Host.register bus subscriber) :=
      { echoes with subscribers := by simp [Client.register, Host.register, echoes.subscribers] }
    exact told.of_same rfl id rfl ⟨_, registered, attended.register discreet⟩
  | publish envelope => exact discreet.elim

theorem move (told : c.Told recorder emitted heeded delivered)
    (records : ∀ sight envelope, recorder.react sight envelope = []) (move : Move τ)
    (discreet : move.Discreet recorder.name) (sourced : c.Sourced move) :
    (c.move move).Told recorder (emitted ++ c.reported move)
      (heeded ++ (c.heeded? move).toList) (delivered ++ (c.delivered? move).toList) := by
  -- A move that takes no signal delivers nothing, and only some moves let a socket report.
  have deaf (unheeded : c.heeded? move = none) (silent : c.reported move = [])
      (told : (c.move move).Told recorder emitted heeded delivered) :
      (c.move move).Told recorder (emitted ++ c.reported move)
        (heeded ++ (c.heeded? move).toList) (delivered ++ (c.delivered? move).toList) := by
    simpa [delivered?, unheeded, silent] using told
  have passed := c.move_passed move
  have beside := told.beside move
  generalize c.move move = after at passed beside deaf ⊢
  cases passed with
  | beside move outside =>
    cases move with
    | begin => cases outside
    | command => cases outside
    | signal => cases outside
    | fire index => cases outside
    | report generation report =>
      have emitted : (c.move (.report generation report)).Told recorder
          (emitted ++ c.reported (.report generation report)) heeded delivered :=
        told.emit (sourced generation rfl) report
      simpa [heeded?, delivered?] using emitted
    | _ => exact deaf rfl rfl (beside rfl discreet (by simp))
  | refused move inside idle unheeded still =>
    exact deaf unheeded (reported_of_still inside still) told
  | begun pending =>
    have begun : Told recorder emitted heeded delivered { c with phase := .running } :=
      told.of_unheard rfl (by simp [pending]) rfl rfl rfl
    have reported : c.reported .begin = c.greeting := by simp [reported, starts, pending]
    simp only [reported, delivered?, heeded?, Option.bind_none, Option.toList_none, List.append_nil]
    exact begun.start
  | obeyed command rest running queued =>
    simpa [delivered?, heeded?] using told.obey running queued
  | handled signal rest running queued =>
    have head : c.heeded? .signal = some signal := by simp [heeded?, running, queued]
    have handled := told.handle records (by simp [running]) queued
    simpa [delivered?, head, reported, starts, obeyed?] using handled
  | fired index timer armed due =>
    obtain ⟨commands, same⟩ := { c with timers := c.timers.eraseIdx index }.order_eq
      (.reconnect timer.generation)
    rw [same] at deaf ⊢
    exact deaf rfl rfl (told.of_unheard rfl id rfl rfl rfl)

end Told

variable [Transport τ]

def delivered (c : Client τ) (moves : List (Move τ)) : List (Nat × Envelope) :=
  c.collect (fun c move => (c.delivered? move).toList) moves

def SourcedRun : Client τ → List (Move τ) → Prop
  | _, [] => True
  | c, move :: rest => c.Sourced move ∧ (c.move move).SourcedRun rest

instance decidableSourcedRun : (c : Client τ) → (moves : List (Move τ)) →
    Decidable (c.SourcedRun moves)
  | _, [] => .isTrue trivial
  | c, move :: rest =>
    have := decidableSourcedRun (c.move move) rest
    inferInstanceAs (Decidable
      ((∀ generation ∈ move.source?, generation ≤ c.connection.generation) ∧
        (c.move move).SourcedRun rest))

theorem Told.run {recorder : Subscriber} {emitted heeded : List Signal}
    {delivered : List (Nat × Envelope)} {c : Client τ}
    (told : c.Told recorder emitted heeded delivered)
    (records : ∀ sight envelope, recorder.react sight envelope = []) (moves : List (Move τ))
    (discreet : ∀ move ∈ moves, move.Discreet recorder.name) (sourced : c.SourcedRun moves) :
    (c.run moves).Told recorder (emitted ++ c.emitted moves) (heeded ++ c.heeded moves)
      (delivered ++ c.delivered moves) := by
  induction moves generalizing c emitted heeded delivered with
  | nil => simpa [Client.emitted, Client.heeded, Client.delivered, collect] using told
  | cons move rest ih =>
    obtain ⟨discreetMove, discreetRest⟩ := List.forall_mem_cons.mp discreet
    have moved := told.move records move discreetMove sourced.1
    have later := ih moved discreetRest sourced.2
    simpa only [Client.emitted, Client.heeded, Client.delivered, collect, List.append_assoc,
      run_cons] using later

variable {c : Client τ} {generation : Nat}

omit [Transport τ] in
theorem Past.undelivered (past : c.Past generation) (move : Move τ) :
    ∀ delivery ∈ c.delivered? move, delivery.1 ≠ generation := by
  intro delivery member
  obtain ⟨signal, heeded, outcome⟩ := Option.bind_eq_some_iff.mp member
  obtain ⟨envelope, delivered, rfl⟩ := Option.map_eq_some_iff.mp outcome
  obtain ⟨source, live⟩ := Connection.isLive_of_delivery delivered
  have running : c.phase = .running := by
    cases move <;> simp_all [heeded?]
  rcases past with earlier | ⟨present, dead⟩ | crashed
  · exact source ▸ Nat.ne_of_gt earlier
  · cases live.symm.trans dead
  · cases running.symm.trans crashed

theorem Past.delivered (past : c.Past generation) (moves : List (Move τ)) :
    envelopesOf generation (c.delivered moves) = [] := by
  induction moves generalizing c with
  | nil => rfl
  | cons move rest ih =>
    have now : envelopesOf generation (c.delivered? move).toList = [] :=
      envelopesOf_eq_nil fun delivery member =>
        past.undelivered move delivery (Option.mem_toList.mp member)
    have later := ih (past.move move)
    simpa [Client.delivered, collect, now] using later

theorem delivered_append (c : Client τ) (moves others : List (Move τ)) :
    c.delivered (moves ++ others) = c.delivered moves ++ (c.run moves).delivered others :=
  c.collect_append _ moves others

theorem delivered_in_blocks (nesting : Nat) (options : Options) (page : Page) (transport : τ)
    (recorder : Subscriber) (others : List Subscriber) (moves : List (Move τ))
    (records : ∀ sight envelope, recorder.react sight envelope = [])
    (discreet : ∀ other ∈ others, other.Discreet recorder.name)
    (undisturbed : ∀ move ∈ moves, move.Discreet recorder.name)
    (sourced : (spawn nesting options page transport (recorder :: others)).SourcedRun moves) :
    let spawned := spawn nesting options page transport (recorder :: others)
    let c := spawned.run moves
    let block generation := envelopesOf generation (spawned.delivered moves)
    recorded recorder.name c.events =
      (List.range (c.connection.generation + 1)).flatMap block ∧
    (∀ generation, Faithful (reportsOf generation (spawned.emitted moves)) (block generation)) ∧
    (c.phase = .running → c.connection.state = .open → c.inbox = .empty →
      block c.connection.generation = .connected :: Envelope.ofTexts
        (Report.spoken (reportsOf c.connection.generation (spawned.emitted moves)))) ∧
    (∀ before after, moves = before ++ after → ∀ generation,
      generation ≤ (spawned.run before).connection.generation →
      (spawned.run before).connection.current ≠ some generation →
      block generation = envelopesOf generation (spawned.delivered before)) := by
  intro spawned c block
  have begun : spawned.Told recorder [] [] [] := by
    refine ⟨⟨⟨recorder :: others, [], some .open⟩, ⟨rfl, rfl, rfl⟩,
      ⟨⟨others, rfl, discreet⟩, rfl⟩⟩, .present [] [],
      by simp, ⟨by simp, rfl⟩, fun _ => .inl rfl, fun _ => .finished (.inl rfl) (.inl rfl)⟩
  have told := begun.run records moves undisturbed sourced
  simp only [List.nil_append] at told
  refine ⟨?_, ?_, ?_, ?_⟩
  · obtain ⟨bus, echoes, attended⟩ := told.record
    rw [recorded, echoes.heard, ← told.blocks.ordered]
    exact attended.record
  · intro generation
    obtain ⟨unheeded, all⟩ := told.tallies.taken_prefix
    rw [← all, reportsOf_append]
    exact (told.faithful generation).append _
  · intro running isOpen empty
    have followed := told.followed (by simp [c, running])
    have tallies := told.tallies
    change c.inbox.Tallies _ _ at tallies
    rw [empty] at tallies
    change Followed c.connection.state _ _ at followed
    rw [isOpen, tallies.eq_of_empty] at followed
    exact followed.complete
  · intro before after split generation begun unused
    have orderly : (spawned.run before).Orderly :=
      (orderly_spawn nesting options page transport (recorder :: others)).run before
    have past : (spawned.run before).Past generation := by
      by_cases crashed : (spawned.run before).phase = .crashed
      next => exact .inr (.inr crashed)
      next =>
        have current := (orderly.regular crashed).current
        unfold Connection.Coherent at current
        rcases Nat.lt_or_eq_of_le begun with earlier | present
        · exact .inl earlier
        · refine .inr (.inl ⟨present, ?_⟩)
          cases live : (spawned.run before).connection.isLive with
          | true => simp [current, live, present] at unused
          | false => rfl
    simp only [block, split, delivered_append, envelopesOf_append, past.delivered after,
      List.append_nil]

theorem delivered_in_blocks_across_restart :
    let recorder : Subscriber := ⟨"recorder", false, fun _ _ => []⟩
    let nervous : Subscriber := ⟨"nervous", true, fun _ _ => [.request .restart, .panic .other]⟩
    let moves := [.begin, .report 1 (.message "true"), .signal, .report 1 .opened,
      .report 1 (.message "[]"), .signal, .signal, .report 1 (.message "["), .signal,
      .report 1 (.message "1"), .command, .signal, .report 2 .opened, .signal]
    let spawned := spawn 4 .default (.localhost 3000) ({} : Stage) [recorder, nervous]
    let block generation := envelopesOf generation (spawned.delivered moves)
    spawned.SourcedRun moves ∧
      (spawned.run moves).connection.generation = 2 ∧
      recorded "recorder" (spawned.run moves).events =
        (List.range ((spawned.run moves).connection.generation + 1)).flatMap block ∧
      (block 1).map Envelope.isConnected = [true, false] ∧
      (block 2).map Envelope.isConnected = [true] := by
  intro recorder nervous moves spawned block
  have discreet : nervous.Discreet "recorder" := by
    refine ⟨by decide, fun sight envelope effect member => ?_⟩
    rcases List.mem_cons.mp member with rfl | member
    · exact .request .restart
    · rw [List.mem_singleton.mp member]
      exact .panic .other
  have sourced : spawned.SourcedRun moves := by decide
  obtain ⟨inBlocks, _⟩ := delivered_in_blocks 4 .default (.localhost 3000) ({} : Stage) recorder
    [nervous] moves (fun _ _ => rfl) (by simpa using discreet) (by simp [moves, Move.Discreet])
    sourced
  have generation : (spawned.run moves).connection.generation = 2 := by decide +kernel
  have first : (block 1).map Envelope.isConnected = [true, false] := by decide +kernel
  have second : (block 2).map Envelope.isConnected = [true] := by decide +kernel
  exact ⟨sourced, generation, by simpa only [spawned, block] using inBlocks, first, second⟩

end Client

end HotReload
