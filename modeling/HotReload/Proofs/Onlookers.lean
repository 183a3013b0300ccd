import HotReload.Proofs.Leeway
import HotReload.Proofs.Rest
import HotReload.Stage
import Mathlib.Data.List.Forall2

set_option autoImplicit false

namespace HotReload

-- Panics on the envelopes of its choice and does nothing else.
def Subscriber.LooksOn (subscriber : Subscriber) : Prop :=
  ∀ sight envelope, ∀ effect ∈ subscriber.react sight envelope, ∃ payload, effect = .panic payload

inductive Move.Alike {τ : Type} : Move τ → Move τ → Prop where
  | same (move : Move τ) (unregistered : ∀ subscriber, move ≠ .register subscriber) : Alike move move
  | register (one other : Subscriber) (looksOn : one.LooksOn) (looksOnToo : other.LooksOn) :
    Alike (.register one) (.register other)

-- Left behind by a fan-out, and not by what the client does itself.
def Event.isHearsay : Event → Bool
  | .called _ _ _ => true
  | .noted (.dispatching _) => true
  | .noted (.subscriberPanicked _) => true
  | _ => false

abbrev conduct (events : List Event) : List Event := events.filter fun event => !event.isHearsay

abbrev transports (events : List Event) : List Event :=
  events.filter fun event => event.socket?.isSome

theorem transports_conduct (events : List Event) : transports (conduct events) = transports events := by
  rw [transports, conduct, List.filter_filter]
  congr
  funext event
  cases event with
  | noted notice => rfl
  | called name envelope state => rfl
  | opened generation url => rfl
  | closed generation => rfl
  | sent generation data => rfl

theorem performAll_of_panics {σ : Type} [Host σ] (nested : Envelope → σ → σ × Fanout)
    {effects : List Effect} (panics : ∀ effect ∈ effects, ∃ payload, effect = .panic payload)
    (s : σ) : (performAll nested effects s).1 = s := by
  cases effects with
  | nil => rfl
  | cons effect rest =>
    obtain ⟨payload, rfl⟩ := panics effect (by simp)
    rfl

namespace Client

variable {τ : Type}

-- Nothing has changed but the record, and that by hearsay.
def Overheard (c after : Client τ) : Prop :=
  ∃ news, after = { c with events := c.events ++ news } ∧ ∀ event ∈ news, event.isHearsay = true

theorem Overheard.refl (c : Client τ) : c.Overheard c := ⟨[], by simp, by simp⟩

theorem Overheard.record {c after : Client τ} (overheard : c.Overheard after) {event : Event}
    (hearsay : event.isHearsay = true) : c.Overheard (after.record event) := by
  obtain ⟨news, rfl, all⟩ := overheard
  refine ⟨news ++ [event], by simp [Client.record], ?_⟩
  simpa [or_imp, forall_and] using ⟨all, hearsay⟩

variable [Transport τ]

theorem overheard_callAll {c here : Client τ} (overheard : c.Overheard here)
    (nested : Envelope → Client τ → Client τ × Fanout) (envelope : Envelope)
    {subscribers : List Subscriber} (lookOn : ∀ subscriber ∈ subscribers, subscriber.LooksOn) :
    c.Overheard (callAll nested envelope subscribers here).1 := by
  induction subscribers generalizing here with
  | nil => exact overheard
  | cons subscriber rest ih =>
    have called : c.Overheard (recordCall subscriber envelope here) := overheard.record rfl
    have unmoved := performAll_of_panics nested (lookOn subscriber (by simp) (Host.sight here) envelope)
      (recordCall subscriber envelope here)
    simp only [callAll]
    generalize performAll nested (subscriber.react (Host.sight here) envelope)
      (recordCall subscriber envelope here) = result at unmoved
    obtain ⟨after, reason⟩ := result
    cases unmoved
    cases reason with
    | finished => exact ih called fun other member => lookOn other (by simp [member])
    | panicked payload => exact called
    | exhausted => exact called

theorem overheard_dispatch (c : Client τ) (depth : Nat) (envelope : Envelope)
    (lookOn : ∀ subscriber ∈ c.subscribers, subscriber.LooksOn) :
    c.Overheard (dispatch depth envelope c).1 := by
  cases depth with
  | zero => exact .refl c
  | succ depth =>
    have announced : c.Overheard (c.record (.noted (.dispatching c.subscribers.length))) :=
      (Overheard.refl c).record rfl
    exact overheard_callAll announced (dispatch depth) envelope lookOn

theorem overheard_deliver (c : Client τ) (envelope : Envelope)
    (lookOn : ∀ subscriber ∈ c.subscribers, subscriber.LooksOn) :
    c.Overheard (c.deliver envelope) := by
  have overheard := c.overheard_dispatch (c.config.nesting + 1) envelope lookOn
  unfold deliver
  generalize dispatch (c.config.nesting + 1) envelope c = result at overheard
  obtain ⟨after, reason⟩ := result
  cases reason with
  | finished => exact overheard
  | panicked payload => exact overheard.record rfl
  | exhausted => exact overheard

structure Twin (c d : Client τ) : Prop where
  config : c.config = d.config
  transport : c.transport = d.transport
  connection : c.connection = d.connection
  phase : c.phase = d.phase
  commands : c.commands = d.commands
  inbox : c.inbox = d.inbox
  timers : c.timers = d.timers
  now : c.now = d.now
  conduct : conduct c.events = conduct d.events
  lookOn : ∀ subscriber ∈ c.subscribers, subscriber.LooksOn
  lookOnToo : ∀ subscriber ∈ d.subscribers, subscriber.LooksOn

end Client

def Leeway.onlookers : Leeway where
  activity := Eq
  inbox := Eq
  subscribers one other :=
    (∀ subscriber ∈ one, subscriber.LooksOn) ∧ ∀ subscriber ∈ other, subscriber.LooksOn
  counts event := !event.isHearsay

namespace Client

variable {τ : Type} [Transport τ]

namespace Twin

variable {c d : Client τ}

omit [Transport τ] in
theorem akin (twin : c.Twin d) : c.Akin .onlookers d where
  config := twin.config
  transport := twin.transport
  connection := by
    rw [twin.connection]
    exact ⟨rfl, rfl, rfl, rfl⟩
  subscribers := ⟨twin.lookOn, twin.lookOnToo⟩
  phase := twin.phase
  commands := twin.commands
  inbox := twin.inbox
  timers := twin.timers
  now := twin.now
  events := twin.conduct

omit [Transport τ] in
theorem of_akin (akin : c.Akin .onlookers d) : c.Twin d where
  config := akin.config
  transport := akin.transport
  connection := akin.connection.eq
  phase := akin.phase
  commands := akin.commands
  inbox := akin.inbox
  timers := akin.timers
  now := akin.now
  conduct := akin.events
  lookOn := akin.subscribers.1
  lookOnToo := akin.subscribers.2

omit [Transport τ] in
theorem overheard {after other : Client τ} (twin : c.Twin d) (overheard : c.Overheard after)
    (overheardToo : d.Overheard other) : after.Twin other := by
  obtain ⟨news, rfl, hearsay⟩ := overheard
  obtain ⟨others, rfl, hearsayToo⟩ := overheardToo
  have silent {events : List Event} (all : ∀ event ∈ events, event.isHearsay = true) :
      HotReload.conduct events = [] := by
    simpa [HotReload.conduct, List.filter_eq_nil_iff] using all
  refine { twin with conduct := ?_ }
  simpa [silent hearsay, silent hearsayToo] using twin.conduct

theorem endures : Leeway.onlookers.Endures τ where
  raised _ _ same := congrArg (· + 1) same
  gone _ _ same := congrArg Inbox.isGone same
  emitted _ _ generation reports same := congrArg (Inbox.emitAll · generation reports) same
  left _ _ same := congrArg Inbox.leave same
  told c d envelope akin :=
    ((of_akin akin).overheard (c.overheard_dispatch _ envelope akin.subscribers.1)
      (d.overheard_dispatch _ envelope akin.subscribers.2)).akin
  delivered c d envelope akin :=
    ((of_akin akin).overheard (c.overheard_deliver envelope akin.subscribers.1)
      (d.overheard_deliver envelope akin.subscribers.2)).akin

theorem move {move other : Move τ} (twin : c.Twin d) (alike : move.Alike other) :
    (c.move move).Twin (d.move other) := by
  cases alike with
  | register one other looksOn looksOnToo =>
    exact { twin with
      lookOn := List.forall_mem_append.mpr ⟨twin.lookOn, by simpa using looksOn⟩
      lookOnToo := List.forall_mem_append.mpr ⟨twin.lookOnToo, by simpa using looksOnToo⟩ }
  | same _ unregistered =>
    by_cases deaf : move = .signal
    next =>
      subst deaf
      exact of_akin (twin.akin.signal endures twin.inbox fun _ => rfl)
    next => exact of_akin (twin.akin.move endures deaf unregistered)

theorem run {moves others : List (Move τ)} (twin : c.Twin d)
    (alike : List.Forall₂ Move.Alike moves others) : (c.run moves).Twin (d.run others) := by
  induction alike generalizing c d with
  | nil => exact twin
  | cons first rest ih => exact ih (twin.move first)

omit [Transport τ] in
theorem taken {move other : Move τ} (twin : c.Twin d) (alike : move.Alike other) :
    c.obeyed? move = d.obeyed? other ∧ c.heeded? move = d.heeded? other := by
  cases alike with
  | register one other looksOn looksOnToo => exact ⟨rfl, rfl⟩
  | same _ unregistered =>
    cases move with
    | command => simp only [obeyed?, heeded?, twin.phase, twin.commands, and_self]
    | signal => simp only [obeyed?, heeded?, twin.phase, twin.inbox, and_self]
    | _ => exact ⟨rfl, rfl⟩

theorem taken_run {moves others : List (Move τ)} (twin : c.Twin d)
    (alike : List.Forall₂ Move.Alike moves others) :
    c.obeyed moves = d.obeyed others ∧ c.heeded moves = d.heeded others := by
  induction alike generalizing c d with
  | nil => exact ⟨rfl, rfl⟩
  | cons first rest ih =>
    obtain ⟨obeyed, heeded⟩ := twin.taken first
    obtain ⟨obeyedRest, heededRest⟩ := ih (twin.move first)
    simp only [Client.obeyed, Client.heeded] at obeyedRest heededRest ⊢
    simp only [collect, obeyed, heeded, obeyedRest, heededRest, and_self]

end Twin

theorem move_signal_of_queued {c : Client τ} (running : c.phase = .running) {signal : Signal}
    {rest : List Signal} (queued : c.inbox.signals = signal :: rest) :
    (c.move .signal).phase = .running ∧ (c.move .signal).inbox.signals = rest := by
  have moved : c.move .signal =
      { c with inbox := { c.inbox with signals := rest } }.handle signal := by
    simp [Client.move, takeSignal?, running, queued]
  rw [moved, (handle_keeps _ signal).2.2, (handle_outcome _ signal).2.1]
  exact ⟨running, rfl⟩

theorem onlookers_immaterial (nesting : Nat) (options : Options) (page : Page) (transport : τ)
    (subscribers others : List Subscriber) (moves twins : List (Move τ))
    (lookOn : ∀ subscriber ∈ subscribers ++ others, subscriber.LooksOn)
    (alike : List.Forall₂ Move.Alike moves twins) :
    let one := spawn nesting options page transport subscribers
    let other := spawn nesting options page transport others
    (∀ steps,
      let c := one.run (moves.take steps)
      let d := other.run (twins.take steps)
      c.connection = d.connection ∧ c.timers = d.timers ∧ c.transport = d.transport ∧
      transports c.events = transports d.events ∧
      c.phase = d.phase ∧ c.commands = d.commands ∧ c.inbox = d.inbox ∧
      (c.phase = .running → ∀ signal rest, c.inbox.signals = signal :: rest →
        (c.move .signal).phase = .running ∧ (c.move .signal).inbox.signals = rest ∧
        (d.move .signal).phase = .running ∧ (d.move .signal).inbox.signals = rest)) ∧
    one.obeyed moves = other.obeyed twins ∧ one.heeded moves = other.heeded twins := by
  intro one other
  obtain ⟨lookOnOne, lookOnOther⟩ := List.forall_mem_append.mp lookOn
  have spawned : one.Twin other := ⟨rfl, rfl, rfl, rfl, rfl, rfl, rfl, rfl, rfl, lookOnOne, lookOnOther⟩
  refine ⟨fun steps => ?_, spawned.taken_run alike⟩
  intro c d
  have twin : c.Twin d := spawned.run (List.forall₂_take steps alike)
  refine ⟨twin.connection, twin.timers, twin.transport, ?_, twin.phase, twin.commands, twin.inbox, ?_⟩
  · rw [← transports_conduct c.events, twin.conduct, transports_conduct]
  · intro running signal rest queued
    obtain ⟨phase, inbox⟩ := move_signal_of_queued running queued
    obtain ⟨phaseToo, inboxToo⟩ :=
      move_signal_of_queued (twin.phase ▸ running) (twin.inbox ▸ queued)
    exact ⟨phase, inbox, phaseToo, inboxToo⟩

theorem onlookers_immaterial_through_panics :
    let nervous : Subscriber := ⟨"nervous", true, fun _ _ => [.panic (.text "no")]⟩
    let picky : Subscriber :=
      ⟨"picky", false, fun _ envelope => if envelope.isConnected then [] else [.panic .other]⟩
    let later := [.begin, .report 1 .opened, .report 1 (.message "1"), .signal, .signal,
      .send "hello", .report 1 (.failed .connectionClosed), .signal]
    let stage : Stage := { scripts := [{ ready := .open }] }
    let one := (spawn 4 .default (.localhost 3000) stage [nervous]).run (.register nervous :: later)
    let other := (spawn 4 .default (.localhost 3000) stage []).run (.register picky :: later)
    one.connection = other.connection ∧ one.timers = other.timers ∧
      transports one.events = transports other.events ∧
      (heard one.events).map Prod.fst = ["nervous", "nervous"] ∧
      (heard other.events).map Prod.fst = ["picky", "picky"] ∧
      one.connection.state = .reconnecting := by
  intro nervous picky later stage one other
  have nervousLooksOn : nervous.LooksOn := by
    intro sight envelope effect reaction
    exact ⟨.text "no", List.mem_singleton.mp reaction⟩
  have pickyLooksOn : picky.LooksOn := by
    intro sight envelope effect reaction
    cases envelope with
    | connected => cases reaction
    | message data => exact ⟨.other, List.mem_singleton.mp reaction⟩
  have alike : List.Forall₂ Move.Alike (.register nervous :: later) (.register picky :: later) := by
    refine .cons (.register _ _ nervousLooksOn pickyLooksOn) (List.forall₂_same.mpr ?_)
    intro move member
    refine .same move ?_
    rintro subscriber rfl
    simp [later] at member
  obtain ⟨same, _⟩ := onlookers_immaterial 4 .default (.localhost 3000) stage [nervous] [] _ _
    (by simpa using nervousLooksOn) alike
  obtain ⟨connection, timers, _, told, _⟩ := same (later.length + 1)
  exact ⟨connection, timers, told, by decide +kernel, by decide +kernel, by decide +kernel⟩

end Client

end HotReload
