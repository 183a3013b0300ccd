import HotReload.Proofs.Course
import HotReload.Proofs.Outcome

set_option autoImplicit false

namespace HotReload

-- Only a wish to send leaves these.
def Event.isAnswer : Event → Bool
  | .sent _ _ => true
  | .noted .frameDropped => true
  | _ => false

abbrev answers (events : List Event) : List Event := events.filter Event.isAnswer

@[simp] theorem answers_farewell (c : Connection) : answers c.farewell = [] := by
  unfold Connection.farewell
  cases c.current <;> rfl

@[simp] theorem answers_losses (inbox : Inbox) (generation : Nat) (reports : List Report) :
    answers (inbox.losses generation reports) = [] := by
  unfold Inbox.losses
  split
  · simp [Event.isAnswer]
  · rfl

def Event.answer (data : String) : Option Nat → Event
  | some generation => .sent generation data
  | none => .noted .frameDropped

@[simp] theorem Event.isAnswer_answer (data : String) (target : Option Nat) :
    (answer data target).isAnswer = true := by
  cases target <;> rfl

theorem Event.answer_eq_sent {data text : String} {target : Option Nat} {generation : Nat}
    (same : answer data target = .sent generation text) :
    target = some generation ∧ data = text := by
  cases target with
  | none => cases same
  | some other =>
    cases same
    exact ⟨rfl, rfl⟩

-- Whoever wishes to send does so while the client is like this.
structure Wish (τ : Type) where
  client : Client τ
  data : String

def Wish.answer {τ : Type} [Transport τ] (wish : Wish τ) : Event :=
  .answer wish.data wish.client.target?

theorem Connection.release_actions (c : Connection) :
    ∀ action ∈ c.release.2, action ≠ .note .frameDropped := by
  unfold Connection.release
  cases c.current <;> simp

theorem Connection.receive_actions (c : Connection) (config : Config) (signal : Signal) :
    ∀ action ∈ (c.receive config signal).actions, action ≠ .note .frameDropped := by
  have released := c.release_actions
  obtain ⟨generation, report⟩ := signal
  unfold receive
  split
  next =>
    cases report with
    | opened =>
      simp only [onOpened]
      split
      · cases config.announces <;> simp
      · simp
    | message text =>
      simp only [onMessage]
      split
      · cases Envelope.ofFrame text <;> simp
      · simp
    | failed error =>
      simp only [onFailed]
      split
      · simpa [or_imp, forall_and] using released
      · simp
    | closed =>
      simp only [onClosed]
      split <;> simp
  next => simp

namespace Client

variable {τ : Type}

def Silent (c after : Client τ) : Prop :=
  ∃ news, after.events = c.events ++ news ∧ answers news = []

theorem Silent.of_same {c after : Client τ} (same : after.events = c.events) : c.Silent after :=
  ⟨[], by rw [same, List.append_nil], rfl⟩

theorem Silent.trans {c middle after : Client τ} (first : c.Silent middle)
    (second : middle.Silent after) : c.Silent after := by
  obtain ⟨news, events, silent⟩ := first
  obtain ⟨others, later, silentLater⟩ := second
  refine ⟨news ++ others, by rw [later, events, List.append_assoc], ?_⟩
  simp only [List.filter_append, silent, silentLater, List.append_nil]

theorem Silent.sent_of_prefix {c after : Client τ} (silent : c.Silent after) {before : List Event}
    {generation : Nat} {data : String} (sent : before ++ [.sent generation data] <+: after.events) :
    before ++ [.sent generation data] <+: c.events := by
  obtain ⟨news, events, unasked⟩ := silent
  obtain ⟨rest, same⟩ := sent
  rw [events] at same
  rcases List.append_eq_append_iff.mp same with ⟨more, shorter, -⟩ | ⟨more, longer, fresh⟩
  · exact ⟨more, shorter.symm⟩
  · rcases List.eq_nil_or_concat more with rfl | ⟨others, last, rfl⟩
    · exact ⟨[], by simpa using longer⟩
    · rw [List.concat_eq_append, ← List.append_assoc] at longer
      obtain ⟨-, lastSent⟩ := List.append_inj' longer rfl
      have answered : Event.sent generation data ∈ answers news := by
        rw [fresh]
        simp [← lastSent, Event.isAnswer]
      rw [unasked] at answered
      cases answered

theorem silent_record (c : Client τ) {event : Event} (unasked : event.isAnswer = false) :
    c.Silent (c.record event) :=
  ⟨[event], rfl, by simp [unasked]⟩

theorem silent_order (c : Client τ) (command : Command) : c.Silent (c.order command) := by
  obtain ⟨commands, same⟩ := c.order_eq command
  rw [same]
  exact .of_same rfl

theorem silent_emit (c : Client τ) (generation : Nat) (report : Report) :
    c.Silent (c.emit generation report) := by
  have emitted := c.emitAll_eq generation [report]
  change c.emit generation report = _ at emitted
  rw [emitted]
  exact ⟨_, rfl, answers_losses _ _ _⟩

variable [Transport τ]

theorem silent_fire (c : Client τ) (index : Nat) : c.Silent (c.move (.fire index)) := by
  simp only [move]
  split
  next timer armed =>
    split
    next due => exact silent_order { c with timers := c.timers.eraseIdx index } _
    next => exact .of_same rfl
  next => exact .of_same rfl

theorem silent_start (c : Client τ) : c.Silent c.start := by
  have started := c.start_started
  generalize c.start = after at started ⊢
  cases started with
  | returned transport reports opening =>
    refine ⟨c.connection.farewell ++ ([.noted (.opening (c.connection.generation + 1) c.config.url),
      .opened (c.connection.generation + 1) c.config.url] ++
        c.inbox.losses (c.connection.generation + 1) reports), by simp, ?_⟩
    simp [Event.isAnswer]
  | panicked transport opening =>
    exact ⟨_, List.append_assoc _ _ _, by simp [Event.isAnswer]⟩

theorem silent_disconnect (c : Client τ) : c.Silent c.disconnect := by
  rw [disconnect_eq]
  exact ⟨_, rfl, answers_farewell _⟩

theorem silent_obey (c : Client τ) (command : Command) : c.Silent (c.obey command) := by
  cases command with
  | start => exact c.silent_start
  | reconnect generation =>
    simp only [obey, reconnect]
    split
    · exact (c.silent_record rfl).trans (silent_start _)
    · exact c.silent_record rfl
  | close => exact c.silent_disconnect
  | shutdown => exact c.silent_disconnect.trans (silent_record _ rfl)

-- What a signal does before its envelope goes out.
def received (c : Client τ) (signal : Signal) : Client τ :=
  let outcome := c.connection.receive c.config signal
  c.change outcome.connection outcome.actions

theorem handle_eq (c : Client τ) (signal : Signal) :
    c.handle signal =
      (c.connection.receive c.config signal).delivery.elim (c.received signal)
        (c.received signal).deliver := by
  simp only [handle, received]
  cases (c.connection.receive c.config signal).delivery <;> rfl

theorem silent_act (c : Client τ) {action : Action} (unasked : action ≠ .note .frameDropped) :
    c.Silent (c.act action) := by
  cases action with
  | note notice =>
    apply c.silent_record
    cases notice <;> simp_all [Event.isAnswer]
  | close generation => exact ⟨[.closed generation], rfl, rfl⟩
  | arm generation => exact .of_same rfl

theorem silent_actAll (c : Client τ) (actions : List Action)
    (unasked : ∀ action ∈ actions, action ≠ .note .frameDropped) :
    c.Silent (actions.foldl act c) := by
  induction actions generalizing c with
  | nil => exact .of_same rfl
  | cons action rest ih =>
    have first := c.silent_act (unasked action (by simp))
    exact first.trans (ih (c.act action) fun other member => unasked other (by simp [member]))

theorem silent_received (c : Client τ) (signal : Signal) : c.Silent (c.received signal) :=
  silent_actAll { c with connection := (c.connection.receive c.config signal).connection } _
    (c.connection.receive_actions c.config signal)

end Client

end HotReload
