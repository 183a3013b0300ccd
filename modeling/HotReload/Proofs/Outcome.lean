import HotReload.Proofs.Echo

set_option autoImplicit false

namespace HotReload

def Report.ends : Report → Bool
  | .failed _ => true
  | .closed => true
  | _ => false

namespace Connection

theorem receive_of_not_live {c : Connection} (dead : c.isLive = false) (config : Config)
    (report : Report) : c.receive config ⟨c.generation, report⟩ = ⟨c, [], none⟩ := by
  have unready : c.state ≠ .connecting ∧ c.state ≠ .open := by simpa [isLive] using dead
  cases report with
  | opened => simp [receive, onOpened, unready]
  | message text => simp [receive, onMessage, unready]
  | failed error => simp [receive, onFailed, dead]
  | closed => simp [receive, onClosed, dead]

theorem receive_of_ends {c : Connection} (live : c.isLive = true) (config : Config)
    {report : Report} (ends : report.ends = true) :
    ((c.receive config ⟨c.generation, report⟩).connection.state = .idle ∨
      (c.receive config ⟨c.generation, report⟩).connection.state = .reconnecting) ∧
    (c.receive config ⟨c.generation, report⟩).delivery = none := by
  cases report with
  | opened => cases ends
  | message text => cases ends
  | failed error => simp [receive, onFailed, live]
  | closed => simp [receive, onClosed, live]

theorem receive_of_ne {c : Connection} {signal : Signal} (other : signal.generation ≠ c.generation)
    (config : Config) :
    c.receive config signal = ⟨c, [.note (.superseded signal.generation c.generation)], none⟩ := by
  simp [receive, other]

theorem receive_connection_of_not_live {c : Connection} (dead : c.isLive = false) (config : Config)
    (signal : Signal) : (c.receive config signal).connection = c := by
  by_cases same : signal.generation = c.generation
  next =>
    obtain ⟨generation, report⟩ := signal
    subst same
    rw [receive_of_not_live dead]
  next => rw [receive_of_ne same]

theorem isLive_of_delivery {c : Connection} {config : Config} {signal : Signal}
    {envelope : Envelope} (delivered : (c.receive config signal).delivery = some envelope) :
    signal.generation = c.generation ∧ c.isLive = true := by
  by_cases same : signal.generation = c.generation
  next =>
    obtain ⟨generation, report⟩ := signal
    subst same
    cases live : c.isLive with
    | true => exact ⟨rfl, rfl⟩
    | false =>
      rw [receive_of_not_live live] at delivered
      cases delivered
  next =>
    rw [receive_of_ne same] at delivered
    cases delivered

theorem open_of_delivery {c : Connection} {config : Config} {signal : Signal} {envelope : Envelope}
    (delivered : (c.receive config signal).delivery = some envelope) :
    (c.receive config signal).connection.state = .open := by
  obtain ⟨generation, report⟩ := signal
  obtain ⟨same, live⟩ := isLive_of_delivery delivered
  subst same
  cases report with
  | opened =>
    by_cases connecting : c.state = .connecting
    next => simp [receive, onOpened, connecting]
    next => simp [receive, onOpened, connecting] at delivered
  | message text =>
    by_cases isOpen : c.state = .open
    next =>
      simp only [receive, onMessage, isOpen, if_true]
      cases Envelope.ofFrame text <;> exact isOpen
    next => simp [receive, onMessage, isOpen] at delivered
  | failed error => simp [receive, onFailed, live] at delivered
  | closed => simp [receive, onClosed, live] at delivered

end Connection

namespace Client

variable {τ : Type} [Transport τ]

theorem act_keeps (c : Client τ) (action : Action) :
    (c.act action).config = c.config ∧ (c.act action).connection = c.connection ∧
      (c.act action).inbox = c.inbox ∧ ∀ bus, c.Echoes bus → (c.act action).Echoes bus := by
  cases action with
  | note notice => exact ⟨rfl, rfl, rfl, fun _ echoes => echoes.record _ rfl⟩
  | close generation =>
    refine ⟨rfl, rfl, rfl, fun bus echoes => ?_⟩
    have closed : Echoes { c with transport := Transport.closeSocket c.transport generation } bus :=
      { echoes with }
    exact closed.record _ rfl
  | arm generation => exact ⟨rfl, rfl, rfl, fun _ echoes => { echoes with }⟩

theorem actAll_keeps (c : Client τ) (actions : List Action) :
    (actions.foldl act c).config = c.config ∧ (actions.foldl act c).connection = c.connection ∧
      (actions.foldl act c).inbox = c.inbox ∧
      ∀ bus, c.Echoes bus → (actions.foldl act c).Echoes bus := by
  induction actions generalizing c with
  | nil => exact ⟨rfl, rfl, rfl, fun _ echoes => echoes⟩
  | cons action rest ih =>
    obtain ⟨config, connection, inbox, echo⟩ := c.act_keeps action
    obtain ⟨restConfig, restConnection, restInbox, restEcho⟩ := ih (c.act action)
    exact ⟨restConfig.trans config, restConnection.trans connection, restInbox.trans inbox,
      fun bus echoes => restEcho bus (echo bus echoes)⟩

theorem handle_outcome (c : Client τ) (signal : Signal) :
    (c.handle signal).connection = (c.connection.receive c.config signal).connection ∧
      (c.handle signal).inbox = c.inbox ∧
      ∀ bus, c.Echoes bus → (c.handle signal).Echoes
        ((c.connection.receive c.config signal).delivery.elim bus
          fun envelope => (dispatch (c.config.nesting + 1) envelope bus).1) := by
  have isOpen envelope
      (delivered : (c.connection.receive c.config signal).delivery = some envelope) :=
    Connection.open_of_delivery delivered
  simp only [handle, change]
  generalize c.connection.receive c.config signal = outcome at isOpen ⊢
  obtain ⟨config, connection, inbox, echo⟩ :=
    { c with connection := outcome.connection }.actAll_keeps outcome.actions
  have echo bus (echoes : c.Echoes bus) := echo bus { echoes with }
  cases delivery : outcome.delivery with
  | none => exact ⟨connection, inbox, echo⟩
  | some envelope =>
    have called := calledBack_deliver
      (outcome.actions.foldl act { c with connection := outcome.connection }) envelope
    have delivered bus (echoes : c.Echoes bus) := (echo bus echoes).deliver
      ((congrArg Connection.state connection).trans (isOpen envelope delivery)) envelope
    rw [config] at delivered
    exact ⟨called.connection.trans connection, called.inbox.trans inbox, delivered⟩

end Client

end HotReload
