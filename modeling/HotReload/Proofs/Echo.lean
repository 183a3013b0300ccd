import HotReload.Proofs.Transition

set_option autoImplicit false

namespace HotReload

-- Envelopes go out while the connection is open and at no other time.
def Bus.replay (nesting : Nat) (subscribers : List Subscriber) (envelopes : List Envelope) : Bus :=
  envelopes.foldl (fun bus envelope => (dispatch (nesting + 1) envelope bus).1)
    { subscribers, state? := some .open }

@[simp] theorem heard_losses (inbox : Inbox) (generation : Nat) (reports : List Report) :
    heard (inbox.losses generation reports) = [] := by
  unfold Inbox.losses
  split
  · simp [heard, Event.heard?]
  · rfl

@[simp] theorem heard_farewell (c : Connection) : heard c.farewell = [] := by
  unfold Connection.farewell
  cases c.current <;> rfl

namespace Client

structure Echoes {τ : Type} (c : Client τ) (bus : Bus) : Prop where
  subscribers : c.subscribers = bus.subscribers
  heard : heard c.events = heard bus.events
  isOpen : bus.state? = some .open

section echoes

variable {τ : Type} {c : Client τ} {bus : Bus}

theorem Echoes.record (echoes : c.Echoes bus) (event : Event) (unheard : event.heard? = none) :
    (c.record event).Echoes bus :=
  { echoes with heard := by simpa [Client.record, unheard] using echoes.heard }

theorem Echoes.order (echoes : c.Echoes bus) (command : Command) :
    (c.order command).Echoes bus := by
  unfold Client.order
  split
  · exact { echoes with }
  · exact echoes

theorem Echoes.of_same {after : Client τ} (echoes : c.Echoes bus)
    (subscribers : after.subscribers = c.subscribers)
    (unheard : HotReload.heard after.events = HotReload.heard c.events) : after.Echoes bus :=
  ⟨subscribers.trans echoes.subscribers, unheard.trans echoes.heard, echoes.isOpen⟩

variable [Transport τ]

theorem Echoes.start (echoes : c.Echoes bus) : c.start.Echoes bus := by
  have started := c.start_started
  generalize c.start = after at started ⊢
  cases started with
  | returned transport reports opening =>
    exact echoes.of_same rfl (by simp [Event.heard?, List.filterMap_cons])
  | panicked transport opening =>
    exact echoes.of_same rfl (by simp [Event.heard?, List.filterMap_cons])

theorem Echoes.disconnect (echoes : c.Echoes bus) : c.disconnect.Echoes bus := by
  rw [disconnect_eq]
  exact echoes.of_same rfl (by simp)

theorem Echoes.request (echoes : c.Echoes bus) (request : Request) :
    (c.request request).Echoes bus := by
  cases request with
  | send data =>
    simp only [Client.request, send]
    cases c.target? with
    | none => exact echoes.record _ rfl
    | some generation =>
      have sent : Echoes
          { c with transport := Transport.sendText c.transport generation data } bus :=
        { echoes with }
      exact sent.record _ rfl
  | restart => exact echoes.order .start
  | close => exact echoes.order .close

theorem mirrored_echoes :
    Mirrored fun (c : Client τ) (bus : Bus) => c.Echoes bus ∧ c.connection.state = .open where
  subscribers _ _ holds := holds.1.subscribers
  register c bus subscriber := by
    rintro ⟨echoes, isOpen⟩
    exact ⟨{ echoes with
      subscribers := by simp [Host.register, Client.register, echoes.subscribers] }, isOpen⟩
  announce c bus count := by
    rintro ⟨echoes, isOpen⟩
    exact ⟨{ echoes with
      heard := by simpa [Host.record, Client.record, Event.heard?] using echoes.heard }, isOpen⟩
  call c bus subscriber envelope := by
    rintro ⟨echoes, isOpen⟩
    exact ⟨{ echoes with
      heard := by simpa [recordCall, Host.record, Client.record, Event.heard?] using echoes.heard },
      isOpen⟩
  request c bus request := by
    rintro ⟨echoes, isOpen⟩
    have called := (CalledBack.refl c).request request
    exact ⟨echoes.request request, (congrArg Connection.state called.connection).trans isOpen⟩
  sight c bus := by
    rintro ⟨echoes, isOpen⟩
    simp only [Host.sight, Host.events, Host.state?, echoes.heard, echoes.isOpen, isOpen]

-- That the client catches panics makes no difference to those who were called.
theorem Echoes.deliver (echoes : c.Echoes bus) (isOpen : c.connection.state = .open)
    (envelope : Envelope) :
    (c.deliver envelope).Echoes (dispatch (c.config.nesting + 1) envelope bus).1 := by
  have agree := dispatch_agrees mirrored_echoes (c.config.nesting + 1) envelope c bus ⟨echoes, isOpen⟩
  unfold Client.deliver
  generalize dispatch (c.config.nesting + 1) envelope c = result at agree
  obtain ⟨after, reason⟩ := result
  obtain ⟨⟨heard, _⟩, _⟩ := agree
  cases reason with
  | finished => exact heard
  | panicked payload => exact heard.record _ rfl
  | exhausted => exact heard

end echoes

end Client

end HotReload
