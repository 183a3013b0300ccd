import HotReload.Proofs.Silent

set_option autoImplicit false

namespace HotReload

def Request.command? : Request → Option Command
  | .send _ => none
  | .restart => some .start
  | .close => some .close

def Event.seen? : Event → Option ConnectionState
  | .called _ _ state => state
  | _ => none

structure Glimpse (τ : Type) where
  client : Client τ
  event? : Option Event := none
  command? : Option Command := none

structure Diary (τ : Type) where
  client : Client τ
  glimpses : List (Glimpse τ) := []

section diary

variable {τ : Type} [Transport τ]

instance : Host (Diary τ) where
  subscribers diary := diary.client.subscribers
  register diary subscriber :=
    ⟨diary.client.register subscriber, diary.glimpses ++ [{ client := diary.client }]⟩
  record diary event :=
    ⟨diary.client.record event,
      diary.glimpses ++ [{ client := diary.client, event? := some event }]⟩
  request diary request :=
    ⟨diary.client.request request,
      diary.glimpses ++ [{ client := diary.client, command? := request.command? }]⟩
  events diary := diary.client.events
  state? diary := some diary.client.connection.state

-- The sockets once the frames of this record have gone out, and nothing else has.
def forwarded (transport : τ) (events : List Event) : τ :=
  events.foldl
    (fun transport event =>
      match event with
      | .sent generation data => Transport.sendText transport generation data
      | _ => transport)
    transport

theorem forwarded_append (transport : τ) (events others : List Event) :
    forwarded transport (events ++ others) = forwarded (forwarded transport events) others :=
  List.foldl_append

end diary

namespace Client

variable {τ : Type} [Transport τ]

-- However much callbacks have done, the connection and the sockets are as they were.
structure Undisturbed (c here : Client τ) : Prop where
  calledBack : c.CalledBack here
  news : ∃ news, here.events = c.events ++ news ∧ here.transport = forwarded c.transport news ∧
    ∀ event ∈ news, ∀ state ∈ event.seen?, state = c.connection.state

namespace Undisturbed

variable {c here : Client τ}

theorem refl (c : Client τ) : c.Undisturbed c :=
  ⟨.refl c, [], by simp, rfl, by simp⟩

theorem of_same {after : Client τ} (undisturbed : c.Undisturbed here)
    (calledBack : c.CalledBack after) (events : after.events = here.events)
    (transport : after.transport = here.transport) : c.Undisturbed after :=
  ⟨calledBack, by rw [events, transport]; exact undisturbed.news⟩

theorem append {after : Client τ} (undisturbed : c.Undisturbed here)
    (calledBack : c.CalledBack after) (event : Event) (events : after.events = here.events ++ [event])
    (transport : after.transport = forwarded here.transport [event])
    (seen : ∀ state ∈ event.seen?, state = c.connection.state) : c.Undisturbed after := by
  obtain ⟨news, before, sent, all⟩ := undisturbed.news
  refine ⟨calledBack, news ++ [event], ?_, ?_, ?_⟩
  · rw [events, before, List.append_assoc]
  · rw [transport, sent, forwarded_append]
  · intro other member
    rcases List.mem_append.mp member with old | new
    · exact all other old
    · rw [List.mem_singleton.mp new]
      exact seen

theorem announce (undisturbed : c.Undisturbed here) (notice : Notice)
    (ofFanout : (Event.noted notice).isOfFanout c.connection.current = true) :
    c.Undisturbed (here.note notice) :=
  undisturbed.append (undisturbed.calledBack.record _ ofFanout) _ rfl rfl (by simp [Event.seen?])

theorem call (undisturbed : c.Undisturbed here) (subscriber : Subscriber) (envelope : Envelope) :
    c.Undisturbed (recordCall subscriber envelope here) := by
  refine undisturbed.append (undisturbed.calledBack.record _ rfl) _ rfl rfl ?_
  intro state seen
  cases sees : subscriber.seesState with
  | true =>
    have shown : here.connection.state = state := by simpa [Event.seen?, sees, Host.state?] using seen
    rw [← shown, undisturbed.calledBack.connection]
  | false => simp [Event.seen?, sees] at seen

theorem order (undisturbed : c.Undisturbed here) (command : Command)
    (allowed : command = .start ∨ command = .close) : c.Undisturbed (here.order command) := by
  obtain ⟨commands, same⟩ := here.order_eq command
  refine undisturbed.of_same (undisturbed.calledBack.order command allowed) ?_ ?_ <;> rw [same]

theorem send (undisturbed : c.Undisturbed here) (data : String) : c.Undisturbed (here.send data) := by
  have calledBack := undisturbed.calledBack.send data
  unfold Client.send at calledBack ⊢
  cases target : here.target? with
  | none =>
    simp only [target] at calledBack
    exact undisturbed.append calledBack _ rfl rfl (by simp [Event.seen?])
  | some generation =>
    simp only [target] at calledBack
    exact undisturbed.append calledBack _ rfl rfl (by simp [Event.seen?])

theorem request (undisturbed : c.Undisturbed here) (request : Request) :
    c.Undisturbed (here.request request) := by
  cases request with
  | send data => exact undisturbed.send data
  | restart => exact undisturbed.order .start (.inl rfl)
  | close => exact undisturbed.order .close (.inr rfl)

end Undisturbed

structure Witnessed (c : Client τ) (glimpses : List (Glimpse τ)) (here : Client τ) : Prop where
  undisturbed : c.Undisturbed here
  each : ∀ glimpse ∈ glimpses, c.Undisturbed glimpse.client ∧
    c.events <+: glimpse.client.events ∧ glimpse.client.events <+: here.events
  heard : heard here.events = heard c.events ++ heard (glimpses.filterMap Glimpse.event?)
  commands : c.isLive = true →
    here.commands = c.commands ++ glimpses.filterMap Glimpse.command?

namespace Witnessed

variable {c here : Client τ} {glimpses : List (Glimpse τ)}

theorem begin (c : Client τ) : c.Witnessed [] c :=
  ⟨.refl c, by simp, by simp, by simp⟩

theorem step {after : Client τ} (witnessed : c.Witnessed glimpses here)
    (undisturbed : c.Undisturbed after) (event? : Option Event) (command? : Option Command)
    (events : here.events <+: after.events)
    (heard : HotReload.heard after.events =
      HotReload.heard here.events ++ HotReload.heard event?.toList)
    (commands : c.isLive = true → after.commands = here.commands ++ command?.toList) :
    c.Witnessed (glimpses ++ [⟨here, event?, command?⟩]) after where
  undisturbed := undisturbed
  each := by
    intro glimpse member
    rcases List.mem_append.mp member with old | new
    · obtain ⟨same, since, early⟩ := witnessed.each glimpse old
      exact ⟨same, since, early.trans events⟩
    · rw [List.mem_singleton.mp new]
      obtain ⟨news, before, _⟩ := witnessed.undisturbed.news
      exact ⟨witnessed.undisturbed, ⟨news, before.symm⟩, events⟩
  heard := by
    rw [heard, witnessed.heard]
    cases event? <;> simp
  commands live := by
    rw [commands live, witnessed.commands live]
    cases command? <;> simp

theorem record (witnessed : c.Witnessed glimpses here) (event : Event)
    (undisturbed : c.Undisturbed (here.record event)) :
    c.Witnessed (glimpses ++ [{ client := here, event? := some event }]) (here.record event) :=
  witnessed.step undisturbed (some event) none (List.prefix_append _ _)
    (by simp [Client.record, List.filterMap_append]) (by simp [Client.record])

theorem order (witnessed : c.Witnessed glimpses here) (command : Command)
    (undisturbed : c.Undisturbed (here.order command)) :
    c.Witnessed (glimpses ++ [{ client := here, command? := some command }])
      (here.order command) := by
  obtain ⟨commands, same⟩ := here.order_eq command
  refine witnessed.step undisturbed none (some command) ?_ ?_ ?_
  · simp [same]
  · simp [same]
  · intro live
    have going : here.isLive = true := by
      simpa only [isLive, witnessed.undisturbed.calledBack.phase] using live
    simp [Client.order, going]

theorem request (witnessed : c.Witnessed glimpses here) (request : Request) :
    c.Witnessed (glimpses ++ [{ client := here, command? := request.command? }])
      (here.request request) := by
  have undisturbed := witnessed.undisturbed.request request
  cases request with
  | send data =>
    simp only [Client.request, Client.send] at undisturbed ⊢
    -- Sent or dropped, a frame leaves an event that no subscriber hears.
    cases target : here.target? with
    | none =>
      simp only [target, give] at undisturbed ⊢
      exact witnessed.step undisturbed none none (List.prefix_append _ _)
        (by simp [Client.note, Client.record, Event.heard?]) (by simp [Client.note, Client.record])
    | some generation =>
      simp only [target, give] at undisturbed ⊢
      exact witnessed.step undisturbed none none (List.prefix_append _ _)
        (by simp [Client.record, Event.heard?]) (by simp [Client.record])
  | restart => exact witnessed.order .start undisturbed
  | close => exact witnessed.order .close undisturbed

theorem mirrored (c : Client τ) :
    Mirrored fun (here : Client τ) (diary : Diary τ) =>
      diary.client = here ∧ c.Witnessed diary.glimpses here where
  subscribers := by rintro here diary ⟨rfl, _⟩; rfl
  register := by
    rintro here diary subscriber ⟨rfl, witnessed⟩
    have undisturbed : c.Undisturbed (diary.client.register subscriber) :=
      witnessed.undisturbed.of_same (witnessed.undisturbed.calledBack.register subscriber) rfl rfl
    exact ⟨rfl, witnessed.step undisturbed none none List.prefix_rfl (by simp [Client.register])
      (by simp [Client.register])⟩
  announce := by
    rintro here diary count ⟨rfl, witnessed⟩
    exact ⟨rfl, witnessed.record _ (witnessed.undisturbed.announce _ rfl)⟩
  call := by
    rintro here diary subscriber envelope ⟨rfl, witnessed⟩
    exact ⟨rfl, witnessed.record _ (witnessed.undisturbed.call subscriber envelope)⟩
  request := by
    rintro here diary request ⟨rfl, witnessed⟩
    exact ⟨rfl, witnessed.request request⟩
  sight := by rintro here diary ⟨rfl, _⟩; rfl

end Witnessed

def diary (c : Client τ) (envelope : Envelope) : List (Glimpse τ) :=
  (dispatch (c.config.nesting + 1) envelope (Diary.mk c [])).1.glimpses

theorem witnessed_dispatch (c : Client τ) (envelope : Envelope) :
    c.Witnessed (c.diary envelope) (dispatch (c.config.nesting + 1) envelope c).1 :=
  (dispatch_agrees (Witnessed.mirrored c) _ envelope c ⟨c, []⟩ ⟨rfl, .begin c⟩).1.2

theorem witnessed_deliver (c : Client τ) (envelope : Envelope) :
    c.Witnessed (c.diary envelope) (c.deliver envelope) := by
  have witnessed := c.witnessed_dispatch envelope
  unfold deliver
  generalize dispatch (c.config.nesting + 1) envelope c = result at witnessed
  obtain ⟨after, reason⟩ := result
  cases reason with
  | finished => exact witnessed
  | exhausted => exact witnessed
  | panicked payload =>
    -- By the time the panic is noted no callback is there to see it.
    exact {
      undisturbed := witnessed.undisturbed.announce _ rfl
      each := fun glimpse member =>
        have ⟨same, since, early⟩ := witnessed.each glimpse member
        ⟨same, since, early.trans (List.prefix_append _ _)⟩
      heard := by
        rw [← witnessed.heard]
        simp [note, record, Event.heard?]
      commands := witnessed.commands }

def calling? (c : Client τ) (move : Move τ) : Option (Client τ × Envelope) :=
  match move, c.heeded? move with
  | .publish envelope, _ => some (c, envelope)
  | .signal, some signal =>
    let taken := { c with inbox := { c.inbox with signals := c.inbox.signals.tail } }
    (c.connection.receive c.config signal).delivery.map fun envelope =>
      (taken.received signal, envelope)
  | _, _ => none

def glimpses (c : Client τ) (move : Move τ) : List (Glimpse τ) :=
  match c.calling? move with
  | some (base, envelope) => base.diary envelope
  | none => []

end Client

end HotReload
