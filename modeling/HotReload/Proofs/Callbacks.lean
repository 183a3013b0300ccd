import HotReload.Client
import HotReload.Proofs.Fanout

set_option autoImplicit false

namespace HotReload

-- The events of callbacks that run while this socket is in use.
def Event.isOfFanout (current : Option Nat) : Event → Bool
  | .called _ _ _ => true
  | .sent generation _ => current = some generation
  | .noted (.dispatching _) => true
  | .noted .frameDropped => true
  | .noted (.subscriberPanicked _) => true
  | _ => false

namespace Client

variable {τ : Type}

structure CalledBack (c after : Client τ) : Prop where
  config : after.config = c.config
  connection : after.connection = c.connection
  phase : after.phase = c.phase
  inbox : after.inbox = c.inbox
  timers : after.timers = c.timers
  now : after.now = c.now
  transport : c.connection.current = none → after.transport = c.transport
  subscribers : ∃ added, after.subscribers = c.subscribers ++ added
  commands : ∃ orders, after.commands = c.commands ++ orders ∧
    ∀ order ∈ orders, order = .start ∨ order = .close
  events : ∃ heard, after.events = c.events ++ heard ∧
    ∀ event ∈ heard, event.isOfFanout c.connection.current = true

namespace CalledBack

variable {c after : Client τ}

theorem refl (c : Client τ) : c.CalledBack c where
  config := rfl
  connection := rfl
  phase := rfl
  inbox := rfl
  timers := rfl
  now := rfl
  transport _ := rfl
  subscribers := ⟨[], by simp⟩
  commands := ⟨[], by simp⟩
  events := ⟨[], by simp⟩

theorem record (called : c.CalledBack after) (event : Event)
    (ofFanout : event.isOfFanout c.connection.current = true) :
    c.CalledBack (after.record event) := by
  obtain ⟨heard, events, all⟩ := called.events
  refine { called with events := ⟨heard ++ [event], ?_, ?_⟩ }
  · simp [Client.record, events]
  · intro other member
    rcases List.mem_append.mp member with old | new
    · exact all other old
    · rw [List.mem_singleton.mp new]
      exact ofFanout

theorem register (called : c.CalledBack after) (subscriber : Subscriber) :
    c.CalledBack (after.register subscriber) := by
  obtain ⟨added, subscribers⟩ := called.subscribers
  refine { called with subscribers := ⟨added ++ [subscriber], ?_⟩ }
  simp [Client.register, subscribers]

theorem order (called : c.CalledBack after) (command : Command)
    (allowed : command = .start ∨ command = .close) : c.CalledBack (after.order command) := by
  unfold Client.order
  split
  · obtain ⟨orders, commands, all⟩ := called.commands
    refine { called with commands := ⟨orders ++ [command], ?_, ?_⟩ }
    · simp [commands]
    · intro other member
      rcases List.mem_append.mp member with old | new
      · exact all other old
      · rw [List.mem_singleton.mp new]
        exact allowed
  · exact called

end CalledBack

variable [Transport τ]

theorem aim_eq_some_iff {c : Client τ} {current : Option Nat} {generation : Nat} :
    c.aim current = some generation ↔
      current = some generation ∧ Transport.ready c.transport generation = .open := by
  cases current with
  | none => simp [aim]
  | some present =>
    by_cases isOpen : Transport.ready c.transport present = .open
    next =>
      simp only [aim, if_pos isOpen, Option.some.injEq]
      exact ⟨fun same => ⟨same, same ▸ isOpen⟩, And.left⟩
    next =>
      simp only [aim, if_neg isOpen, Option.some.injEq]
      exact ⟨nofun, fun ⟨same, ready⟩ => absurd (same ▸ ready) isOpen⟩

namespace CalledBack

variable {c after : Client τ}

theorem send (called : c.CalledBack after) (data : String) : c.CalledBack (after.send data) := by
  unfold Client.send
  cases target : after.target? with
  | none => exact called.record _ rfl
  | some generation =>
    have inUse : c.connection.current = some generation := by
      rw [← called.connection]
      exact (aim_eq_some_iff.mp target).1
    have sent : c.CalledBack
        { after with transport := Transport.sendText after.transport generation data } :=
      { called with transport := fun none => by rw [none] at inUse; cases inUse }
    exact sent.record _ (by simp [Event.isOfFanout, inUse])

theorem request (called : c.CalledBack after) (request : Request) :
    c.CalledBack (after.request request) := by
  cases request with
  | send data => exact called.send data
  | restart => exact called.order .start (.inl rfl)
  | close => exact called.order .close (.inr rfl)

theorem kept (c : Client τ) : Kept c.CalledBack where
  register _ subscriber called := called.register subscriber
  announce _ _ called := called.record _ rfl
  call _ _ _ called := called.record _ rfl
  request _ request called := called.request request

end CalledBack

theorem calledBack_dispatch (c : Client τ) (depth : Nat) (envelope : Envelope) :
    c.CalledBack (dispatch depth envelope c).1 :=
  (CalledBack.kept c).dispatch depth envelope c (.refl c)

theorem calledBack_deliver (c : Client τ) (envelope : Envelope) :
    c.CalledBack (c.deliver envelope) := by
  have called := c.calledBack_dispatch (c.config.nesting + 1) envelope
  unfold deliver
  generalize dispatch (c.config.nesting + 1) envelope c = result at called
  obtain ⟨after, reason⟩ := result
  cases reason with
  | finished => exact called
  | panicked payload => exact called.record _ rfl
  | exhausted => exact called

end Client

end HotReload
