import HotReload.Proofs.Callbacks

set_option autoImplicit false

namespace HotReload

-- Neither the opening nor the closing of a socket, nor the news that a server closed one.
def Event.isQuiet : Event → Bool
  | .opened _ _ => false
  | .closed _ => false
  | .noted (.closedByServer _) => false
  | _ => true

theorem Event.isQuiet_of_isOfFanout {current : Option Nat} {event : Event}
    (ofFanout : event.isOfFanout current = true) : event.isQuiet = true := by
  cases event with
  | noted notice => cases notice <;> simp_all [isOfFanout, isQuiet]
  | called name envelope state => rfl
  | opened generation url => simp [isOfFanout] at ofFanout
  | closed generation => simp [isOfFanout] at ofFanout
  | sent generation data => rfl

def Command.reconnect? : Command → Option Nat
  | .reconnect generation => some generation
  | _ => none

namespace Inbox

def emitAll (inbox : Inbox) (generation : Nat) (reports : List Report) : Inbox :=
  if inbox.isGone then inbox
  else { inbox with signals := inbox.signals ++ reports.map (Signal.mk generation) }

def losses (inbox : Inbox) (generation : Nat) (reports : List Report) : List Event :=
  if inbox.isGone then reports.map fun _ => .noted (.signalDropped generation) else []

theorem isQuiet_of_mem_losses {inbox : Inbox} {generation : Nat} {reports : List Report}
    {event : Event} (member : event ∈ inbox.losses generation reports) : event.isQuiet = true := by
  unfold losses at member
  split at member
  · obtain ⟨_, _, rfl⟩ := List.mem_map.mp member
    rfl
  · simp at member

end Inbox

namespace Client

variable {τ : Type}

theorem emitAll_eq (c : Client τ) (generation : Nat) (reports : List Report) :
    c.emitAll generation reports =
      { c with
        inbox := c.inbox.emitAll generation reports
        events := c.events ++ c.inbox.losses generation reports } := by
  induction reports generalizing c with
  | nil =>
    simp [emitAll, Inbox.emitAll, Inbox.losses]
  | cons report rest ih =>
    change (c.emit generation report).emitAll generation rest = _
    rw [ih]
    cases gone : c.inbox.isGone <;>
      simp [emit, Inbox.emit, Inbox.emitAll, Inbox.losses, note, record, gone]

-- What can happen to a client while its event loop does nothing and no timer fires.
structure Beside (c after : Client τ) : Prop where
  config : after.config = c.config
  connection : after.connection = c.connection
  phase : after.phase = c.phase
  timers : after.timers = c.timers
  commands : ∃ orders, after.commands = c.commands ++ orders ∧
    ∀ order ∈ orders, order.reconnect? = none
  events : ∃ news, after.events = c.events ++ news ∧ ∀ event ∈ news, event.isQuiet = true

theorem CalledBack.beside {c after : Client τ} (called : c.CalledBack after) : c.Beside after where
  config := called.config
  connection := called.connection
  phase := called.phase
  timers := called.timers
  commands := by
    obtain ⟨orders, commands, allowed⟩ := called.commands
    refine ⟨orders, commands, ?_⟩
    intro order member
    rcases allowed order member with rfl | rfl <;> rfl
  events := by
    obtain ⟨news, events, ofFanout⟩ := called.events
    exact ⟨news, events, fun event member => Event.isQuiet_of_isOfFanout (ofFanout event member)⟩

theorem order_eq (c : Client τ) (command : Command) :
    ∃ commands, c.order command = { c with commands } := by
  unfold order
  split <;> exact ⟨_, rfl⟩

theorem beside_order (c : Client τ) (command : Command) (other : command.reconnect? = none) :
    c.Beside (c.order command) := by
  unfold order
  split
  · exact ⟨rfl, rfl, rfl, rfl, ⟨[command], rfl, by simpa using other⟩, ⟨[], by simp⟩⟩
  · exact ⟨rfl, rfl, rfl, rfl, ⟨[], by simp⟩, ⟨[], by simp⟩⟩

theorem beside_emit (c : Client τ) (generation : Nat) (report : Report) :
    c.Beside (c.emit generation report) := by
  have emitted := c.emitAll_eq generation [report]
  change c.emit generation report = _ at emitted
  rw [emitted]
  exact ⟨rfl, rfl, rfl, rfl, ⟨[], by simp⟩,
    ⟨_, rfl, fun event member => Inbox.isQuiet_of_mem_losses member⟩⟩

-- What the event loop alone can change is as it was.
structure Unmoved (c after : Client τ) : Prop where
  config : after.config = c.config
  connection : after.connection = c.connection
  phase : after.phase = c.phase
  events : ∃ news, after.events = c.events ++ news ∧ ∀ event ∈ news, event.isQuiet = true

theorem Unmoved.refl (c : Client τ) : c.Unmoved c := ⟨rfl, rfl, rfl, [], by simp, by simp⟩

theorem Unmoved.record {c after : Client τ} (unmoved : c.Unmoved after) {event : Event}
    (quiet : event.isQuiet = true) : c.Unmoved (after.record event) := by
  obtain ⟨news, events, all⟩ := unmoved.events
  refine ⟨unmoved.config, unmoved.connection, unmoved.phase, news ++ [event], ?_, ?_⟩
  · rw [← List.append_assoc, ← events]
    rfl
  · simpa [or_imp, forall_and, quiet] using all

theorem Beside.unmoved {c after : Client τ} (beside : c.Beside after) : c.Unmoved after :=
  ⟨beside.config, beside.connection, beside.phase, beside.events⟩

end Client

end HotReload
