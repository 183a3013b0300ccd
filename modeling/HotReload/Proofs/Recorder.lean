import HotReload.Proofs.Echo

set_option autoImplicit false

namespace HotReload

def recorded (name : String) (events : List Event) : List Envelope :=
  ((heard events).filter fun call => call.1 = name).map Prod.snd

@[simp] theorem recorded_append (name : String) (events news : List Event) :
    recorded name (events ++ news) = recorded name events ++ recorded name news := by
  simp [recorded]

@[simp] theorem recorded_called (name other : String) (envelope : Envelope)
    (state : Option ConnectionState) :
    recorded name [.called other envelope state] = if other = name then [envelope] else [] := by
  by_cases same : other = name <;> simp [recorded, Event.heard?, same]

@[simp] theorem recorded_noted (name : String) (notice : Notice) :
    recorded name [.noted notice] = [] := rfl

inductive Effect.Discreet (reserved : String) : Effect → Prop where
  | register (name : String) (seesState : Bool) (react : Sight → Envelope → List Effect)
    (other : name ≠ reserved)
    (reactions : ∀ sight envelope, ∀ effect ∈ react sight envelope,
      Effect.Discreet reserved effect) :
    Discreet reserved (.register name seesState react)
  | request (request : Request) : Discreet reserved (.request request)
  | panic (payload : Panic) : Discreet reserved (.panic payload)

structure Subscriber.Discreet (reserved : String) (subscriber : Subscriber) : Prop where
  other : subscriber.name ≠ reserved
  reactions : ∀ sight envelope, ∀ effect ∈ subscriber.react sight envelope,
    effect.Discreet reserved

structure Bus.Attended (recorder : Subscriber) (record : List Envelope) (bus : Bus) : Prop where
  subscribers : ∃ others, bus.subscribers = recorder :: others ∧
    ∀ other ∈ others, other.Discreet recorder.name
  record : recorded recorder.name bus.events = record

namespace Bus.Attended

variable {recorder : Subscriber} {record : List Envelope} {bus : Bus}
  {nested : Envelope → Bus → Bus × Fanout}

theorem register (attended : bus.Attended recorder record) {subscriber : Subscriber}
    (discreet : subscriber.Discreet recorder.name) :
    (Host.register bus subscriber).Attended recorder record := by
  obtain ⟨others, first, discreetOthers⟩ := attended.subscribers
  refine ⟨⟨others ++ [subscriber], ?_, ?_⟩, attended.record⟩
  · simp [Host.register, first]
  · exact List.forall_mem_append.mpr ⟨discreetOthers, by simpa using discreet⟩

theorem called (attended : bus.Attended recorder record) {subscriber : Subscriber}
    (other : subscriber.name ≠ recorder.name) (envelope : Envelope) :
    (recordCall subscriber envelope bus).Attended recorder record := by
  exact ⟨attended.subscribers, by simp [recordCall, Host.record, other, attended.record]⟩

theorem announced (attended : bus.Attended recorder record) (count : Nat) :
    (Host.record bus (.noted (.dispatching count))).Attended recorder record :=
  ⟨attended.subscribers, by simp [Host.record, attended.record]⟩

theorem told (attended : bus.Attended recorder record) (envelope : Envelope) :
    (recordCall recorder envelope bus).Attended recorder (record ++ [envelope]) :=
  ⟨attended.subscribers, by simp [recordCall, Host.record, attended.record]⟩

theorem perform (attended : bus.Attended recorder record) {effect : Effect}
    (discreet : effect.Discreet recorder.name) :
    (HotReload.perform nested bus effect).1.Attended recorder record := by
  cases discreet with
  | register name seesState react other reactions => exact attended.register ⟨other, reactions⟩
  | request request => exact attended
  | panic payload => exact attended

theorem goOn {result : Bus × Fanout} {next : Bus → Bus × Fanout}
    (attended : result.1.Attended recorder record)
    (later : ∀ bus : Bus, bus.Attended recorder record → (next bus).1.Attended recorder record) :
    (Fanout.goOn result next).1.Attended recorder record := by
  obtain ⟨after, reason⟩ := result
  cases reason with
  | finished => exact later after attended
  | panicked payload => exact attended
  | exhausted => exact attended

theorem performAll (attended : bus.Attended recorder record) {effects : List Effect}
    (discreet : ∀ effect ∈ effects, effect.Discreet recorder.name) :
    (HotReload.performAll nested effects bus).1.Attended recorder record := by
  induction effects generalizing bus with
  | nil => exact attended
  | cons effect rest ih =>
    obtain ⟨first, later⟩ := List.forall_mem_cons.mp discreet
    exact (attended.perform first).goOn fun bus attended => ih attended later

theorem callAll (attended : bus.Attended recorder record) (envelope : Envelope)
    {subscribers : List Subscriber}
    (discreet : ∀ subscriber ∈ subscribers, subscriber.Discreet recorder.name) :
    (HotReload.callAll nested envelope subscribers bus).1.Attended recorder record := by
  induction subscribers generalizing bus with
  | nil => exact attended
  | cons subscriber rest ih =>
    obtain ⟨first, later⟩ := List.forall_mem_cons.mp discreet
    have reacted : Attended recorder record (HotReload.performAll nested
        (subscriber.react (Host.sight bus) envelope) (recordCall subscriber envelope bus)).1 :=
      (attended.called first.other envelope).performAll (first.reactions _ envelope)
    exact reacted.goOn fun bus attended => ih attended later

theorem dispatch (attended : bus.Attended recorder record)
    (records : ∀ sight envelope, recorder.react sight envelope = []) (depth : Nat) (envelope : Envelope) :
    (HotReload.dispatch (depth + 1) envelope bus).1.Attended recorder (record ++ [envelope]) := by
  obtain ⟨others, first, discreet⟩ := attended.subscribers
  have told := (attended.announced (recorder :: others).length).told envelope
  have snapshot : Host.subscribers bus = recorder :: others := first
  simp only [HotReload.dispatch, snapshot, HotReload.callAll, records, HotReload.performAll]
  exact told.callAll envelope discreet

end Bus.Attended

end HotReload
