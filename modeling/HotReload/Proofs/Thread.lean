import HotReload.Proofs.Silent

set_option autoImplicit false

namespace HotReload

-- What callbacks have still to do, or what has still to be done for them.
inductive Task where
  | dispatch (envelope : Envelope)
  | call (subscribers : List Subscriber) (envelope : Envelope)
  | perform (effects : List Effect)

structure Sending (τ : Type) where
  data : String
  -- The client when the handle was read.
  took : Client τ
  -- And when the socket found there was asked for its ready state, once that has been done.
  asked? : Option (Client τ) := none

-- A send that is over.
structure Errand (τ : Type) where
  onLoop : Bool
  data : String
  took : Client τ
  asked : Client τ
  gave : Client τ

-- Whoever calls back or sends, at one thing at a time. The tasks are a stack: a dispatch from
-- inside a callback is over before the callback goes on.
structure Thread (τ : Type) where
  tasks : List Task := []
  sending : Option (Sending τ) := none

structure Progress (τ : Type) where
  client : Client τ
  thread : Thread τ
  wish? : Option (Wish τ) := none
  errand? : Option (Errand τ) := none
  panic? : Option Panic := none

namespace Thread

variable {τ : Type}

def isIdle (thread : Thread τ) : Bool := thread.tasks.isEmpty && thread.sending.isNone

theorem eq_of_isIdle {thread : Thread τ} (idle : thread.isIdle = true) : thread = {} := by
  obtain ⟨tasks, sending⟩ := thread
  obtain ⟨rfl, rfl⟩ : tasks = [] ∧ sending = none := by simpa [isIdle] using idle
  rfl

end Thread

section thread

variable {τ : Type}

def Sending.wish (sending : Sending τ) : Wish τ := ⟨sending.took, sending.data⟩

namespace Errand

def wish (errand : Errand τ) : Wish τ := ⟨errand.took, errand.data⟩

variable [Transport τ]

def target? (errand : Errand τ) : Option Nat := errand.asked.aim errand.took.connection.current

def answer (errand : Errand τ) : Event := .answer errand.data errand.target?

def outcome (errand : Errand τ) : Client τ := errand.gave.give errand.data errand.target?

end Errand

end thread

namespace Client

variable {τ : Type} [Transport τ]

-- The first effect of a callback whose others are among the tasks that are left.
def carryOut (c : Client τ) (tasks : List Task) : Effect → Progress τ
  | .register name seesState react =>
    { client := c.register ⟨name, seesState, react⟩, thread := { tasks } }
  | .dispatch text =>
    match Envelope.ofFrame text with
    | .ok envelope => { client := c, thread := { tasks := .dispatch envelope :: tasks } }
    | .error _ => { client := c, thread := { tasks } }
  | .request (.send data) =>
    { client := c
      thread := { tasks, sending := some { data, took := c } }
      wish? := some ⟨c, data⟩ }
  | .request .restart => { client := c.restart, thread := { tasks } }
  | .request .close => { client := c.close, thread := { tasks } }
  | .panic payload => { client := c, thread := {}, panic? := some payload }

def carryOn (c : Client τ) : List Task → Progress τ
  | [] => { client := c, thread := {} }
  | .dispatch envelope :: tasks =>
    { client := c.note (.dispatching c.subscribers.length)
      thread := { tasks := .call c.subscribers envelope :: tasks } }
  | .call [] _ :: tasks => { client := c, thread := { tasks } }
  | .call (subscriber :: others) envelope :: tasks =>
    let effects := subscriber.react (Host.sight c) envelope
    { client := recordCall subscriber envelope c
      thread := { tasks := .perform effects :: .call others envelope :: tasks } }
  | .perform [] :: tasks => { client := c, thread := { tasks } }
  | .perform (effect :: effects) :: tasks => c.carryOut (.perform effects :: tasks) effect

-- The next thing that a thread does, on the event loop or on its own.
def advance (onLoop : Bool) (c : Client τ) (thread : Thread τ) : Progress τ :=
  match thread.sending with
  | none => c.carryOn thread.tasks
  | some ⟨data, took, none⟩ =>
    { client := c, thread := { thread with sending := some ⟨data, took, some c⟩ } }
  | some ⟨data, took, some asked⟩ =>
    let errand : Errand τ := ⟨onLoop, data, took, asked, c⟩
    { client := errand.outcome, thread := { thread with sending := none }, errand? := some errand }

inductive Advanced (onLoop : Bool) (c : Client τ) (thread : Thread τ) : Progress τ → Prop where
  | carried (after : Client τ) (tasks : List Task) (panic? : Option Panic)
    (vacant : thread.sending = none) (called : c.CalledBack after) (silent : c.Silent after)
    (ended : panic?.isSome → tasks = []) :
    Advanced onLoop c thread ⟨after, ⟨tasks, none⟩, none, none, panic?⟩
  | took (data : String) (tasks : List Task) (vacant : thread.sending = none) :
    Advanced onLoop c thread ⟨c, ⟨tasks, some ⟨data, c, none⟩⟩, some ⟨c, data⟩, none, none⟩
  | asked (data : String) (took : Client τ) (sending : thread.sending = some ⟨data, took, none⟩) :
    Advanced onLoop c thread
      ⟨c, ⟨thread.tasks, some ⟨data, took, some c⟩⟩, none, none, none⟩
  | gave (data : String) (took asked : Client τ)
    (sending : thread.sending = some ⟨data, took, some asked⟩) :
    Advanced onLoop c thread
      ⟨Errand.outcome ⟨onLoop, data, took, asked, c⟩, ⟨thread.tasks, none⟩, none,
        some ⟨onLoop, data, took, asked, c⟩, none⟩

theorem advance_advanced (onLoop : Bool) (c : Client τ) (thread : Thread τ) :
    c.Advanced onLoop thread (c.advance onLoop thread) := by
  have still {tasks : List Task} (vacant : thread.sending = none) :
      c.Advanced onLoop thread ⟨c, ⟨tasks, none⟩, none, none, none⟩ :=
    .carried c tasks none vacant (.refl c) (.of_same rfl) nofun
  obtain ⟨tasks, sending⟩ := thread
  match sending with
  | some ⟨data, took, none⟩ => exact .asked data took rfl
  | some ⟨data, took, some asked⟩ => exact .gave data took asked rfl
  | none =>
    match tasks with
    | [] => exact still rfl
    | .dispatch envelope :: tasks =>
      exact .carried _ _ none rfl ((CalledBack.refl c).record _ rfl) (c.silent_record rfl) nofun
    | .call [] envelope :: tasks => exact still rfl
    | .call (subscriber :: others) envelope :: tasks =>
      exact .carried _ _ none rfl ((CalledBack.refl c).record _ rfl) (c.silent_record rfl) nofun
    | .perform [] :: tasks => exact still rfl
    | .perform (effect :: effects) :: tasks =>
      simp only [advance, carryOn]
      cases effect with
      | register name seesState react =>
        exact .carried _ _ none rfl ((CalledBack.refl c).register _) (.of_same rfl) nofun
      | dispatch text =>
        simp only [carryOut]
        cases Envelope.ofFrame text <;> exact still rfl
      | request request =>
        cases request with
        | send data => exact .took data _ rfl
        | restart =>
          exact .carried _ _ none rfl ((CalledBack.refl c).order .start (.inl rfl))
            (c.silent_order _) nofun
        | close =>
          exact .carried _ _ none rfl ((CalledBack.refl c).order .close (.inr rfl))
            (c.silent_order _) nofun
      | panic payload =>
        exact .carried c [] (some payload) rfl (.refl c) (.of_same rfl) fun _ => rfl

theorem give_events (c : Client τ) (data : String) (target : Option Nat) :
    (c.give data target).events = c.events ++ [.answer data target] := by
  cases target <;> rfl

theorem unmoved_give (c : Client τ) (data : String) (target : Option Nat) :
    c.Unmoved (c.give data target) := by
  refine ⟨?_, ?_, ?_, [.answer data target], c.give_events data target, ?_⟩
  · cases target <;> rfl
  · cases target <;> rfl
  · cases target <;> rfl
  · cases target <;> simp [Event.answer, Event.isQuiet]

namespace Advanced

variable {onLoop : Bool} {c : Client τ} {thread : Thread τ} {progress : Progress τ}

theorem unmoved (advanced : c.Advanced onLoop thread progress) : c.Unmoved progress.client := by
  cases advanced with
  | carried after tasks panic? vacant called silent ended => exact called.beside.unmoved
  | took | asked => exact .refl c
  | gave data took asked sending => exact c.unmoved_give _ _

-- A thread answers nobody until it has done with a send, and then once.
theorem answers (advanced : c.Advanced onLoop thread progress) :
    ∃ news, progress.client.events = c.events ++ news ∧
      HotReload.answers news = progress.errand?.toList.map Errand.answer := by
  cases advanced with
  | carried after tasks panic? vacant called silent ended => exact silent
  | took | asked => exact ⟨[], by simp, rfl⟩
  | gave data took asked sending => exact ⟨_, c.give_events _ _, by simp [Errand.answer]⟩

theorem wishes (advanced : c.Advanced onLoop thread progress) :
    thread.sending.toList.map Sending.wish ++ progress.wish?.toList =
      progress.errand?.toList.map Errand.wish ++
        progress.thread.sending.toList.map Sending.wish := by
  cases advanced with
  | carried after tasks panic? vacant called silent ended => simp [vacant]
  | took data tasks vacant => simp [vacant, Sending.wish]
  | asked data took sending => simp [sending, Sending.wish]
  | gave data took asked sending => simp [sending, Sending.wish, Errand.wish]

end Advanced

-- A thread that is left to itself.
inductive Continues (onLoop : Bool) : Client τ → Thread τ → Client τ → Thread τ → Prop where
  | rest (c : Client τ) (thread : Thread τ) : Continues onLoop c thread c thread
  | step {c after : Client τ} {thread others : Thread τ}
    (calm : (c.advance onLoop thread).panic? = none)
    (later : Continues onLoop (c.advance onLoop thread).client (c.advance onLoop thread).thread
      after others) :
    Continues onLoop c thread after others

theorem Continues.trans {onLoop : Bool} {c middle after : Client τ}
    {thread between others : Thread τ}
    (first : Continues onLoop c thread middle between)
    (second : Continues onLoop middle between after others) :
    Continues onLoop c thread after others := by
  induction first with
  | rest => exact second
  | step calm later ih => exact .step calm (ih second)

theorem Continues.of_advance {onLoop : Bool} {c : Client τ} {thread : Thread τ}
    {progress : Progress τ} (next : c.advance onLoop thread = progress)
    (calm : progress.panic? = none) :
    Continues onLoop c thread progress.client progress.thread := by
  subst next
  exact .step calm (.rest _ _)

-- What a fan-out does in one go is done before the tasks beneath it are taken up, or it panics.
def Ends (onLoop : Bool) (c : Client τ) (tasks : List Task) (result : Client τ × Fanout)
    (beneath : List Task) : Prop :=
  match result.2 with
  | .finished => Continues onLoop c ⟨tasks, none⟩ result.1 ⟨beneath, none⟩
  | .panicked payload =>
    ∃ here others, Continues onLoop c ⟨tasks, none⟩ here ⟨others, none⟩ ∧
      here.advance onLoop ⟨others, none⟩ =
        { client := result.1, thread := {}, panic? := some payload }
  | .exhausted => True

namespace Ends

variable {onLoop : Bool} {c : Client τ} {tasks beneath : List Task}

theorem of_continues {middle : Client τ} {between : List Task} {result : Client τ × Fanout}
    (first : Continues onLoop c ⟨tasks, none⟩ middle ⟨between, none⟩)
    (ends : Ends onLoop middle between result beneath) : Ends onLoop c tasks result beneath := by
  obtain ⟨after, reason⟩ := result
  cases reason with
  | finished => exact first.trans ends
  | panicked payload =>
    obtain ⟨here, others, continued, panics⟩ := ends
    exact ⟨here, others, first.trans continued, panics⟩
  | exhausted => trivial

theorem goOn {between : List Task} {result : Client τ × Fanout}
    {next : Client τ → Client τ × Fanout}
    (ends : Ends onLoop c tasks result between)
    (later : ∀ middle, Ends onLoop middle between (next middle) beneath) :
    Ends onLoop c tasks (Fanout.goOn result next) beneath := by
  obtain ⟨middle, reason⟩ := result
  cases reason with
  | finished => exact (later middle).of_continues ends
  | panicked payload => exact ends
  | exhausted => trivial

end Ends

theorem continues_send (onLoop : Bool) (c : Client τ) (data : String) (effects : List Effect)
    (beneath : List Task) :
    Continues onLoop c ⟨.perform (.request (.send data) :: effects) :: beneath, none⟩
      (c.send data) ⟨.perform effects :: beneath, none⟩ :=
  .step rfl (.step rfl (.step rfl (.rest _ _)))

section nested

variable {onLoop : Bool} {nested : Envelope → Client τ → Client τ × Fanout}
  (ends : ∀ envelope c beneath,
    Ends onLoop c (.dispatch envelope :: beneath) (nested envelope c) beneath)

include ends

theorem ends_perform (c : Client τ) (effect : Effect) (effects : List Effect)
    (beneath : List Task) :
    Ends onLoop c (.perform (effect :: effects) :: beneath) (perform nested c effect)
      (.perform effects :: beneath) := by
  cases effect with
  | register name seesState react => exact .step rfl (.rest _ _)
  | dispatch text =>
    simp only [perform]
    cases parsed : Envelope.ofFrame text with
    | ok envelope =>
      have next : c.advance onLoop ⟨.perform (.dispatch text :: effects) :: beneath, none⟩ =
          { client := c
            thread := { tasks := .dispatch envelope :: .perform effects :: beneath } } := by
        simp [advance, carryOn, carryOut, parsed]
      exact (ends envelope c _).of_continues (.of_advance next rfl)
    | error cause =>
      have next : c.advance onLoop ⟨.perform (.dispatch text :: effects) :: beneath, none⟩ =
          { client := c, thread := { tasks := .perform effects :: beneath } } := by
        simp [advance, carryOn, carryOut, parsed]
      exact .of_advance next rfl
  | request request =>
    cases request with
    | send data => exact continues_send onLoop c data effects beneath
    | restart => exact .step rfl (.rest _ _)
    | close => exact .step rfl (.rest _ _)
  | panic payload => exact ⟨c, _, .rest _ _, rfl⟩

theorem ends_performAll (effects : List Effect) (c : Client τ) (beneath : List Task) :
    Ends onLoop c (.perform effects :: beneath) (performAll nested effects c) beneath := by
  induction effects generalizing c with
  | nil => exact .step rfl (.rest _ _)
  | cons effect rest ih => exact (ends_perform ends c effect rest beneath).goOn ih

theorem ends_callAll (envelope : Envelope) (subscribers : List Subscriber) (c : Client τ)
    (beneath : List Task) :
    Ends onLoop c (.call subscribers envelope :: beneath) (callAll nested envelope subscribers c)
      beneath := by
  induction subscribers generalizing c with
  | nil => exact .step rfl (.rest _ _)
  | cons subscriber rest ih =>
    have called : Continues onLoop c ⟨.call (subscriber :: rest) envelope :: beneath, none⟩
        (recordCall subscriber envelope c)
        ⟨.perform (subscriber.react (Host.sight c) envelope) :: .call rest envelope :: beneath,
          none⟩ :=
      .step rfl (.rest _ _)
    exact ((ends_performAll ends _ _ _).goOn ih).of_continues called

end nested

theorem ends_dispatch (onLoop : Bool) (depth : Nat) (envelope : Envelope) (c : Client τ)
    (beneath : List Task) :
    Ends onLoop c (.dispatch envelope :: beneath) (dispatch depth envelope c) beneath := by
  induction depth generalizing envelope c beneath with
  | zero => trivial
  | succ depth ih =>
    have announced : Continues onLoop c ⟨.dispatch envelope :: beneath, none⟩
        (c.note (.dispatching c.subscribers.length))
        ⟨.call c.subscribers envelope :: beneath, none⟩ :=
      .step rfl (.rest _ _)
    exact (ends_callAll ih envelope c.subscribers _ beneath).of_continues announced

end Client

end HotReload
