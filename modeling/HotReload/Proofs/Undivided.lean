import HotReload.Proofs.Glimpse
import HotReload.Proofs.Scene

set_option autoImplicit false

namespace HotReload

namespace Scene

variable {τ : Type} [Transport τ]

def Reaches (s after : Scene τ) : Prop := ∃ moves, s.run moves = after

namespace Reaches

theorem refl (s : Scene τ) : s.Reaches s := ⟨[], rfl⟩

theorem trans {s middle after : Scene τ} (first : s.Reaches middle)
    (second : middle.Reaches after) : s.Reaches after := by
  obtain ⟨moves, rfl⟩ := first
  obtain ⟨others, rfl⟩ := second
  exact ⟨moves ++ others, by simp [run]⟩

theorem of_move (s : Scene τ) (move : Scene.Move τ) : s.Reaches (s.move move).scene := ⟨[move], rfl⟩

end Reaches

-- What one of them does that nobody else interrupts.
theorem reaches_of_leads {c after : Client τ} {steps rest : List Step}
    (leads : c.Leads steps after rest) (others : List (Thread τ)) :
    Reaches ⟨c, steps, {}, others⟩ ⟨after, rest, {}, others⟩ := by
  induction leads with
  | rest => exact .refl _
  | @step c after first rest remaining plain later ih =>
    have stepped := Reaches.of_move ⟨c, first :: rest, {}, others⟩ .loop
    simp only [Scene.move, Thread.isIdle, takeStep, plain] at stepped
    exact stepped.trans ih

theorem reaches_of_continues {c after : Client τ} {thread remaining : Thread τ}
    (continued : c.Continues true thread after remaining) (others : List (Thread τ)) :
    Reaches ⟨c, [], thread, others⟩ ⟨after, [], remaining, others⟩ := by
  induction continued with
  | rest => exact .refl _
  | @step c after thread remaining calm later ih =>
    have called := Reaches.of_move ⟨c, [], thread, others⟩ .loop
    cases idle : thread.isIdle with
    | true =>
      obtain rfl := Thread.eq_of_isIdle idle
      exact ih
    | false =>
      simp [Scene.move, idle, callBack, calm] at called
      exact called.trans ih

theorem reaches_of_continues_elsewhere {c after : Client τ} {thread remaining : Thread τ}
    (continued : c.Continues false thread after remaining) {steps : List Step} {loop : Thread τ}
    (others : List (Thread τ)) :
    Reaches ⟨c, steps, loop, others ++ [thread]⟩ ⟨after, steps, loop, others ++ [remaining]⟩ := by
  induction continued with
  | rest => exact .refl _
  | @step c after thread remaining calm later ih =>
    have called := Reaches.of_move ⟨c, steps, loop, others ++ [thread]⟩ (.other others.length)
    simp [Scene.move, goElsewhere] at called
    exact called.trans ih

-- The fan-out of a turn, if it comes to an end.
theorem reaches_deliver (c : Client τ) (envelope : Envelope) (others : List (Thread τ))
    (bounded : (dispatch (c.config.nesting + 1) envelope c).2 ≠ .exhausted) :
    Reaches ⟨c, [.dispatch envelope], {}, others⟩ ⟨c.deliver envelope, [], {}, others⟩ := by
  have begun : Reaches ⟨c, [.dispatch envelope], {}, others⟩
      ⟨c, [], { tasks := [.dispatch envelope] }, others⟩ := .of_move _ .loop
  refine begun.trans ?_
  have ends := c.ends_dispatch true (c.config.nesting + 1) envelope []
  unfold Client.deliver
  generalize dispatch (c.config.nesting + 1) envelope c = result at bounded ends ⊢
  obtain ⟨after, reason⟩ := result
  cases reason with
  | finished => exact reaches_of_continues ends others
  | panicked payload =>
    obtain ⟨here, remaining, continued, panics⟩ := ends
    have busy : Thread.isIdle (⟨remaining, none⟩ : Thread τ) = false := by
      cases remaining with
      | nil => cases congrArg Progress.panic? panics
      | cons task tasks => rfl
    have panicked := Reaches.of_move ⟨here, [], ⟨remaining, none⟩, others⟩ .loop
    simp only [Scene.move, busy, callBack, panics] at panicked
    exact ((reaches_of_continues continued others).trans panicked).trans (.of_move _ .loop)
  | exhausted => exact absurd rfl bounded

theorem reaches_publish (s : Scene τ) (envelope : Envelope)
    (bounded : (dispatch (s.client.config.nesting + 1) envelope s.client).2 ≠ .exhausted) :
    ∃ others, s.Reaches
      { s with
        client := (dispatch (s.client.config.nesting + 1) envelope s.client).1
        others } := by
  have forked : s.Reaches (s.fork (.dispatch envelope)) := .of_move s (.enter (.publish envelope))
  have ends := s.client.ends_dispatch false (s.client.config.nesting + 1) envelope []
  generalize dispatch (s.client.config.nesting + 1) envelope s.client = result at bounded ends ⊢
  obtain ⟨after, reason⟩ := result
  cases reason with
  | finished => exact ⟨_, forked.trans (reaches_of_continues_elsewhere ends s.others)⟩
  | panicked payload =>
    obtain ⟨here, remaining, continued, panics⟩ := ends
    have panicked := Reaches.of_move
      ⟨here, s.steps, s.loop, s.others ++ [⟨remaining, none⟩]⟩ (.other s.others.length)
    simp [Scene.move, goElsewhere, panics] at panicked
    exact ⟨_, (forked.trans (reaches_of_continues_elsewhere continued s.others)).trans panicked⟩
  | exhausted => exact absurd rfl bounded

section turns

variable (c : Client τ) (others : List (Thread τ))

theorem reaches_begin : Reaches ⟨c, [], {}, others⟩ ⟨c.move .begin, [], {}, others⟩ := by
  have entered := Reaches.of_move ⟨c, [], {}, others⟩ (.enter .begin)
  by_cases pending : c.phase = .pending
  next =>
    simp only [Scene.move, enter, turnTo, atEase, Client.embark, if_pos pending] at entered
    simp only [Client.move, if_pos pending]
    exact entered.trans (reaches_of_leads (Client.leads_starting _) others)
  next =>
    simp only [Scene.move, enter, turnTo, atEase, Client.embark, if_neg pending] at entered
    simp only [Client.move, if_neg pending]
    exact entered

theorem reaches_command : Reaches ⟨c, [], {}, others⟩ ⟨c.move .command, [], {}, others⟩ := by
  have entered := Reaches.of_move ⟨c, [], {}, others⟩ (.enter .command)
  simp only [Scene.move, enter, turnTo, atEase, Client.embark] at entered
  have passed := c.move_passed .command
  generalize c.move .command = after at passed ⊢
  cases passed with
  | beside _ outside => cases outside
  | refused _ inside idle deaf still =>
    rw [idle] at entered
    exact entered
  | obeyed command rest running queued =>
    have obeyed : c.obeyed? .command = some command := by simp [Client.obeyed?, running, queued]
    simp only [obeyed, queued, List.tail_cons] at entered
    exact entered.trans (reaches_of_leads (Client.leads_obeying _ command) others)

theorem reaches_signal
    (bounded : ∀ base envelope, c.calling? .signal = some (base, envelope) →
      (dispatch (base.config.nesting + 1) envelope base).2 ≠ .exhausted) :
    Reaches ⟨c, [], {}, others⟩ ⟨c.move .signal, [], {}, others⟩ := by
  have entered := Reaches.of_move ⟨c, [], {}, others⟩ (.enter .signal)
  simp only [Scene.move, enter, turnTo, atEase, Client.embark] at entered
  have passed := c.move_passed .signal
  generalize c.move .signal = after at passed ⊢
  cases passed with
  | beside _ outside => cases outside
  | refused _ inside idle deaf still =>
    rw [deaf] at entered
    exact entered
  | handled signal rest running queued =>
    have heeded : c.heeded? .signal = some signal := by simp [Client.heeded?, running, queued]
    simp only [heeded, queued, List.tail_cons] at entered
    have received := reaches_of_leads (Client.leads_handling
      { c with inbox := { c.inbox with signals := rest } } signal) others
    rw [Client.handle_eq]
    refine (entered.trans received).trans ?_
    simp only [Client.calling?, heeded, queued, List.tail_cons] at bounded
    cases delivery : (c.connection.receive c.config signal).delivery with
    | none => exact .refl _
    | some envelope =>
      exact reaches_deliver _ envelope others (bounded _ envelope (by rw [delivery]; rfl))

end turns

-- Everything that a client does in one go is one way for its steps to go, unless a fan-out is cut
-- off.
theorem reaches_move (c : Client τ) (others : List (Thread τ)) (move : HotReload.Move τ)
    (bounded : ∀ base envelope, c.calling? move = some (base, envelope) →
      (dispatch (base.config.nesting + 1) envelope base).2 ≠ .exhausted) :
    ∃ after, Reaches ⟨c, [], {}, others⟩ ⟨c.move move, [], {}, after⟩ := by
  have entered := Reaches.of_move ⟨c, [], {}, others⟩ (.enter move)
  cases move with
  | begin => exact ⟨others, reaches_begin c others⟩
  | command => exact ⟨others, reaches_command c others⟩
  | signal => exact ⟨others, reaches_signal c others bounded⟩
  | send data =>
    have sent := (c.continues_send false data [] []).trans (.step rfl (.rest _ _))
    exact ⟨_, entered.trans (reaches_of_continues_elsewhere sent others)⟩
  | publish envelope =>
    exact reaches_publish ⟨c, [], {}, others⟩ envelope (bounded c envelope rfl)
  | _ => exact ⟨others, entered⟩

theorem reaches_run (c : Client τ) (others : List (Thread τ)) (moves : List (HotReload.Move τ))
    (bounded : ∀ earlier move later, moves = earlier ++ move :: later → ∀ base envelope,
      (c.run earlier).calling? move = some (base, envelope) →
        (dispatch (base.config.nesting + 1) envelope base).2 ≠ .exhausted) :
    ∃ after, Reaches ⟨c, [], {}, others⟩ ⟨c.run moves, [], {}, after⟩ := by
  induction moves generalizing c others with
  | nil => exact ⟨others, .refl _⟩
  | cons move rest ih =>
    obtain ⟨middle, moved⟩ := reaches_move c others move (bounded [] move rest rfl)
    obtain ⟨after, reached⟩ := ih (c.move move) middle fun earlier other later same =>
      bounded (move :: earlier) other later (by simp [same])
    exact ⟨after, moved.trans reached⟩

end Scene

end HotReload
