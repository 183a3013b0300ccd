import HotReload.Proofs.Steady
import HotReload.Proofs.Thread

set_option autoImplicit false

namespace HotReload

-- A client among all those who use it. The event loop, which calls subscribers back itself, and the
-- threads of others take turns step by step.
structure Scene (τ : Type) where
  client : Client τ
  -- What is left of the turn that the event loop is in.
  steps : List Step := []
  loop : Thread τ := {}
  others : List (Thread τ) := []

namespace Scene

variable {τ : Type}

inductive Move (τ : Type) where
  | enter (move : HotReload.Move τ)
  | loop
  | other (index : Nat)

structure Change (τ : Type) where
  scene : Scene τ
  wish? : Option (Wish τ) := none
  errand? : Option (Errand τ) := none

def atEase (s : Scene τ) : Bool := s.steps.isEmpty && s.loop.isIdle

-- The sends that are not over.
def pending (s : Scene τ) : List (Sending τ) :=
  s.loop.sending.toList ++ s.others.filterMap Thread.sending

-- Whose move it is.
def thread? (s : Scene τ) : Move τ → Option (Thread τ)
  | .enter _ => none
  | .loop => some s.loop
  | .other index => s.others[index]?

def fork (s : Scene τ) (task : Task) : Scene τ :=
  { s with others := s.others ++ [{ tasks := [task] }] }

def turnTo (s : Scene τ) (move : HotReload.Move τ) : Scene τ :=
  if s.atEase then
    let (client, steps) := s.client.embark move
    { s with client, steps }
  else s

variable [Transport τ]

def enter (s : Scene τ) (move : HotReload.Move τ) : Scene τ :=
  match move with
  | .begin | .command | .signal => s.turnTo move
  | .send data => s.fork (.perform [.request (.send data)])
  | .publish envelope => s.fork (.dispatch envelope)
  | _ => { s with client := s.client.move move }

-- A callback that panics costs the rest of the fan-out; the event loop notes it and goes on.
def callBack (s : Scene τ) : Change τ :=
  let progress := s.client.advance true s.loop
  let notes := progress.panic?.toList.map fun payload =>
    Step.act (.note (.subscriberPanicked payload.message))
  { scene := { s with
      client := progress.client
      steps := notes ++ s.steps
      loop := progress.thread }
    wish? := progress.wish?
    errand? := progress.errand? }

def takeStep (s : Scene τ) : Scene τ :=
  match s.steps with
  | [] => s
  | first :: rest =>
    let (client, before) := s.client.step first
    { s with
      client
      steps := before ++ rest
      loop := { tasks := first.envelope?.toList.map .dispatch } }

def goElsewhere (s : Scene τ) (index : Nat) : Change τ :=
  match s.others[index]? with
  | some thread =>
    let progress := s.client.advance false thread
    { scene := { s with
        client := progress.client
        others := s.others.set index progress.thread }
      wish? := progress.wish?
      errand? := progress.errand? }
  | none => { scene := s }

def move (s : Scene τ) : Scene.Move τ → Change τ
  | .enter move => { scene := s.enter move }
  | .loop => if s.loop.isIdle then { scene := s.takeStep } else s.callBack
  | .other index => s.goElsewhere index

def run (s : Scene τ) (moves : List (Scene.Move τ)) : Scene τ :=
  moves.foldl (fun s move => (s.move move).scene) s

-- All ways for a move to go.
inductive Passed (s : Scene τ) : Change τ → Prop where
  | refused : Passed s ⟨s, none, none⟩
  | beside (after : Client τ) (unmoved : s.client.Unmoved after) (silent : s.client.Silent after) :
    Passed s ⟨{ s with client := after }, none, none⟩
  | forked (task : Task) : Passed s ⟨s.fork task, none, none⟩
  | embarked (move : HotReload.Move τ) (still : s.steps = []) (idle : s.loop.isIdle = true) :
    Passed s
      ⟨{ s with client := (s.client.embark move).1, steps := (s.client.embark move).2 }, none, none⟩
  | stepped (first : Step) (rest : List Step) (steps : s.steps = first :: rest)
    (idle : s.loop.isIdle = true) :
    Passed s
      ⟨{ s with
        client := (s.client.step first).1
        steps := (s.client.step first).2 ++ rest
        loop := { tasks := first.envelope?.toList.map .dispatch } }, none, none⟩
  | calledBack (progress : Progress τ) (busy : s.loop.isIdle = false)
    (advanced : s.client.Advanced true s.loop progress) :
    Passed s
      ⟨{ s with
        client := progress.client
        steps := progress.panic?.toList.map (fun payload =>
          .act (.note (.subscriberPanicked payload.message))) ++ s.steps
        loop := progress.thread }, progress.wish?, progress.errand?⟩
  | elsewhere (index : Nat) (thread : Thread τ) (progress : Progress τ)
    (there : s.others[index]? = some thread)
    (advanced : s.client.Advanced false thread progress) :
    Passed s
      ⟨{ s with
        client := progress.client
        others := s.others.set index progress.thread }, progress.wish?, progress.errand?⟩

theorem turnTo_passed (s : Scene τ) (move : HotReload.Move τ) :
    s.Passed ⟨s.turnTo move, none, none⟩ := by
  unfold turnTo
  split
  next atEase =>
    obtain ⟨still, idle⟩ : s.steps = [] ∧ s.loop.isIdle = true := by
      simpa [Scene.atEase] using atEase
    exact .embarked move still idle
  next => exact .refused

theorem enter_passed (s : Scene τ) (move : HotReload.Move τ) :
    s.Passed ⟨s.enter move, none, none⟩ := by
  cases move with
  | begin => exact s.turnTo_passed .begin
  | command => exact s.turnTo_passed .command
  | signal => exact s.turnTo_passed .signal
  | send data => exact .forked _
  | publish envelope => exact .forked _
  | wait nanoseconds => exact .beside _ (s.client.beside_move _ rfl).unmoved (.of_same rfl)
  | shift transport => exact .beside _ (s.client.beside_move _ rfl).unmoved (.of_same rfl)
  | register subscriber => exact .beside _ (s.client.beside_move _ rfl).unmoved (.of_same rfl)
  | report generation report =>
    exact .beside _ (s.client.beside_move _ rfl).unmoved (s.client.silent_emit generation report)
  | restart | close | abandon =>
    exact .beside _ (s.client.beside_move _ rfl).unmoved (s.client.silent_order _)
  | fire index => exact .beside _ (s.client.unmoved_fire index) (s.client.silent_fire index)

theorem move_passed (s : Scene τ) (move : Scene.Move τ) : s.Passed (s.move move) := by
  cases move with
  | enter move => exact s.enter_passed move
  | loop =>
    simp only [Scene.move]
    split
    next idle =>
      unfold takeStep
      split
      next => exact .refused
      next first rest steps => exact .stepped first rest steps idle
    next busy =>
      exact .calledBack _ (by simpa using busy) (s.client.advance_advanced true s.loop)
  | other index =>
    simp only [Scene.move, goElsewhere]
    split
    next thread there =>
      exact .elsewhere index thread _ there (s.client.advance_advanced false thread)
    next => exact .refused

-- It was opened, the client has not closed it, and none is newer. That its server closed it the
-- client notes right before it takes it out of the handle.
structure Keeps (s : Scene τ) (generation : Nat) : Prop where
  opened : generation ∈ openings s.client.events
  unclosed : generation ∉ closings s.client.events
  newest : ∀ other ∈ openings s.client.events, other ≤ generation
  departing : generation ∈ departures s.client.events → s.steps.head? = some .drop

structure Sound (s : Scene τ) : Prop where
  steady : ∃ live last, s.client.Steady s.steps live last
  unasked : ∀ step ∈ s.steps, step.isAnswer = false
  -- While the event loop calls back, it is at nothing else.
  busy : s.loop.isIdle = false → s.steps = [] ∧ s.client.phase ≠ .crashed

theorem Sound.passed {s : Scene τ} (sound : s.Sound) {change : Change τ}
    (passed : s.Passed change) : change.scene.Sound := by
  obtain ⟨live, last, steady⟩ := sound.steady
  cases passed with
  | refused => exact sound
  | beside after unmoved silent =>
    exact ⟨⟨live, last, steady.unmoved unmoved⟩, sound.unasked, unmoved.phase ▸ sound.busy⟩
  | forked task => exact ⟨⟨live, last, steady⟩, sound.unasked, sound.busy⟩
  | embarked move still idle =>
    rw [still] at steady
    exact ⟨⟨live, last, steady.embark move⟩, s.client.unasked_embark move,
      fun busy => by simp [idle] at busy⟩
  | stepped first rest steps idle =>
    rw [steps] at steady
    refine ⟨steady.step, fun step member => ?_, fun busy => ?_⟩
    · rcases List.mem_append.mp member with fresh | later
      · exact s.client.unasked_step first step fresh
      · exact sound.unasked step (by simp [steps, later])
    · cases first with
      | dispatch envelope => exact ⟨(steady.safe steady.going).1, steady.going⟩
      | _ => simp [Step.envelope?, Thread.isIdle] at busy
  | calledBack progress busy advanced =>
    obtain ⟨still, going⟩ := sound.busy busy
    have unmoved := advanced.unmoved
    have after := steady.unmoved unmoved
    have running : progress.client.phase ≠ .crashed := unmoved.phase ▸ going
    rw [still] at after ⊢
    cases panic : progress.panic? with
    | none => exact ⟨⟨live, last, by simpa using after⟩, by simp, fun _ => ⟨by simp, running⟩⟩
    | some payload =>
      refine ⟨⟨live, last, by simpa using after.noting running rfl⟩, by simp [Step.isAnswer], ?_⟩
      cases advanced with
      | carried after tasks panic? vacant called silent ended =>
        have none := ended (by simpa using congrArg Option.isSome panic)
        simp [Thread.isIdle, none]
      | took | asked | gave => cases panic
  | elsewhere index thread progress there advanced =>
    have unmoved := advanced.unmoved
    exact ⟨⟨live, last, steady.unmoved unmoved⟩, sound.unasked, unmoved.phase ▸ sound.busy⟩

omit [Transport τ] in
theorem Sound.keeps {s : Scene τ} (sound : s.Sound) {generation : Nat}
    (holds : s.client.connection.current = some generation) : s.Keeps generation := by
  obtain ⟨live, last, steady⟩ := sound.steady
  have going : s.client.phase ≠ .crashed :=
    fun crashed => nomatch (steady.halted crashed).1.symm.trans holds
  have bound := steady.trace.openings_le
  rcases steady.held generation holds with inUse | ⟨departed, dropping⟩
  · obtain rfl := steady.trace.latest_of_live inUse
    obtain ⟨opened, unclosed, present⟩ := (steady.trace.outstanding_iff _).mpr inUse
    exact ⟨opened, unclosed, bound, fun departed => absurd departed present⟩
  · obtain ⟨opened, unclosed⟩ := steady.trace.not_closed_of_departed departed
    obtain ⟨rest, steps⟩ := List.head?_eq_some_iff.mp dropping
    have safe := steady.safe going
    rw [steps] at safe
    obtain rfl := safe.1 generation holds
    exact ⟨opened, unclosed, bound, fun _ => dropping⟩

-- The event loop leaves the handle alone while it calls back.
def Watching (s : Scene τ) : Prop :=
  ∀ sending, s.loop.sending = some sending →
    sending.took.connection = s.client.connection ∧
      ∀ asked, sending.asked? = some asked → asked.connection = s.client.connection

theorem Watching.passed {s : Scene τ} (watching : s.Watching) {change : Change τ}
    (passed : s.Passed change) : change.scene.Watching := by
  intro sending holds
  cases passed with
  | refused | forked => exact watching sending holds
  | beside after unmoved silent =>
    rw [unmoved.connection]
    exact watching sending holds
  | embarked move still idle =>
    rw [Thread.eq_of_isIdle idle] at holds
    cases holds
  | stepped => cases holds
  | calledBack progress busy advanced =>
    have unmoved := advanced.unmoved
    simp only [unmoved.connection]
    cases advanced with
    | carried | gave => cases holds
    | took data tasks vacant =>
      cases holds
      exact ⟨rfl, nofun⟩
    | asked data took begun =>
      cases holds
      exact ⟨(watching _ begun).1, fun asked same => by cases same; rfl⟩
  | elsewhere index thread progress there advanced =>
    rw [advanced.unmoved.connection]
    exact watching sending holds

theorem Watching.errand {s : Scene τ} (watching : s.Watching) (sound : s.Sound) {change : Change τ}
    (passed : s.Passed change) {errand : Errand τ} (done : change.errand? = some errand)
    (onLoop : errand.onLoop = true) :
    errand.asked.connection = errand.took.connection ∧
      errand.gave.connection = errand.took.connection ∧ errand.gave = s.client ∧ s.steps = [] := by
  cases passed with
  | refused | beside | forked | embarked | stepped => cases done
  | calledBack progress busy advanced =>
    cases advanced with
    | carried | took | asked => cases done
    | gave data took asked begun =>
      cases done
      obtain ⟨first, second⟩ := watching _ begun
      exact ⟨(second asked rfl).trans first.symm, first.symm, rfl, (sound.busy busy).1⟩
  | elsewhere index thread progress there advanced =>
    cases advanced with
    | carried | took | asked => cases done
    | gave data took asked begun =>
      cases done
      cases onLoop

section sending

variable {s : Scene τ} {move : Scene.Move τ} {thread : Thread τ} {data : String} {took : Client τ}

theorem asks (there : s.thread? move = some thread)
    (holds : thread.sending = some ⟨data, took, none⟩) :
    (s.move move).scene.thread? move =
      some { thread with sending := some ⟨data, took, some s.client⟩ } := by
  cases move with
  | enter move => cases there
  | loop =>
    cases there
    have busy : s.loop.isIdle = false := by simp [Thread.isIdle, holds]
    simp [Scene.move, busy, callBack, Client.advance, holds, thread?]
  | other index =>
    simp only [thread?] at there
    obtain ⟨bound, rfl⟩ := List.getElem?_eq_some_iff.mp there
    simp [Scene.move, goElsewhere, Client.advance, holds, thread?, bound]

theorem gives {asked : Client τ} (there : s.thread? move = some thread)
    (holds : thread.sending = some ⟨data, took, some asked⟩) :
    ∃ errand, (s.move move).errand? = some errand ∧ errand.wish = ⟨took, data⟩ := by
  cases move with
  | enter move => cases there
  | loop =>
    cases there
    have busy : s.loop.isIdle = false := by simp [Thread.isIdle, holds]
    exact ⟨⟨true, data, took, asked, s.client⟩,
      by simp [Scene.move, busy, callBack, Client.advance, holds], rfl⟩
  | other index =>
    simp only [thread?] at there
    exact ⟨⟨false, data, took, asked, s.client⟩,
      by simp [Scene.move, goElsewhere, there, Client.advance, holds], rfl⟩

end sending

end Scene

end HotReload
