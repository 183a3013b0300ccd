import HotReload.Proofs.Leeway
import HotReload.Proofs.Reentry
import HotReload.Stage

set_option autoImplicit false

namespace HotReload

-- An inbox in which this signal waits, beside the same inbox without it; they may have drawn level.
inductive Inbox.Lags (signal : Signal) : Inbox → Inbox → Prop where
  | level (inbox : Inbox) : Lags signal inbox inbox
  | behind (front back : List Signal) (isGone : Bool) :
    Lags signal ⟨front ++ signal :: back, isGone⟩ ⟨front ++ back, isGone⟩

theorem Inbox.Lags.emitAll {signal : Signal} {i j : Inbox} (lags : Lags signal i j)
    (generation : Nat) (reports : List Report) :
    Lags signal (i.emitAll generation reports) (j.emitAll generation reports) := by
  cases lags with
  | level => exact .level _
  | behind front back isGone =>
    cases isGone with
    | true => exact .behind front back true
    | false =>
      simp only [Inbox.emitAll, Bool.false_eq_true, if_false, List.append_assoc, List.cons_append]
      exact .behind front (back ++ reports.map (Signal.mk generation)) false

def Event.isLogged : Event → Bool
  | .noted _ => true
  | _ => false

namespace Leeway

def aside (inbox : Inbox → Inbox → Prop) : Leeway where
  activity _ _ := True
  inbox := inbox
  subscribers := Eq
  counts event := !event.isLogged

variable {τ : Type} [Transport τ] {inbox : Inbox → Inbox → Prop}

theorem mirrored_aside : Mirrored (Client.Akin (τ := τ) (aside inbox)) where
  subscribers _ _ akin := akin.subscribers
  register _ _ subscriber akin :=
    { akin with subscribers := congrArg (· ++ [subscriber]) akin.subscribers }
  announce _ _ _ akin := akin.record _
  call c d subscriber envelope akin := by
    have state : Host.state? c = Host.state? d := congrArg some akin.connection.state
    unfold recordCall
    rw [state]
    exact akin.record _
  request _ _ request akin := by
    cases request with
    | send data => exact akin.send data
    | restart => exact akin.order .start
    | close => exact akin.order .close
  sight c d akin := by
    -- What was heard is no part of the log.
    have counted (events : List Event) :
        heard (events.filter (aside inbox).counts) = heard events := by
      rw [heard, List.filterMap_filter]
      congr
      funext event
      cases event <;> rfl
    have same := congrArg heard akin.events
    rw [counted, counted] at same
    simp only [Host.sight, Host.events, Host.state?, same, akin.connection.state]

theorem endures_aside (gone : ∀ i j, inbox i j → i.isGone = j.isGone)
    (emitted : ∀ i j generation reports, inbox i j →
      inbox (i.emitAll generation reports) (j.emitAll generation reports))
    (left : ∀ i j, inbox i j → inbox i.leave j.leave) : (aside inbox).Endures τ where
  raised _ _ _ := trivial
  gone := gone
  emitted := emitted
  left := left
  told c d envelope akin := by
    rw [akin.config]
    exact (dispatch_agrees mirrored_aside _ envelope c d akin).1
  delivered c d envelope akin := by
    have agree := dispatch_agrees mirrored_aside (d.config.nesting + 1) envelope c d akin
    unfold Client.deliver
    rw [akin.config]
    generalize dispatch (d.config.nesting + 1) envelope c = left at agree
    generalize dispatch (d.config.nesting + 1) envelope d = right at agree
    obtain ⟨after, reason⟩ := left
    obtain ⟨other, reasonToo⟩ := right
    obtain ⟨akin, same⟩ := agree
    cases same
    cases reason with
    | finished => exact akin
    | panicked payload => exact akin.record _
    | exhausted => exact akin

theorem endures_level : (aside Eq).Endures τ :=
  endures_aside (fun _ _ same => same ▸ rfl) (fun _ _ _ _ same => same ▸ rfl) fun _ _ _ => rfl

theorem endures_behind (signal : Signal) : (aside (Inbox.Lags signal)).Endures τ := by
  refine endures_aside (fun i j lags => ?_) (fun i j generation reports lags => ?_) fun _ _ _ => ?_
  · cases lags <;> rfl
  · exact lags.emitAll generation reports
  · exact .level _

end Leeway

namespace Client

variable {τ : Type} [Transport τ] {inbox : Inbox → Inbox → Prop} {c d : Client τ}

theorem Akin.register (akin : c.Akin (.aside inbox) d) (subscriber : Subscriber) :
    (c.register subscriber).Akin (.aside inbox) (d.register subscriber) :=
  Leeway.mirrored_aside.register c d subscriber akin

theorem Akin.move_level (akin : c.Akin (.aside Eq) d) (move : Move τ) :
    (c.move move).Akin (.aside Eq) (d.move move) := by
  cases move with
  | signal => exact akin.signal Leeway.endures_level akin.inbox fun _ => rfl
  | register subscriber => exact akin.register subscriber
  | _ => exact akin.move Leeway.endures_level (by simp) (by simp)

theorem Akin.run_level (akin : c.Akin (.aside Eq) d) (moves : List (Move τ)) :
    (c.run moves).Akin (.aside Eq) (d.run moves) := by
  induction moves generalizing c d with
  | nil => exact akin
  | cons move rest ih => exact ih (akin.move_level move)

theorem handle_refused {text : String} {cause : Json.Error}
    (refused : Envelope.ofFrame text = .error cause) (c : Client τ) (generation : Nat) :
    c.handle ⟨generation, .message text⟩ =
      if generation ≠ c.connection.generation then
        c.note (.superseded generation c.connection.generation)
      else if c.connection.state = .open then
        { c with
          connection := { c.connection with activity := c.connection.activity + 1 }
          events := c.events ++ [.noted (.frameRejected (.json cause))] }
      else c := by
  have handled := c.handle_handled ⟨generation, .message text⟩
  generalize c.handle ⟨generation, .message text⟩ = after at handled
  cases handled with
  | superseded _ other => rw [if_pos other]
  | ignored _ deaf =>
    have closed : c.connection.state ≠ .open := by simpa [Connection.admits] using deaf
    simp [closed]
  | message _ envelope parsed isOpen => cases refused.symm.trans parsed
  | malformed _ other refusedToo isOpen =>
    cases refused.symm.trans refusedToo
    simp [isOpen, Connection.touch]

theorem Akin.handle_refused {text : String} {cause : Json.Error}
    (refused : Envelope.ofFrame text = .error cause) (akin : c.Akin (.aside inbox) d)
    (generation : Nat) : (c.handle ⟨generation, .message text⟩).Akin (.aside inbox) d := by
  have logged (notice : Notice) : (c.note notice).Akin (.aside inbox) d :=
    { akin with
      events := by simpa [note, Client.record, Leeway.aside, Event.isLogged] using akin.events }
  rw [Client.handle_refused refused]
  split
  · exact logged _
  · split
    · exact { logged (.frameRejected (.json cause)) with
        connection := ⟨akin.connection.state, akin.connection.current, akin.connection.generation,
          trivial⟩ }
    · exact akin

theorem Akin.move_behind {text : String} {cause : Json.Error}
    (refused : Envelope.ofFrame text = .error cause) {generation : Nat}
    (akin : c.Akin (.aside (Inbox.Lags ⟨generation, .message text⟩)) d) (move : Move τ) :
    (c.move move).Akin (.aside (Inbox.Lags ⟨generation, .message text⟩)) (d.move move) ∨
      (move = .signal ∧ c.heeded? move = some ⟨generation, .message text⟩ ∧
        (c.move move).Akin (.aside Eq) d) := by
  by_cases deaf : move = .signal
  next =>
    subst deaf
    have lags : Inbox.Lags ⟨generation, .message text⟩ c.inbox d.inbox := akin.inbox
    generalize here : c.inbox = mine at lags
    generalize there : d.inbox = others at lags
    cases lags with
    | level =>
      have level : c.Akin (.aside Eq) d := { akin with inbox := here.trans there.symm }
      have moved := level.move_level .signal
      exact .inl { moved with inbox := moved.inbox ▸ .level _ }
    | behind front back isGone =>
      cases front with
      | nil =>
        have level : Akin (.aside Eq) { c with inbox := ⟨back, isGone⟩ } d :=
          { akin with inbox := there.symm }
        by_cases running : c.phase = .running
        · have moved : c.move .signal =
              { c with inbox := ⟨back, isGone⟩ }.handle ⟨generation, .message text⟩ := by
            simp [Client.move, takeSignal?, running, here]
          refine .inr ⟨rfl, by simp [heeded?, running, here], ?_⟩
          rw [moved]
          exact level.handle_refused refused generation
        · have still : c.move .signal = c := if_neg running
          have stillToo : d.move .signal = d := if_neg (akin.phase ▸ running)
          exact .inl (by rwa [still, stillToo])
      | cons first front =>
        refine .inl (akin.take (Leeway.endures_behind _) (by rw [here]; rfl) (by rw [there]; rfl) ?_)
        rw [here, there]
        exact .behind front back isGone
  next =>
    refine .inl ?_
    cases move with
    | register subscriber => exact akin.register subscriber
    | _ => exact akin.move (Leeway.endures_behind _) deaf (by simp)

theorem Akin.run_behind {text : String} {cause : Json.Error}
    (refused : Envelope.ofFrame text = .error cause) {generation : Nat}
    (akin : c.Akin (.aside (Inbox.Lags ⟨generation, .message text⟩)) d) (moves : List (Move τ)) :
    (c.run moves).Akin (.aside (Inbox.Lags ⟨generation, .message text⟩)) (d.run moves) ∨
      ∃ earlier later, moves = earlier ++ .signal :: later ∧
        (c.run earlier).heeded? .signal = some ⟨generation, .message text⟩ ∧
        (c.run moves).Akin (.aside Eq) (d.run (earlier ++ later)) := by
  induction moves generalizing c d with
  | nil => exact .inl akin
  | cons move rest ih =>
    rcases akin.move_behind refused move with behind | ⟨rfl, taken, level⟩
    · rcases ih behind with still | ⟨earlier, later, rfl, taken, level⟩
      · exact .inl still
      · exact .inr ⟨move :: earlier, later, rfl, taken, level⟩
    · exact .inr ⟨[], rest, rfl, taken, level.run_level rest⟩

theorem refused_frame_immaterial (text : String) (cause : Json.Error)
    (refused : Envelope.ofFrame text = .error cause) :
    (∀ (σ : Type) [Host σ] (depth : Nat) (s : σ),
      dispatchFrame depth text s = .error cause ∧
        ∀ nested, perform nested s (.dispatch text) = (s, .finished)) ∧
    (∀ (depth : Nat) (bus : Bus), bus.use depth (.frame text) = (bus, .finished)) ∧
    (∀ (c : Client τ) (generation : Nat),
      c.handle ⟨generation, .message text⟩ =
        if generation ≠ c.connection.generation then
          c.note (.superseded generation c.connection.generation)
        else if c.connection.state = .open then
          { c with
            connection := { c.connection with activity := c.connection.activity + 1 }
            events := c.events ++ [.noted (.frameRejected (.json cause))] }
        else c) ∧
    ∀ (c : Client τ) (generation : Nat) (front back : List Signal),
      c.inbox.signals = front ++ ⟨generation, .message text⟩ :: back →
      let without : Client τ := { c with inbox := { c.inbox with signals := front ++ back } }
      ∀ moves : List (Move τ),
        (c.run moves).Akin (.aside (Inbox.Lags ⟨generation, .message text⟩)) (without.run moves) ∨
          ∃ earlier later, moves = earlier ++ .signal :: later ∧
            (c.run earlier).heeded? .signal = some ⟨generation, .message text⟩ ∧
            (c.run moves).Akin (.aside Eq) (without.run (earlier ++ later)) := by
  refine ⟨fun σ _ depth s => ⟨?_, fun nested => ?_⟩, fun depth bus => ?_, ?_, ?_⟩
  · simp [dispatchFrame, refused, Except.map]
  · simp [perform, refused]
  · simp [Bus.use, dispatchFrame, refused, Except.map]
  · exact handle_refused refused
  · intro c generation front back queued without moves
    have lags : Inbox.Lags ⟨generation, .message text⟩ c.inbox without.inbox := by
      have split : c.inbox = ⟨front ++ ⟨generation, .message text⟩ :: back, c.inbox.isGone⟩ := by
        rw [← queued]
      rw [split]
      exact .behind front back c.inbox.isGone
    have akin : c.Akin (.aside (Inbox.Lags ⟨generation, .message text⟩)) without :=
      ⟨rfl, rfl, ⟨rfl, rfl, rfl, trivial⟩, rfl, rfl, rfl, lags, rfl, rfl, rfl⟩
    exact akin.run_behind refused moves

theorem refused_frame_immaterial_before_another :
    let frame : Signal := ⟨1, .message "["⟩
    let other : Signal := ⟨1, .message "7"⟩
    let c := (spawn 4 .default (.localhost 3000) ({} : Stage) [⟨"listens", true, fun _ _ => []⟩]).run
      [.begin, .report 1 .opened, .signal, .report 1 frame.report, .report 1 other.report]
    let without := { c with inbox := { c.inbox with signals := [other] } }
    Envelope.ofFrame "[" = .error ⟨.unfinishedList, some ⟨1, 1⟩⟩ ∧
    c.inbox.signals = [frame, other] ∧
    ((c.run [.signal, .signal]).Akin (.aside (Inbox.Lags frame)) (without.run [.signal, .signal]) ∨
      ∃ earlier later, [.signal, .signal] = earlier ++ .signal :: later ∧
        (c.run earlier).heeded? .signal = some frame ∧
        (c.run [.signal, .signal]).Akin (.aside Eq) (without.run (earlier ++ later))) ∧
    (c.run [.signal, .signal]).connection.activity = 3 ∧
    (without.run [.signal]).connection.activity = 2 ∧
    (heard (c.run [.signal, .signal]).events).length = 2 := by
  intro frame other c without
  have refused : Envelope.ofFrame "[" = .error ⟨.unfinishedList, some ⟨1, 1⟩⟩ := rfl
  have queued : c.inbox.signals = [frame, other] := rfl
  obtain ⟨_, _, _, waiting⟩ := refused_frame_immaterial (τ := Stage) "[" _ refused
  exact ⟨refused, queued, waiting c 1 [] [other] queued [.signal, .signal], by decide +kernel,
    by decide +kernel, by decide +kernel⟩

end Client

end HotReload
