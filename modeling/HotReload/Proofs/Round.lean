import HotReload.Bus
import Mathlib.Data.List.Forall2

set_option autoImplicit false

namespace HotReload

mutual

inductive Deed where
  | registered (subscriber : Subscriber)
  -- The text was no frame, so nobody was called.
  | refused (text : String)
  | asked (request : Request)
  | dispatched (round : Round)
  | panicked (payload : Panic)

structure Round where
  envelope : Envelope
  -- Those that were registered when it began.
  snapshot : List Subscriber
  visits : List Visit
  -- The panic that came out of it, if one did.
  panic? : Option Panic

structure Visit where
  subscriber : Subscriber
  sight : Sight
  envelope : Envelope
  deeds : List Deed
  panic? : Option Panic

end

inductive Moment where
  | began (round : Round)
  | called (visit : Visit)
  | registered (subscriber : Subscriber)

mutual

def Deed.moments : Deed → List Moment
  | .registered subscriber => [.registered subscriber]
  | .dispatched round => round.moments
  | _ => []

def Round.moments : Round → List Moment
  | round@⟨_, _, visits, _⟩ => .began round :: momentsOfVisits visits

def Visit.moments : Visit → List Moment
  | visit@⟨_, _, _, deeds, _⟩ => .called visit :: momentsOfDeeds deeds

def momentsOfVisits : List Visit → List Moment
  | [] => []
  | visit :: rest => visit.moments ++ momentsOfVisits rest

def momentsOfDeeds : List Deed → List Moment
  | [] => []
  | deed :: rest => deed.moments ++ momentsOfDeeds rest

end

theorem Round.moments_eq (round : Round) :
    round.moments = .began round :: momentsOfVisits round.visits := by
  cases round
  rfl

def Deed.panic? : Deed → Option Panic
  | .dispatched round => round.panic?
  | .panicked payload => some payload
  | _ => none

def Fanout.panic? : Fanout → Option Panic
  | .panicked payload => some payload
  | _ => none

namespace Moment

def registered? : Moment → Option Subscriber
  | .registered subscriber => some subscriber
  | _ => none

def event? : Moment → Option Event
  | .began round => some (.noted (.dispatching round.snapshot.length))
  | .called visit => some (.called visit.subscriber.name visit.envelope
      (if visit.subscriber.seesState then visit.sight.state? else none))
  | .registered _ => none

end Moment

abbrev registrations (moments : List Moment) : List Subscriber :=
  moments.filterMap Moment.registered?

-- So many were to come one after the other, and either all of them came and none panicked, or the
-- last of those that came did.
def Unwinds (whole : Nat) (came : List (Option Panic)) : Option Panic → Prop
  | none => came = List.replicate whole none
  | some payload => ∃ count < whole, came = List.replicate count none ++ [some payload]

namespace Unwinds

variable {whole : Nat} {came : List (Option Panic)} {panic? : Option Panic}

theorem cons (unwinds : Unwinds whole came panic?) : Unwinds (whole + 1) (none :: came) panic? := by
  cases panic? with
  | none =>
    obtain rfl := unwinds
    rfl
  | some payload =>
    obtain ⟨count, fewer, rfl⟩ := unwinds
    exact ⟨count + 1, Nat.succ_lt_succ fewer, rfl⟩

theorem stop (whole : Nat) (payload : Panic) :
    Unwinds (whole + 1) [some payload] (some payload) :=
  ⟨0, Nat.succ_pos whole, rfl⟩

theorem length_le (unwinds : Unwinds whole came panic?) : came.length ≤ whole := by
  cases panic? with
  | none =>
    obtain rfl := unwinds
    simp
  | some payload =>
    obtain ⟨count, fewer, rfl⟩ := unwinds
    simpa using Nat.succ_le_of_lt fewer

end Unwinds

def Effect.BringsAbout : Effect → Deed → Prop
  | .register name seesState react, deed => deed = .registered ⟨name, seesState, react⟩
  | .dispatch text, deed =>
    match Envelope.ofFrame text with
    | .ok envelope => ∃ round : Round, deed = .dispatched round ∧ round.envelope = envelope
    | .error _ => deed = .refused text
  | .request wish, deed => deed = .asked wish
  | .panic payload, deed => deed = .panicked payload

-- A subscriber does what it wants to, effect after effect, unless one of them panics.
structure Visit.Proper (visit : Visit) : Prop where
  deeds : List.Forall₂ Effect.BringsAbout
    ((visit.subscriber.react visit.sight visit.envelope).take visit.deeds.length) visit.deeds
  unwinds : Unwinds (visit.subscriber.react visit.sight visit.envelope).length
    (visit.deeds.map Deed.panic?) visit.panic?

-- Calls those that are present when it begins, in order, unless one of them panics.
structure Round.Proper (present : List Subscriber) (round : Round) : Prop where
  snapshot : round.snapshot = present
  visits : round.visits.map Visit.subscriber = present.take round.visits.length
  envelope : ∀ visit ∈ round.visits, visit.envelope = round.envelope
  unwinds : Unwinds present.length (round.visits.map Visit.panic?) round.panic?

namespace Bus

def after (bus : Bus) (moments : List Moment) : Bus :=
  { bus with
    subscribers := bus.subscribers ++ registrations moments
    events := bus.events ++ moments.filterMap Moment.event? }

@[simp] theorem after_nil (bus : Bus) : bus.after [] = bus := by simp [after]

theorem after_append (bus : Bus) (moments others : List Moment) :
    bus.after (moments ++ others) = (bus.after moments).after others := by
  simp [after]

theorem after_cons (bus : Bus) (moment : Moment) (rest : List Moment) :
    bus.after (moment :: rest) = (bus.after [moment]).after rest :=
  bus.after_append [moment] rest

end Bus

-- The bus is the one that is there at this moment.
def Moment.Proper (bus : Bus) : Moment → Prop
  | .began round => round.Proper bus.subscribers
  | .called visit => visit.Proper ∧ visit.sight = Host.sight bus
  | .registered _ => True

def Proper : Bus → List Moment → Prop
  | _, [] => True
  | bus, moment :: rest => moment.Proper bus ∧ Proper (bus.after [moment]) rest

theorem proper_append {bus : Bus} {moments others : List Moment} :
    Proper bus (moments ++ others) ↔ Proper bus moments ∧ Proper (bus.after moments) others := by
  induction moments generalizing bus with
  | nil => simp [Proper]
  | cons moment rest ih =>
    rw [List.cons_append, Proper, ih, Proper, bus.after_cons moment rest]
    exact and_assoc.symm

theorem Proper.at {bus : Bus} {earlier later : List Moment} {moment : Moment}
    (proper : Proper bus (earlier ++ moment :: later)) : moment.Proper (bus.after earlier) :=
  (proper_append.mp proper).2.1

section rounds

variable {nested : Envelope → Bus → Bus × Fanout}

def Fanout.isExhausted : Fanout → Bool
  | .exhausted => true
  | _ => false

def Rounds (nested : Envelope → Bus → Bus × Fanout) : Prop :=
  ∀ envelope bus, (nested envelope bus).2.isExhausted = false →
    ∃ round : Round, round.envelope = envelope ∧ Proper bus round.moments ∧
      (nested envelope bus).1 = bus.after round.moments ∧
      (nested envelope bus).2.panic? = round.panic?

theorem perform_rounds (rounds : Rounds nested) (effect : Effect) (bus : Bus)
    (bounded : (perform nested bus effect).2.isExhausted = false) :
    ∃ deed : Deed, effect.BringsAbout deed ∧ Proper bus deed.moments ∧
      (perform nested bus effect).1 = bus.after deed.moments ∧
      (perform nested bus effect).2.panic? = deed.panic? := by
  cases effect with
  | register name seesState react =>
    exact ⟨.registered ⟨name, seesState, react⟩, rfl, ⟨trivial, trivial⟩, by
      simp [perform, Host.register, Bus.after, Deed.moments, Moment.registered?, Moment.event?], rfl⟩
  | dispatch text =>
    simp only [perform, Effect.BringsAbout] at bounded ⊢
    cases parsed : Envelope.ofFrame text with
    | ok envelope =>
      simp only [parsed] at bounded ⊢
      obtain ⟨round, same, proper, after, panic⟩ := rounds envelope bus bounded
      exact ⟨.dispatched round, ⟨round, rfl, same⟩, proper, after, panic⟩
    | error cause => exact ⟨.refused text, rfl, trivial, (bus.after_nil).symm, rfl⟩
  | request request => exact ⟨.asked request, rfl, trivial, (bus.after_nil).symm, rfl⟩
  | panic payload => exact ⟨.panicked payload, rfl, trivial, (bus.after_nil).symm, rfl⟩

theorem performAll_rounds (rounds : Rounds nested) (effects : List Effect) (bus : Bus)
    (bounded : (performAll nested effects bus).2.isExhausted = false) :
    ∃ deeds : List Deed, List.Forall₂ Effect.BringsAbout (effects.take deeds.length) deeds ∧
      Unwinds effects.length (deeds.map Deed.panic?) (performAll nested effects bus).2.panic? ∧
      Proper bus (momentsOfDeeds deeds) ∧
      (performAll nested effects bus).1 = bus.after (momentsOfDeeds deeds) := by
  induction effects generalizing bus with
  | nil => exact ⟨[], .nil, rfl, trivial, (bus.after_nil).symm⟩
  | cons effect rest ih =>
    have performed := perform_rounds rounds effect bus
    simp only [performAll] at bounded ⊢
    generalize perform nested bus effect = result at bounded performed ⊢
    obtain ⟨middle, reason⟩ := result
    cases reason with
    | finished =>
      obtain ⟨deed, brings, proper, rfl, panic⟩ := performed rfl
      obtain ⟨deeds, bringsRest, unwinds, properRest, after⟩ := ih _ bounded
      refine ⟨deed :: deeds, .cons brings bringsRest, ?_, proper_append.mpr ⟨proper, properRest⟩, ?_⟩
      · rw [List.map_cons, ← panic]
        exact unwinds.cons
      · rw [after, momentsOfDeeds, Bus.after_append]
    | panicked payload =>
      obtain ⟨deed, brings, proper, rfl, panic⟩ := performed rfl
      refine ⟨[deed], .cons brings (by simp), ?_, ?_, ?_⟩
      · rw [List.map_singleton, ← panic]
        exact .stop _ _
      · simpa [momentsOfDeeds] using proper
      · simp [momentsOfDeeds]
    | exhausted => cases bounded

theorem callAll_rounds (rounds : Rounds nested) (envelope : Envelope) (subscribers : List Subscriber)
    (bus : Bus) (bounded : (callAll nested envelope subscribers bus).2.isExhausted = false) :
    ∃ visits : List Visit,
      visits.map Visit.subscriber = subscribers.take visits.length ∧
      (∀ visit ∈ visits, visit.envelope = envelope) ∧
      Unwinds subscribers.length (visits.map Visit.panic?)
        (callAll nested envelope subscribers bus).2.panic? ∧
      Proper bus (momentsOfVisits visits) ∧
      (callAll nested envelope subscribers bus).1 = bus.after (momentsOfVisits visits) := by
  induction subscribers generalizing bus with
  | nil => exact ⟨[], rfl, by simp, rfl, trivial, (bus.after_nil).symm⟩
  | cons subscriber rest ih =>
    have performed := performAll_rounds rounds (subscriber.react (Host.sight bus) envelope)
      (recordCall subscriber envelope bus)
    simp only [callAll] at bounded ⊢
    generalize performAll nested (subscriber.react (Host.sight bus) envelope)
      (recordCall subscriber envelope bus) = result at bounded performed ⊢
    obtain ⟨middle, reason⟩ := result
    have called (deeds : List Deed) (panic? : Option Panic) :
        recordCall subscriber envelope bus =
          bus.after [.called ⟨subscriber, Host.sight bus, envelope, deeds, panic?⟩] := by
      simp [recordCall, Host.record, Host.sight, Bus.after, Moment.registered?, Moment.event?]
    cases reason with
    | finished =>
      obtain ⟨deeds, brings, unwinds, proper, rfl⟩ := performed rfl
      rw [called deeds none] at proper bounded ⊢
      rw [← Bus.after_cons] at bounded ⊢
      obtain ⟨visits, visited, same, unwindsRest, properRest, after⟩ := ih _ bounded
      refine ⟨⟨subscriber, Host.sight bus, envelope, deeds, none⟩ :: visits, ?_, ?_,
        unwindsRest.cons, ?_, ?_⟩
      · simp [visited]
      · simpa using same
      · exact proper_append.mpr ⟨⟨⟨⟨brings, unwinds⟩, rfl⟩, proper⟩, properRest⟩
      · rw [after, momentsOfVisits, Bus.after_append]
        rfl
    | panicked payload =>
      obtain ⟨deeds, brings, unwinds, proper, rfl⟩ := performed rfl
      rw [called deeds (some payload)] at proper ⊢
      rw [← Bus.after_cons]
      refine ⟨[⟨subscriber, Host.sight bus, envelope, deeds, some payload⟩], by simp, by simp,
        .stop _ _, ?_, ?_⟩
      · exact proper_append.mpr ⟨⟨⟨⟨brings, unwinds⟩, rfl⟩, proper⟩, trivial⟩
      · simp [momentsOfVisits, Visit.moments]
    | exhausted => cases bounded

theorem dispatch_rounds (depth : Nat) : Rounds (dispatch depth) := by
  induction depth with
  | zero =>
    intro envelope bus bounded
    cases bounded
  | succ depth ih =>
    intro envelope bus bounded
    obtain ⟨visits, called, same, unwinds, proper, after⟩ := callAll_rounds ih envelope
      bus.subscribers (Host.record bus (.noted (.dispatching bus.subscribers.length))) bounded
    let round : Round := ⟨envelope, bus.subscribers, visits, (dispatch (depth + 1) envelope bus).2.panic?⟩
    have announced : Host.record bus (.noted (.dispatching bus.subscribers.length)) =
        bus.after [.began round] := by
      simp [Host.record, Bus.after, Moment.registered?, Moment.event?, round]
    rw [announced] at proper
    refine ⟨round, rfl, ⟨⟨rfl, called, same, unwinds⟩, proper⟩, ?_, rfl⟩
    rw [round.moments_eq, Bus.after_cons, ← announced]
    exact after

end rounds

end HotReload
