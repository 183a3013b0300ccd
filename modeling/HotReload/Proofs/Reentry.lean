import HotReload.Proofs.Round

set_option autoImplicit false

namespace HotReload

section bound

variable {σ : Type} [Host σ] {inner outer : Envelope → σ → σ × Fanout}

theorem perform_deeper
    (deeper : ∀ envelope s, (inner envelope s).2.isExhausted = false →
      outer envelope s = inner envelope s)
    (effect : Effect) (s : σ) (bounded : (perform inner s effect).2.isExhausted = false) :
    perform outer s effect = perform inner s effect := by
  cases effect with
  | dispatch text =>
    simp only [perform] at bounded ⊢
    cases parsed : Envelope.ofFrame text with
    | ok envelope => exact deeper envelope s (by simpa [parsed] using bounded)
    | error cause => rfl
  | register | request | panic => rfl

theorem performAll_deeper
    (deeper : ∀ envelope s, (inner envelope s).2.isExhausted = false →
      outer envelope s = inner envelope s)
    (effects : List Effect) (s : σ) (bounded : (performAll inner effects s).2.isExhausted = false) :
    performAll outer effects s = performAll inner effects s := by
  induction effects generalizing s with
  | nil => rfl
  | cons effect rest ih =>
    have performed := perform_deeper deeper effect s
    simp only [performAll] at bounded ⊢
    generalize perform inner s effect = result at bounded performed ⊢
    obtain ⟨middle, reason⟩ := result
    cases reason with
    | finished =>
      rw [performed rfl]
      exact ih middle bounded
    | panicked payload => rw [performed rfl]
    | exhausted => cases bounded

theorem callAll_deeper
    (deeper : ∀ envelope s, (inner envelope s).2.isExhausted = false →
      outer envelope s = inner envelope s)
    (envelope : Envelope) (subscribers : List Subscriber) (s : σ)
    (bounded : (callAll inner envelope subscribers s).2.isExhausted = false) :
    callAll outer envelope subscribers s = callAll inner envelope subscribers s := by
  induction subscribers generalizing s with
  | nil => rfl
  | cons subscriber rest ih =>
    have performed := performAll_deeper deeper (subscriber.react (Host.sight s) envelope)
      (recordCall subscriber envelope s)
    simp only [callAll] at bounded ⊢
    generalize performAll inner (subscriber.react (Host.sight s) envelope)
      (recordCall subscriber envelope s) = result at bounded performed ⊢
    obtain ⟨middle, reason⟩ := result
    cases reason with
    | finished =>
      rw [performed rfl]
      exact ih middle bounded
    | panicked payload => rw [performed rfl]
    | exhausted => cases bounded

theorem dispatch_deeper (depth more : Nat) (envelope : Envelope) (s : σ)
    (bounded : (dispatch depth envelope s).2.isExhausted = false) :
    dispatch (depth + more) envelope s = dispatch depth envelope s := by
  induction depth generalizing envelope s with
  | zero => cases bounded
  | succ depth ih =>
    rw [Nat.succ_add]
    exact callAll_deeper ih envelope _ _ bounded

end bound

namespace Bus

inductive Use where
  | register (subscriber : Subscriber)
  | dispatch (envelope : Envelope)
  | frame (text : String)

def Use.BringsAbout : Use → Deed → Prop
  | .register subscriber, deed => deed = .registered subscriber
  | .dispatch envelope, deed => ∃ round : Round, deed = .dispatched round ∧ round.envelope = envelope
  | .frame text, deed => (Effect.dispatch text).BringsAbout deed

def use (depth : Nat) (bus : Bus) : Use → Bus × Fanout
  | .register subscriber => (Host.register bus subscriber, .finished)
  | .dispatch envelope => HotReload.dispatch depth envelope bus
  | .frame text =>
    match dispatchFrame depth text bus with
    | .ok (_, result) => result
    | .error _ => (bus, .finished)

def useAll (depth : Nat) (bus : Bus) (uses : List Use) : Bus :=
  uses.foldl (fun bus use => (bus.use depth use).1) bus

-- Nesting ends, and within the bound.
def settles (depth : Nat) : Bus → List Use → Bool
  | _, [] => true
  | bus, use :: rest =>
    !(bus.use depth use).2.isExhausted && settles depth (bus.use depth use).1 rest

theorem useAll_append (depth : Nat) (bus : Bus) (uses others : List Use) :
    bus.useAll depth (uses ++ others) = (bus.useAll depth uses).useAll depth others :=
  List.foldl_append

theorem settles_append (depth : Nat) (bus : Bus) (uses others : List Use) :
    bus.settles depth (uses ++ others) =
      (bus.settles depth uses && (bus.useAll depth uses).settles depth others) := by
  induction uses generalizing bus with
  | nil => rfl
  | cons use rest ih =>
    simp only [List.cons_append, settles, ih, Bool.and_assoc]
    rfl

theorem use_frame (depth : Nat) (bus : Bus) (text : String) :
    bus.use depth (.frame text) = perform (HotReload.dispatch depth) bus (.dispatch text) := by
  simp only [use, dispatchFrame, perform]
  cases Envelope.ofFrame text <;> rfl

theorem use_rounds (depth : Nat) (bus : Bus) (use : Use)
    (bounded : (bus.use depth use).2.isExhausted = false) :
    ∃ deed : Deed, use.BringsAbout deed ∧ Proper bus deed.moments ∧
      (bus.use depth use).1 = bus.after deed.moments := by
  cases use with
  | register subscriber =>
    exact ⟨.registered subscriber, rfl, ⟨trivial, trivial⟩, by
      simp [Bus.use, Host.register, after, Deed.moments, Moment.registered?, Moment.event?]⟩
  | dispatch envelope =>
    obtain ⟨round, same, proper, after, _⟩ := dispatch_rounds depth envelope bus bounded
    exact ⟨.dispatched round, ⟨round, rfl, same⟩, proper, after⟩
  | frame text =>
    rw [use_frame] at bounded ⊢
    obtain ⟨deed, brings, proper, after, _⟩ :=
      perform_rounds (dispatch_rounds depth) (.dispatch text) bus bounded
    exact ⟨deed, brings, proper, after⟩

theorem useAll_rounds (depth : Nat) (bus : Bus) (uses : List Use)
    (settled : bus.settles depth uses = true) :
    ∃ history : List Deed, List.Forall₂ Use.BringsAbout uses history ∧
      Proper bus (momentsOfDeeds history) ∧
      bus.useAll depth uses = bus.after (momentsOfDeeds history) := by
  induction uses generalizing bus with
  | nil => exact ⟨[], .nil, trivial, (bus.after_nil).symm⟩
  | cons use rest ih =>
    simp only [settles, Bool.and_eq_true, Bool.not_eq_true'] at settled
    obtain ⟨deed, brings, proper, after⟩ := bus.use_rounds depth use settled.1
    obtain ⟨history, bringsRest, properRest, afterRest⟩ := ih _ settled.2
    rw [after] at properRest afterRest
    refine ⟨deed :: history, .cons brings bringsRest, proper_append.mpr ⟨proper, properRest⟩, ?_⟩
    rw [momentsOfDeeds, after_append, ← afterRest, ← after]
    rfl

theorem useAll_deeper (depth more : Nat) (bus : Bus) (uses : List Use)
    (settled : bus.settles depth uses = true) :
    bus.useAll (depth + more) uses = bus.useAll depth uses := by
  induction uses generalizing bus with
  | nil => rfl
  | cons use rest ih =>
    simp only [settles, Bool.and_eq_true, Bool.not_eq_true'] at settled
    have deeper : bus.use (depth + more) use = bus.use depth use := by
      cases use with
      | register subscriber => rfl
      | dispatch envelope => exact dispatch_deeper depth more envelope bus settled.1
      | frame text =>
        rw [use_frame] at settled
        rw [use_frame, use_frame]
        exact perform_deeper (dispatch_deeper depth more) _ bus settled.1
    simp only [useAll, List.foldl_cons, deeper]
    exact ih _ settled.2

end Bus

namespace Proper

variable {bus : Bus} {moments earlier later : List Moment} {subscriber : Subscriber} {round : Round}

theorem visits_le_of_before (proper : Proper bus (earlier ++ later))
    (begun : .began round ∈ earlier) :
    round.visits.length ≤ (bus.after earlier).subscribers.length := by
  obtain ⟨before, after, rfl⟩ := List.append_of_mem begun
  rw [List.append_assoc] at proper
  have called : round.Proper (bus.after before).subscribers := proper.at
  have fewer := called.unwinds.length_le
  simp only [Bus.after, registrations, List.length_map, List.length_append,
    List.filterMap_append] at fewer ⊢
  omega

theorem reaches_of_after (proper : Proper bus (earlier ++ .registered subscriber :: later))
    (begins : .began round ∈ later) :
    ∃ present, round.Proper present ∧
      present[(bus.after earlier).subscribers.length]? = some subscriber := by
  obtain ⟨before, after, rfl⟩ := List.append_of_mem begins
  have split : earlier ++ .registered subscriber :: (before ++ .began round :: after) =
      (earlier ++ .registered subscriber :: before) ++ .began round :: after := by simp
  rw [split] at proper
  refine ⟨_, proper.at, ?_⟩
  simp [Bus.after, Moment.registered?]

end Proper

theorem Round.Proper.reaches {present : List Subscriber} {round : Round}
    (proper : round.Proper present) {place : Nat} {subscriber : Subscriber}
    (there : present[place]? = some subscriber) :
    round.visits[place]?.map Visit.subscriber = some subscriber ∨
      (round.visits.length ≤ place ∧ round.panic? ≠ none) := by
  rcases Nat.lt_or_ge place round.visits.length with reached | ended
  · left
    rw [← List.getElem?_map, proper.visits, List.getElem?_take_of_lt reached, there]
  · refine .inr ⟨ended, fun calm => ?_⟩
    have unwinds := proper.unwinds
    rw [calm] at unwinds
    have all := congrArg List.length unwinds
    obtain ⟨inside, _⟩ := List.getElem?_eq_some_iff.mp there
    simp only [List.length_map, List.length_replicate] at all
    omega

namespace Bus

theorem dispatches_reenter (depth : Nat) (bus : Bus) (uses : List Use)
    (settled : bus.settles depth uses = true) :
    let after := bus.useAll depth uses
    (∃ history : List Deed,
      let moments := momentsOfDeeds history
      List.Forall₂ Use.BringsAbout uses history ∧
      after.events = bus.events ++ moments.filterMap Moment.event? ∧
      after.subscribers = bus.subscribers ++ registrations moments ∧
      (∀ earlier visit later, moments = earlier ++ .called visit :: later →
        visit.Proper ∧ visit.sight = Host.sight (bus.after earlier)) ∧
      (∀ earlier round later, moments = earlier ++ .began round :: later →
        round.snapshot = bus.subscribers ++ registrations earlier ∧
        round.snapshot <+: after.subscribers ∧
        round.visits.map Visit.subscriber = round.snapshot.take round.visits.length ∧
        (∀ visit ∈ round.visits, visit.envelope = round.envelope) ∧
        Unwinds round.snapshot.length (round.visits.map Visit.panic?) round.panic?) ∧
      (∀ earlier subscriber later, moments = earlier ++ .registered subscriber :: later →
        let place := (bus.subscribers ++ registrations earlier).length
        (∀ round, .began round ∈ earlier → round.visits.length ≤ place) ∧
        ∀ round, .began round ∈ later →
          round.visits[place]?.map Visit.subscriber = some subscriber ∨
            (round.visits.length ≤ place ∧ round.panic? ≠ none))) ∧
    (∀ count, (bus.useAll depth (uses.take count)).subscribers <+: after.subscribers) ∧
    ∀ more, bus.useAll (depth + more) uses = after := by
  intro after
  refine ⟨?_, ?_, fun more => bus.useAll_deeper depth more uses settled⟩
  · obtain ⟨history, brings, proper, result⟩ := bus.useAll_rounds depth uses settled
    have subscribers : after.subscribers = bus.subscribers ++ registrations (momentsOfDeeds history) :=
      congrArg Bus.subscribers result
    refine ⟨history, brings, congrArg Bus.events result, subscribers, ?_, ?_, ?_⟩
    · intro earlier visit later split
      exact Proper.at (split ▸ proper)
    · intro earlier round later split
      rw [split] at proper
      have called : round.Proper (bus.after earlier).subscribers := proper.at
      have grown : registrations (earlier ++ .began round :: later) =
          registrations earlier ++ registrations (.began round :: later) := List.filterMap_append
      refine ⟨called.snapshot, ?_, ?_, called.envelope, ?_⟩
      · rw [called.snapshot, subscribers, split, grown, ← List.append_assoc]
        exact List.prefix_append _ _
      · rw [called.snapshot, called.visits]
      · rw [called.snapshot]
        exact called.unwinds
    · intro earlier subscriber later split place
      rw [split] at proper
      refine ⟨fun round begun => proper.visits_le_of_before begun, fun round begins => ?_⟩
      obtain ⟨present, called, there⟩ := proper.reaches_of_after begins
      exact called.reaches there
  · intro count
    have split := List.take_append_drop count uses
    rw [← split, settles_append, Bool.and_eq_true] at settled
    obtain ⟨history, _, _, rest⟩ := useAll_rounds depth _ _ settled.2
    change _ <+: (bus.useAll depth uses).subscribers
    rw [← split, useAll_append, rest, split]
    exact List.prefix_append _ _

theorem dispatches_reenter_past_panic :
    let opener : Subscriber := ⟨"opener", false, fun _ envelope =>
      if envelope.isConnected then
        [.register "late" false fun _ _ => [], .dispatch "[", .dispatch "1"]
      else []⟩
    let nervous : Subscriber :=
      ⟨"nervous", false, fun _ envelope => if envelope.isConnected then [.panic .other] else []⟩
    let uses := [.register opener, .register nervous, .dispatch .connected, .frame "\x7b", .frame "2"]
    let after := ({} : Bus).useAll 2 uses
    ({} : Bus).settles 2 uses = true ∧
      (after.events.filterMap fun | .called name _ _ => some name | _ => none) =
        ["opener", "opener", "nervous", "late", "nervous", "opener", "nervous", "late"] ∧
      after.subscribers.map Subscriber.name = ["opener", "nervous", "late"] ∧
      (({} : Bus).useAll 2 (uses.take 3)).subscribers <+: after.subscribers ∧
      ∀ more, ({} : Bus).useAll (2 + more) uses = after := by
  intro opener nervous uses after
  have settled : ({} : Bus).settles 2 uses = true := by decide +kernel
  obtain ⟨_, grown, deeper⟩ := dispatches_reenter 2 {} uses settled
  exact ⟨settled, by decide +kernel, by decide +kernel, grown 3, deeper⟩

end Bus

end HotReload
