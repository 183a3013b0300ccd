import HotReload.Proofs.Beside
import Mathlib.Data.List.Basic

set_option autoImplicit false

namespace HotReload

def reportsOf (generation : Nat) (signals : List Signal) : List Report :=
  (signals.filter fun signal => signal.generation = generation).map Signal.report

def envelopesOf (generation : Nat) (delivered : List (Nat × Envelope)) : List Envelope :=
  (delivered.filter fun delivery => delivery.1 = generation).map Prod.snd

@[simp] theorem reportsOf_append (generation : Nat) (signals more : List Signal) :
    reportsOf generation (signals ++ more) =
      reportsOf generation signals ++ reportsOf generation more := by
  simp [reportsOf]

@[simp] theorem envelopesOf_append (generation : Nat) (delivered more : List (Nat × Envelope)) :
    envelopesOf generation (delivered ++ more) =
      envelopesOf generation delivered ++ envelopesOf generation more := by
  simp [envelopesOf]

theorem reportsOf_singleton (signal : Signal) (generation : Nat) :
    reportsOf generation [signal] =
      if signal.generation = generation then [signal.report] else [] := by
  by_cases same : signal.generation = generation <;> simp [reportsOf, same]

theorem envelopesOf_toList (source generation : Nat) (delivery : Option Envelope) :
    envelopesOf generation (delivery.map (Prod.mk source)).toList =
      if source = generation then delivery.toList else [] := by
  cases delivery <;> by_cases same : source = generation <;> simp [envelopesOf, same]

theorem reportsOf_eq_nil {generation : Nat} {signals : List Signal}
    (others : ∀ signal ∈ signals, signal.generation ≠ generation) :
    reportsOf generation signals = [] := by
  simpa [reportsOf] using others

theorem envelopesOf_eq_nil {generation : Nat} {delivered : List (Nat × Envelope)}
    (others : ∀ delivery ∈ delivered, delivery.1 ≠ generation) :
    envelopesOf generation delivered = [] := by
  simpa [envelopesOf] using others

structure Blocks (generation : Nat) (delivered : List (Nat × Envelope)) : Prop where
  bounded : ∀ delivery ∈ delivered, delivery.1 ≤ generation
  ordered : delivered.map Prod.snd =
    (List.range (generation + 1)).flatMap fun earlier => envelopesOf earlier delivered

namespace Blocks

variable {generation : Nat} {delivered : List (Nat × Envelope)}

theorem unheard (blocks : Blocks generation delivered) {later : Nat} (beyond : generation < later) :
    envelopesOf later delivered = [] := by
  apply envelopesOf_eq_nil
  intro delivery member
  have := blocks.bounded delivery member
  omega

theorem succ (blocks : Blocks generation delivered) : Blocks (generation + 1) delivered where
  bounded delivery member := Nat.le_succ_of_le (blocks.bounded delivery member)
  ordered := by
    rw [List.range_succ, List.flatMap_append, ← blocks.ordered]
    simp [blocks.unheard (Nat.lt_succ_self generation)]

theorem concat (blocks : Blocks generation delivered) (delivery : Option Envelope) :
    Blocks generation (delivered ++ (delivery.map (Prod.mk generation)).toList) where
  bounded := by
    intro entry member
    rcases List.mem_append.mp member with earlier | new
    · exact blocks.bounded entry earlier
    · obtain ⟨envelope, -, rfl⟩ := Option.map_eq_some_iff.mp (Option.mem_toList.mp new)
      exact Nat.le_refl _
  ordered := by
    have before : ∀ earlier ∈ List.range generation,
        envelopesOf earlier (delivered ++ (delivery.map (Prod.mk generation)).toList) =
          envelopesOf earlier delivered := by
      intro earlier member
      have different : generation ≠ earlier := Nat.ne_of_gt (List.mem_range.mp member)
      simp [envelopesOf_toList, different]
    have ordered := blocks.ordered
    rw [List.range_succ, List.flatMap_append] at ordered ⊢
    rw [List.flatMap_congr before, List.map_append, ordered]
    cases delivery <;> simp [envelopesOf]

end Blocks

-- What was taken from an inbox and what is still in it make up what was emitted.
inductive Inbox.Tallies : Inbox → List Signal → List Signal → Prop where
  | present (taken signals : List Signal) : Tallies ⟨signals, false⟩ taken (taken ++ signals)
  | gone {taken emitted : List Signal} (some : taken <+: emitted) : Tallies ⟨[], true⟩ taken emitted

namespace Inbox.Tallies

variable {inbox : Inbox} {taken emitted : List Signal}

theorem taken_prefix (tallies : inbox.Tallies taken emitted) : taken <+: emitted := by
  cases tallies with
  | present => exact List.prefix_append _ _
  | gone some => exact some

theorem eq_of_empty (tallies : Inbox.empty.Tallies taken emitted) : taken = emitted := by
  cases tallies with
  | present => exact (List.append_nil taken).symm

theorem emitAll (tallies : inbox.Tallies taken emitted) (generation : Nat)
    (reports : List Report) :
    (inbox.emitAll generation reports).Tallies taken
      (emitted ++ reports.map (Signal.mk generation)) := by
  cases tallies with
  | present signals =>
    rw [List.append_assoc]
    exact .present taken _
  | gone some => exact .gone (some.trans (List.prefix_append _ _))

theorem leave (tallies : inbox.Tallies taken emitted) : inbox.leave.Tallies taken emitted :=
  .gone tallies.taken_prefix

theorem take {signal : Signal} {rest : List Signal} (tallies : inbox.Tallies taken emitted)
    (queued : inbox.signals = signal :: rest) :
    Tallies { inbox with signals := rest } (taken ++ [signal]) emitted := by
  cases tallies with
  | present signals =>
    cases queued
    have taken := present (taken ++ [signal]) rest
    rwa [← List.append_cons] at taken
  | gone some => cases queued

end Inbox.Tallies

end HotReload
