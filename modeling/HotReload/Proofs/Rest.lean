import HotReload.Proofs.Echo
import HotReload.Proofs.Run

set_option autoImplicit false

namespace HotReload

def Event.socket? : Event → Option Nat
  | .opened generation _ => some generation
  | .closed generation => some generation
  | .sent generation _ => some generation
  | _ => none

namespace Client

variable {τ : Type} [Transport τ]

structure AtRest (c : Client τ) (moves : List (Move τ)) : Prop where
  phase : (c.run moves).phase = .stopped
  connection : (c.run moves).connection = c.connection
  transport : (∀ transport, Move.shift transport ∉ moves) → (c.run moves).transport = c.transport
  events : ∃ news, (c.run moves).events = c.events ++ news ∧
    (∀ event ∈ news, event.socket? = none) ∧
    ((∀ envelope, Move.publish envelope ∉ moves) → heard news = [])

variable {c : Client τ}

theorem AtRest.cons {move : Move τ} {moves : List (Move τ)} (first : c.AtRest [move])
    (rest : (c.move move).AtRest moves) : c.AtRest (move :: moves) := by
  obtain ⟨news, events, apart, unheard⟩ := first.events
  obtain ⟨others, later, apartLater, unheardLater⟩ := rest.events
  refine ⟨rest.phase, rest.connection.trans first.connection, ?_, news ++ others, ?_, ?_, ?_⟩
  · intro unshifted
    have still := first.transport fun transport member =>
      unshifted transport (List.mem_cons.mpr (.inl (List.mem_singleton.mp member)))
    exact (rest.transport fun transport member =>
      unshifted transport (List.mem_cons_of_mem _ member)).trans still
  · change (c.move move).events = c.events ++ news at events
    change ((c.move move).run moves).events = _
    rw [later, events, List.append_assoc]
  · intro event member
    rcases List.mem_append.mp member with early | late
    · exact apart event early
    · exact apartLater event late
  · intro unpublished
    have silent := unheard fun envelope member =>
      unpublished envelope (List.mem_cons.mpr (.inl (List.mem_singleton.mp member)))
    have silentLater := unheardLater fun envelope member =>
      unpublished envelope (List.mem_cons_of_mem _ member)
    simp only [List.filterMap_append, silent, silentLater, List.append_nil]

theorem AtRest.of_notices {move : Move τ} {after : Client τ} (moved : c.move move = after)
    (stopped : after.phase = .stopped) (connection : after.connection = c.connection)
    (transport : (∀ transport, move ≠ .shift transport) → after.transport = c.transport)
    (notices : List Notice) (events : after.events = c.events ++ notices.map Event.noted) :
    c.AtRest [move] := by
  subst moved
  refine ⟨stopped, connection, ?_, notices.map Event.noted, events, ?_, fun _ => ?_⟩
  · exact fun unshifted => transport fun shifted same =>
      unshifted shifted (List.mem_singleton.mpr same.symm)
  · simp [Event.socket?]
  · simp [heard, Event.heard?]

theorem AtRest.of_same {move : Move τ} (moved : c.move move = c) (stopped : c.phase = .stopped) :
    c.AtRest [move] :=
  .of_notices moved stopped rfl (fun _ => rfl) [] (List.append_nil _).symm

end Client

end HotReload
