import HotReload.Proofs.Regular
import HotReload.Stage
import Mathlib.Order.Bounds.Defs

set_option autoImplicit false

namespace HotReload

inductive Call where
  | start
  | close
  | reconnect (generation : Nat)
  | signal (signal : Signal)

namespace Client

variable {τ : Type} [Transport τ]

def call (c : Client τ) : Call → Client τ
  | .start => c.start
  | .close => c.disconnect
  | .reconnect generation => c.reconnect generation
  | .signal signal => c.handle signal

def calls (c : Client τ) (calls : List Call) : Client τ := calls.foldl call c

theorem call_phase (c : Client τ) (call : Call) :
    (c.call call).phase = c.phase ∨ (c.call call).phase = .crashed := by
  cases call with
  | start => exact c.start_keeps.2.2
  | close => exact .inl c.disconnect_keeps.2.2
  | reconnect generation => exact (c.reconnect_keeps generation).2.2
  | signal signal => exact .inl (c.handle_keeps signal).2.2

theorem calls_config (c : Client τ) (calls : List Call) : (c.calls calls).config = c.config := by
  induction calls generalizing c with
  | nil => rfl
  | cons call rest ih =>
    refine (ih (c.call call)).trans ?_
    cases call with
    | start => exact c.start_keeps.1
    | close => exact c.disconnect_keeps.1
    | reconnect generation => exact (c.reconnect_keeps generation).1
    | signal signal => exact (c.handle_keeps signal).1

theorem calls_crashed (c : Client τ) (calls : List Call) (crashed : c.phase = .crashed) :
    (c.calls calls).phase = .crashed := by
  induction calls generalizing c with
  | nil => exact crashed
  | cons call rest ih =>
    apply ih (c.call call)
    rcases c.call_phase call with same | crashed
    · rw [same, crashed]
    · exact crashed

theorem calls_induction {P : Client τ → Prop}
    (step : ∀ c call, P c → (c.call call).phase ≠ .crashed → P (c.call call))
    (c : Client τ) (calls : List Call) (holds : P c) (returned : (c.calls calls).phase ≠ .crashed) :
    P (c.calls calls) := by
  induction calls generalizing c with
  | nil => exact holds
  | cons call rest ih =>
    have survived : (c.call call).phase ≠ .crashed :=
      fun crashed => returned ((c.call call).calls_crashed rest crashed)
    exact ih (c.call call) (step c call holds survived) returned

theorem Regular.call {c : Client τ} (regular : c.Regular) (call : Call)
    (returned : (c.call call).phase ≠ .crashed) : (c.call call).Regular := by
  cases call with
  | start => exact regular.start.2 returned
  | close => exact regular.disconnect
  | reconnect generation => exact (regular.reconnect generation).2 returned
  | signal signal => exact regular.handle signal

theorem current_tracks_state (nesting : Nat) (options : Options) (page : Page) (transport : τ)
    (subscribers : List Subscriber) (calls : List Call)
    (returned : ((spawn nesting options page transport subscribers).calls calls).phase ≠ .crashed) :
    let c := (spawn nesting options page transport subscribers).calls calls
    (c.connection.current.isSome ↔
      c.connection.state = .connecting ∨ c.connection.state = .open) ∧
    (∀ generation, c.connection.current = some generation →
      generation = c.connection.generation ∧
        IsGreatest {opened | ∃ url, Event.opened opened url ∈ c.events} generation) ∧
    (c.connection.state = .idle ∨ c.connection.state = .reconnecting →
      c.connection.current = none) := by
  intro c
  have regular : c.Regular := calls_induction (fun _ call holds => holds.call call) _ calls
    (regular_spawn nesting options page transport subscribers) returned
  obtain ⟨last, disciplined, bound⟩ := regular.trace
  have current := regular.current
  unfold Connection.Coherent at current
  refine ⟨?_, ?_, ?_⟩
  · rw [current]
    cases live : c.connection.isLive <;> simpa [Connection.isLive] using live
  · intro generation inUse
    have same : generation = c.connection.generation := by
      rw [current] at inUse
      split at inUse
      · exact (Option.some.inj inUse).symm
      · cases inUse
    refine ⟨same, mem_openings.mp (disciplined.live_mem inUse), ?_⟩
    intro other opened
    have earlier := disciplined.openings_le other (mem_openings.mpr opened)
    omega
  · intro unwanted
    rw [current]
    rcases unwanted with state | state <;> simp [Connection.isLive, state]

theorem current_tracks_state_through_panic :
    let c := (spawn 4 .default (.localhost 3000) ({} : Stage)
      [⟨"panics", true, fun _ _ => [.panic .other]⟩]).calls
      [.start, .signal ⟨1, .failed .connectionClosed⟩, .reconnect 1, .signal ⟨2, .opened⟩,
        .signal ⟨2, .message "["⟩, .signal ⟨1, .closed⟩]
    c.phase ≠ .crashed ∧ c.connection.current = some 2 ∧
      IsGreatest {opened | ∃ url, Event.opened opened url ∈ c.events} 2 := by
  intro c
  have returned : c.phase ≠ .crashed := by decide
  have current : c.connection.current = some 2 := by decide
  have tracked := current_tracks_state 4 .default (.localhost 3000) ({} : Stage) _ _ returned
  exact ⟨returned, current, (tracked.2.1 2 current).2⟩

end Client

end HotReload
