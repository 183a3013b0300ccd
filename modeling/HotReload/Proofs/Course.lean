import HotReload.Proofs.Run

set_option autoImplicit false

namespace HotReload

namespace Client

variable {τ : Type} [Transport τ]

def greeting (c : Client τ) : List Signal :=
  match Transport.openSocket c.dismissed (c.connection.generation + 1) c.config.url with
  | .opened _ reports => reports.map (Signal.mk (c.connection.generation + 1))
  | .panicked _ => []

def reported (c : Client τ) : Move τ → List Signal
  | .report generation report => [⟨generation, report⟩]
  | move => if c.starts move then c.greeting else []

theorem reported_of_still {c : Client τ} {move : Move τ} (inside : move.isOfLoop = true)
    (still : c.starts move = false) : c.reported move = [] := by
  cases move <;> simp_all [reported, Move.isOfLoop]

def collect {α : Type} (yield : Client τ → Move τ → List α) : Client τ → List (Move τ) → List α
  | _, [] => []
  | c, move :: rest => yield c move ++ (c.move move).collect yield rest

def obeyed (c : Client τ) (moves : List (Move τ)) : List Command :=
  c.collect (fun c move => (c.obeyed? move).toList) moves

def heeded (c : Client τ) (moves : List (Move τ)) : List Signal :=
  c.collect (fun c move => (c.heeded? move).toList) moves

def emitted (c : Client τ) (moves : List (Move τ)) : List Signal := c.collect reported moves

theorem collect_append {α : Type} (yield : Client τ → Move τ → List α) (c : Client τ)
    (moves others : List (Move τ)) :
    c.collect yield (moves ++ others) =
      c.collect yield moves ++ (c.run moves).collect yield others := by
  induction moves generalizing c with
  | nil => rfl
  | cons move rest ih =>
    simp only [List.cons_append, collect, ih, List.append_assoc, run_cons]

theorem collect_concat {α : Type} (yield : Client τ → Move τ → List α) (c : Client τ)
    (moves : List (Move τ)) (move : Move τ) :
    c.collect yield (moves ++ [move]) = c.collect yield moves ++ yield (c.run moves) move := by
  simp [collect_append, collect]

end Client

end HotReload
