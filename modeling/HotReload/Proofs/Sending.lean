import HotReload.Proofs.Chronicle
import HotReload.Stage

set_option autoImplicit false

namespace HotReload

open scoped List

def Event.frame? : Event → Option (Nat × String)
  | .sent generation data => some (generation, data)
  | _ => none

namespace Errand

variable {τ : Type} [Transport τ]

end Errand

namespace Chronicle

variable {τ : Type} [Transport τ]

structure Faithful (told : Chronicle τ) : Prop where
  kept : told.Kept
  booked : told.Booked
  timely : told.Timely
  traced : told.Traced
  watched : told.Watched

theorem Faithful.move {told : Chronicle τ} (faithful : told.Faithful) (move : Scene.Move τ) :
    (told.move move).Faithful where
  kept := faithful.kept.move move
  booked := faithful.booked.move faithful.kept.sound move
  timely := faithful.timely.move faithful.kept.sound move
  traced := faithful.traced.move faithful.kept.sound move
  watched := faithful.watched.move faithful.kept.sound move

end Chronicle

end HotReload
