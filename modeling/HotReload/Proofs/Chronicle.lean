import HotReload.Proofs.Scene
import Mathlib.Data.List.Perm.Basic

set_option autoImplicit false

namespace HotReload

open scoped List

theorem perm_filterMap_set {α β : Type} (f : α → Option β) {items : List α} {index : Nat} {item : α}
    (there : items[index]? = some item) (other : α) :
    (items.filterMap f).Perm ((f item).toList ++ (items.eraseIdx index).filterMap f) ∧
      ((items.set index other).filterMap f).Perm
        ((f other).toList ++ (items.eraseIdx index).filterMap f) := by
  obtain ⟨bound, rfl⟩ := List.getElem?_eq_some_iff.mp there
  have split (first : α) (rest : List α) :
      (first :: rest).filterMap f = (f first).toList ++ rest.filterMap f := by
    cases found : f first <;> simp [found]
  rw [← split, ← split]
  exact ⟨(List.getElem_cons_eraseIdx_perm bound).symm.filterMap f,
    (List.set_perm_cons_eraseIdx bound other).filterMap f⟩

namespace Scene

variable {τ : Type} [Transport τ]

-- What a move means to those who send.
inductive Acted (s : Scene τ) (change : Change τ) : Prop where
  | silent (silent : s.client.Silent change.scene.client) (wish : change.wish? = none)
    (errand : change.errand? = none) (pending : change.scene.pending = s.pending)
  | advanced (onLoop : Bool) (thread : Thread τ) (progress : Progress τ) (rest : List (Sending τ))
    (advanced : s.client.Advanced onLoop thread progress)
    (client : change.scene.client = progress.client) (wish : change.wish? = progress.wish?)
    (errand : change.errand? = progress.errand?)
    (before : s.pending.Perm (thread.sending.toList ++ rest))
    (after : change.scene.pending.Perm (progress.thread.sending.toList ++ rest))

theorem Acted.events {s : Scene τ} {change : Change τ} (acted : s.Acted change) :
    s.client.events <+: change.scene.client.events := by
  cases acted with
  | silent silent wish errand pending =>
    obtain ⟨news, events, -⟩ := silent
    exact ⟨news, events.symm⟩
  | advanced onLoop thread progress rest advanced client wish errand before after =>
    obtain ⟨news, events, -⟩ := advanced.answers
    exact ⟨news, by rw [client, events]⟩

theorem Sound.acted {s : Scene τ} (sound : s.Sound) {change : Change τ}
    (passed : s.Passed change) : s.Acted change := by
  cases passed with
  | refused => exact .silent (.of_same rfl) rfl rfl rfl
  | beside after unmoved silent => exact .silent silent rfl rfl rfl
  | forked task => exact .silent (.of_same rfl) rfl rfl (by simp [fork, pending])
  | embarked move still idle => exact .silent (.of_same (s.client.embark_events move)) rfl rfl rfl
  | stepped first rest steps idle =>
    refine .silent (s.client.silent_step (sound.unasked first (by simp [steps]))) rfl rfl ?_
    simp [pending, Thread.eq_of_isIdle idle]
  | calledBack progress busy advanced =>
    exact .advanced true s.loop progress (s.others.filterMap Thread.sending) advanced rfl rfl rfl
      .rfl .rfl
  | elsewhere index thread progress there advanced =>
    obtain ⟨before, after⟩ := perm_filterMap_set Thread.sending there progress.thread
    refine .advanced false thread progress
      (s.loop.sending.toList ++ (s.others.eraseIdx index).filterMap Thread.sending) advanced
      rfl rfl rfl ?_ ?_
    · exact (before.append_left _).trans (List.perm_append_comm_assoc _ _ _)
    · exact (after.append_left _).trans (List.perm_append_comm_assoc _ _ _)

end Scene

-- A scene with all that led to it.
structure Chronicle (τ : Type) where
  scene : Scene τ
  past : List (Scene τ) := []
  wishes : List (Wish τ) := []
  errands : List (Errand τ) := []

namespace Chronicle

variable {τ : Type}

def begin (c : Client τ) : Chronicle τ := { scene := { client := c } }

def scenes (told : Chronicle τ) : List (Scene τ) := told.past ++ [told.scene]

variable [Transport τ]

def move (told : Chronicle τ) (move : Scene.Move τ) : Chronicle τ :=
  let change := told.scene.move move
  { scene := change.scene
    past := told.scenes
    wishes := told.wishes ++ change.wish?.toList
    errands := told.errands ++ change.errand?.toList }

def run (told : Chronicle τ) (moves : List (Scene.Move τ)) : Chronicle τ := moves.foldl move told

theorem run_scene (told : Chronicle τ) (moves : List (Scene.Move τ)) :
    (told.run moves).scene = told.scene.run moves := by
  induction moves generalizing told with
  | nil => rfl
  | cons move rest ih => exact ih (told.move move)

theorem run_induction {P : Chronicle τ → Prop} (step : ∀ told move, P told → P (told.move move))
    (told : Chronicle τ) (moves : List (Scene.Move τ)) (holds : P told) : P (told.run moves) := by
  induction moves generalizing told with
  | nil => exact holds
  | cons move rest ih => exact ih (told.move move) (step told move holds)

structure Kept (told : Chronicle τ) : Prop where
  sound : told.scene.Sound
  keeps : ∀ here ∈ told.scenes, ∀ generation,
    here.client.connection.current = some generation → here.Keeps generation

theorem Kept.move {told : Chronicle τ} (kept : told.Kept) (move : Scene.Move τ) :
    (told.move move).Kept := by
  have sound := kept.sound.passed (told.scene.move_passed move)
  refine ⟨sound, fun here member generation holds => ?_⟩
  rcases List.mem_append.mp member with earlier | now
  · exact kept.keeps here earlier generation holds
  · obtain rfl := List.mem_singleton.mp now
    exact sound.keeps holds

structure Booked (told : Chronicle τ) : Prop where
  wishes : told.wishes.Perm
    (told.errands.map Errand.wish ++ told.scene.pending.map Sending.wish)
  answers : answers told.scene.client.events = told.errands.map Errand.answer

theorem Booked.move {told : Chronicle τ} (booked : told.Booked) (sound : told.scene.Sound)
    (move : Scene.Move τ) : (told.move move).Booked := by
  have acted := sound.acted (told.scene.move_passed move)
  obtain ⟨wishes, answered⟩ := booked
  cases acted with
  | silent silent wish errand pending =>
    obtain ⟨news, events, unasked⟩ := silent
    refine ⟨?_, ?_⟩
    · simpa [Chronicle.move, wish, errand, pending] using wishes
    · simp [Chronicle.move, errand, events, answered, unasked]
  | advanced onLoop thread progress rest advanced client wish errand before after =>
    obtain ⟨news, events, answers⟩ := advanced.answers
    refine ⟨?_, ?_⟩
    · simp only [Chronicle.move, wish, errand, List.map_append]
      calc told.wishes ++ progress.wish?.toList
        _ ~ told.errands.map Errand.wish ++ (thread.sending.toList ++ rest).map Sending.wish ++
              progress.wish?.toList :=
            (wishes.trans ((before.map _).append_left _)).append_right _
        _ ~ told.errands.map Errand.wish ++ (thread.sending.toList.map Sending.wish ++
              progress.wish?.toList ++ rest.map Sending.wish) := by
            simp only [List.map_append, List.append_assoc]
            exact (List.perm_append_comm.append_left _).append_left _
        _ = told.errands.map Errand.wish ++ progress.errand?.toList.map Errand.wish ++
              (progress.thread.sending.toList ++ rest).map Sending.wish := by
            rw [advanced.wishes]
            simp only [List.map_append, List.append_assoc]
        _ ~ _ := (after.symm.map _).append_left _
    · simp [Chronicle.move, errand, client, events, answered, answers]

-- The steps of a send were made one after the other, and the last of them left what came next.
structure Timely (told : Chronicle τ) : Prop where
  pending : ∀ sending ∈ told.scene.pending,
    sending.took :: sending.asked?.toList <+ told.past.map Scene.client ∧
      sending.took.events <+: told.scene.client.events
  errands : ∀ errand ∈ told.errands, errand.took.events <+: errand.gave.events ∧
    ∃ earlier later,
      told.scenes.map Scene.client = earlier ++ errand.gave :: errand.outcome :: later ∧
        [errand.took, errand.asked] <+ earlier

theorem past_move (told : Chronicle τ) (move : Scene.Move τ) :
    (told.move move).past.map Scene.client =
      told.past.map Scene.client ++ [told.scene.client] := by
  simp [Chronicle.move, scenes]

theorem scenes_move (told : Chronicle τ) (move : Scene.Move τ) :
    (told.move move).scenes.map Scene.client =
      told.scenes.map Scene.client ++ [(told.move move).scene.client] := by
  simp [Chronicle.move, scenes]

namespace Timely

variable {told : Chronicle τ} {move : Scene.Move τ} (timely : told.Timely)
  (acted : told.scene.Acted (told.scene.move move))

include timely acted

theorem pending_move {sending : Sending τ} (member : sending ∈ (told.move move).scene.pending) :
    sending.took :: sending.asked?.toList <+ (told.move move).past.map Scene.client ∧
      sending.took.events <+: (told.move move).scene.client.events := by
  have grown : told.scene.client.events <+: (told.move move).scene.client.events := acted.events
  rw [past_move]
  have still (old : sending ∈ told.scene.pending) :
      sending.took :: sending.asked?.toList <+
          told.past.map Scene.client ++ [told.scene.client] ∧
        sending.took.events <+: (told.move move).scene.client.events := by
    obtain ⟨looks, since⟩ := timely.pending sending old
    exact ⟨looks.trans (List.sublist_append_left _ _), since.trans grown⟩
  cases acted with
  | silent silent wish errand pending => exact still (pending ▸ member)
  | advanced onLoop thread progress rest advanced client wish errand before after =>
    rcases List.mem_append.mp (after.mem_iff.mp member) with own | others
    · cases advanced with
      | carried | gave => cases own
      | took data tasks vacant =>
        obtain rfl := List.mem_singleton.mp own
        exact ⟨List.sublist_append_right _ _, grown⟩
      | asked data took holds =>
        obtain rfl := List.mem_singleton.mp own
        have begun : ⟨data, took, none⟩ ∈ told.scene.pending :=
          before.mem_iff.mpr (by simp [holds])
        obtain ⟨looks, since⟩ := timely.pending _ begun
        exact ⟨looks.append (List.Sublist.refl [told.scene.client]), since.trans grown⟩
    · exact still (before.mem_iff.mpr (List.mem_append_right _ others))

theorem errands_move {errand : Errand τ} (member : errand ∈ (told.move move).errands) :
    errand.took.events <+: errand.gave.events ∧ ∃ earlier later,
      (told.move move).scenes.map Scene.client =
          earlier ++ errand.gave :: errand.outcome :: later ∧
        [errand.took, errand.asked] <+ earlier := by
  rw [scenes_move]
  rcases List.mem_append.mp member with old | fresh
  · obtain ⟨since, earlier, later, clients, before⟩ := timely.errands errand old
    exact ⟨since, earlier, later ++ [(told.move move).scene.client], by simp [clients], before⟩
  · cases acted with
    | silent silent wish none pending =>
      rw [none] at fresh
      cases fresh
    | advanced onLoop thread progress rest advanced client wish same before after =>
      rw [same] at fresh
      cases advanced with
      | carried | took | asked => cases fresh
      | gave data took asked holds =>
        obtain rfl := List.mem_singleton.mp fresh
        have begun : ⟨data, took, some asked⟩ ∈ told.scene.pending :=
          before.mem_iff.mpr (by simp [holds])
        obtain ⟨looks, since⟩ := timely.pending _ begun
        refine ⟨since, told.past.map Scene.client, [], ?_, looks⟩
        simp [scenes, Chronicle.move, client]

end Timely

theorem Timely.move {told : Chronicle τ} (timely : told.Timely) (sound : told.scene.Sound)
    (move : Scene.Move τ) : (told.move move).Timely := by
  have acted := sound.acted (told.scene.move_passed move)
  exact ⟨fun _ => timely.pending_move acted, fun _ => timely.errands_move acted⟩

def Traced (told : Chronicle τ) : Prop :=
  ∀ before generation data, before ++ [.sent generation data] <+: told.scene.client.events →
    ∃ errand ∈ told.errands, errand.gave.events = before ∧
      errand.target? = some generation ∧ errand.data = data

theorem Traced.move {told : Chronicle τ} (traced : told.Traced) (sound : told.scene.Sound)
    (move : Scene.Move τ) : (told.move move).Traced := by
  have acted := sound.acted (told.scene.move_passed move)
  intro before generation data sent
  have old (shorter : before ++ [.sent generation data] <+: told.scene.client.events) :
      ∃ errand ∈ (told.move move).errands, errand.gave.events = before ∧
        errand.target? = some generation ∧ errand.data = data := by
    obtain ⟨errand, member, given⟩ := traced before generation data shorter
    exact ⟨errand, List.mem_append_left _ member, given⟩
  cases acted with
  | silent silent wish errand pending => exact old (silent.sent_of_prefix sent)
  | advanced onLoop thread progress rest advanced client wish errand pending later =>
    change _ <+: (told.scene.move move).scene.client.events at sent
    rw [client] at sent
    cases advanced with
    | carried after tasks panic? vacant called silent ended => exact old (silent.sent_of_prefix sent)
    | took | asked => exact old sent
    | gave data' took asked holds =>
      rw [Errand.outcome, Client.give_events] at sent
      rcases List.prefix_concat_iff.mp sent with same | shorter
      · obtain ⟨rfl, answer⟩ := List.append_inj' same rfl
        refine ⟨_, List.mem_append_right _ ?_, rfl, ?_⟩
        next => rw [errand]; exact List.mem_singleton_self _
        exact Event.answer_eq_sent (List.singleton_inj.mp answer).symm
      · exact old shorter

structure Watched (told : Chronicle τ) : Prop where
  watching : told.scene.Watching
  errands : ∀ errand ∈ told.errands, errand.onLoop = true →
    errand.asked.connection = errand.took.connection ∧
      errand.gave.connection = errand.took.connection ∧
      ∃ here ∈ told.past, here.client = errand.gave ∧ here.steps = []

theorem Watched.move {told : Chronicle τ} (watched : told.Watched) (sound : told.scene.Sound)
    (move : Scene.Move τ) : (told.move move).Watched := by
  have passed := told.scene.move_passed move
  refine ⟨watched.watching.passed passed, fun errand member onLoop => ?_⟩
  rcases List.mem_append.mp member with old | fresh
  · obtain ⟨asked, gave, here, member, same⟩ := watched.errands errand old onLoop
    exact ⟨asked, gave, here, List.mem_append_left _ member, same⟩
  · obtain ⟨asked, gave, here, still⟩ :=
      watched.watching.errand sound passed (Option.mem_toList.mp fresh) onLoop
    exact ⟨asked, gave, told.scene, by simp [Chronicle.move, scenes], here.symm, still⟩

end Chronicle

end HotReload
