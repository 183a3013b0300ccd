import HotReload.Bus

set_option autoImplicit false

namespace HotReload

def Fanout.goOn {σ : Type} (result : σ × Fanout) (next : σ → σ × Fanout) : σ × Fanout :=
  match result with
  | (s, .finished) => next s
  | stopped => stopped

section mirror

variable {σ τ : Type} [Host σ] [Host τ]

structure Mirrored (R : σ → τ → Prop) : Prop where
  subscribers : ∀ s t, R s t → Host.subscribers s = Host.subscribers t
  register : ∀ s t subscriber, R s t → R (Host.register s subscriber) (Host.register t subscriber)
  announce : ∀ s t count, R s t →
    R (Host.record s (.noted (.dispatching count))) (Host.record t (.noted (.dispatching count)))
  call : ∀ s t subscriber envelope, R s t →
    R (recordCall subscriber envelope s) (recordCall subscriber envelope t)
  request : ∀ s t request, R s t → R (Host.request s request) (Host.request t request)
  sight : ∀ s t, R s t → Host.sight s = Host.sight t

def Agree (R : σ → τ → Prop) (left : σ × Fanout) (right : τ × Fanout) : Prop :=
  R left.1 right.1 ∧ left.2 = right.2

omit [Host σ] [Host τ] in
theorem Agree.goOn {R : σ → τ → Prop} {left : σ × Fanout} {right : τ × Fanout}
    {inner : σ → σ × Fanout} {outer : τ → τ × Fanout} (agree : Agree R left right)
    (next : ∀ s t, R s t → Agree R (inner s) (outer t)) :
    Agree R (Fanout.goOn left inner) (Fanout.goOn right outer) := by
  obtain ⟨s, reason⟩ := left
  obtain ⟨t, other⟩ := right
  obtain ⟨related, same⟩ := agree
  cases same
  cases reason with
  | finished => exact next s t related
  | panicked payload => exact ⟨related, rfl⟩
  | exhausted => exact ⟨related, rfl⟩

variable {R : σ → τ → Prop} {inner : Envelope → σ → σ × Fanout} {outer : Envelope → τ → τ × Fanout}

theorem perform_agrees (mirrored : Mirrored R)
    (nested : ∀ envelope s t, R s t → Agree R (inner envelope s) (outer envelope t))
    (effect : Effect) (s : σ) (t : τ) (related : R s t) :
    Agree R (perform inner s effect) (perform outer t effect) := by
  cases effect with
  | register name seesState react => exact ⟨mirrored.register _ _ _ related, rfl⟩
  | dispatch text =>
    simp only [perform]
    cases Envelope.ofFrame text with
    | ok envelope => exact nested envelope s t related
    | error cause => exact ⟨related, rfl⟩
  | request request => exact ⟨mirrored.request _ _ _ related, rfl⟩
  | panic payload => exact ⟨related, rfl⟩

theorem performAll_agrees (mirrored : Mirrored R)
    (nested : ∀ envelope s t, R s t → Agree R (inner envelope s) (outer envelope t))
    (effects : List Effect) (s : σ) (t : τ) (related : R s t) :
    Agree R (performAll inner effects s) (performAll outer effects t) := by
  induction effects generalizing s t with
  | nil => exact ⟨related, rfl⟩
  | cons effect rest ih =>
    have performed := perform_agrees mirrored nested effect s t related
    exact performed.goOn ih

theorem callAll_agrees (mirrored : Mirrored R)
    (nested : ∀ envelope s t, R s t → Agree R (inner envelope s) (outer envelope t))
    (envelope : Envelope) (subscribers : List Subscriber) (s : σ) (t : τ) (related : R s t) :
    Agree R (callAll inner envelope subscribers s) (callAll outer envelope subscribers t) := by
  induction subscribers generalizing s t with
  | nil => exact ⟨related, rfl⟩
  | cons subscriber rest ih =>
    have called := performAll_agrees mirrored nested (subscriber.react (Host.sight s) envelope) _ _
      (mirrored.call s t subscriber envelope related)
    simp only [callAll]
    rw [← mirrored.sight s t related]
    exact called.goOn ih

theorem dispatch_agrees (mirrored : Mirrored R) (depth : Nat) (envelope : Envelope) (s : σ) (t : τ)
    (related : R s t) : Agree R (dispatch depth envelope s) (dispatch depth envelope t) := by
  induction depth generalizing envelope s t with
  | zero => exact ⟨related, rfl⟩
  | succ depth ih =>
    simp only [dispatch]
    rw [mirrored.subscribers s t related]
    exact callAll_agrees mirrored ih envelope _ _ _ (mirrored.announce s t _ related)

end mirror

section keep

variable {σ : Type} [Host σ]

structure Kept (P : σ → Prop) : Prop where
  register : ∀ s subscriber, P s → P (Host.register s subscriber)
  announce : ∀ s count, P s → P (Host.record s (.noted (.dispatching count)))
  call : ∀ s subscriber envelope, P s → P (recordCall subscriber envelope s)
  request : ∀ s request, P s → P (Host.request s request)

theorem Kept.mirrored {P : σ → Prop} (kept : Kept P) : Mirrored fun s t => s = t ∧ P s where
  subscribers := by rintro s t ⟨rfl, _⟩; rfl
  register := by rintro s t subscriber ⟨rfl, holds⟩; exact ⟨rfl, kept.register s subscriber holds⟩
  announce := by rintro s t count ⟨rfl, holds⟩; exact ⟨rfl, kept.announce s count holds⟩
  call := by
    rintro s t subscriber envelope ⟨rfl, holds⟩
    exact ⟨rfl, kept.call s subscriber envelope holds⟩
  request := by rintro s t request ⟨rfl, holds⟩; exact ⟨rfl, kept.request s request holds⟩
  sight := by rintro s t ⟨rfl, _⟩; rfl

theorem Kept.dispatch {P : σ → Prop} (kept : Kept P) (depth : Nat) (envelope : Envelope) (s : σ)
    (holds : P s) : P (dispatch depth envelope s).1 :=
  (dispatch_agrees kept.mirrored depth envelope s s ⟨rfl, holds⟩).1.2

end keep

end HotReload
