import HotReload.Json.Reader

set_option autoImplicit false

namespace HotReload.Json

mutual

def Value.isExact : Value → Bool
  | .number (.float _) => false
  | .array items => exactItems items
  | .object members => exactMembers members
  | _ => true

def exactItems : List Value → Bool
  | [] => true
  | item :: rest => item.isExact && exactItems rest

def exactMembers : List (String × Value) → Bool
  | [] => true
  | (_, value) :: rest => value.isExact && exactMembers rest

end

inductive Value.Sorted : Value → Prop
  | null : Sorted .null
  | bool (value : Bool) : Sorted (.bool value)
  | number (value : Number) : Sorted (.number value)
  | string (text : String) : Sorted (.string text)
  | array {items : List Value} (inner : ∀ item ∈ items, item.Sorted) : Sorted (.array items)
  | object {members : List (String × Value)}
      (keys : members.Pairwise fun one other => one.1 < other.1)
      (inner : ∀ member ∈ members, member.2.Sorted) : Sorted (.object members)

theorem isExact_array (items : List Value) :
    (Value.array items).isExact = true ↔ ∀ item ∈ items, item.isExact = true := by
  simp only [Value.isExact]
  induction items with
  | nil => simp [exactItems]
  | cons item rest ih => simp [exactItems, ih]

theorem isExact_object (members : List (String × Value)) :
    (Value.object members).isExact = true ↔ ∀ member ∈ members, member.2.isExact = true := by
  simp only [Value.isExact]
  induction members with
  | nil => simp [exactMembers]
  | cons member rest ih => simp [exactMembers, ih]

theorem depth_array_le (items : List Value) (levels : Nat) :
    (Value.array items).depth ≤ levels + 1 ↔ ∀ item ∈ items, item.depth ≤ levels := by
  have inner : depthOfItems items ≤ levels ↔ ∀ item ∈ items, item.depth ≤ levels := by
    induction items with
    | nil => simp [depthOfItems]
    | cons item rest ih => rw [depthOfItems, Nat.max_le, ih, List.forall_mem_cons]
  rw [← inner, Value.depth]
  omega

theorem depth_object_le (members : List (String × Value)) (levels : Nat) :
    (Value.object members).depth ≤ levels + 1 ↔ ∀ member ∈ members, member.2.depth ≤ levels := by
  have inner : depthOfMembers members ≤ levels ↔ ∀ member ∈ members, member.2.depth ≤ levels := by
    induction members with
    | nil => simp [depthOfMembers]
    | cons member rest ih => rw [depthOfMembers, Nat.max_le, ih, List.forall_mem_cons]
  rw [← inner, Value.depth]
  omega

theorem lt_depth_array (items : List Value) (levels : Nat) :
    levels + 1 < (Value.array items).depth ↔ ∃ item ∈ items, levels < item.depth := by
  simpa using not_congr (depth_array_le items levels)

theorem lt_depth_object (members : List (String × Value)) (levels : Nat) :
    levels + 1 < (Value.object members).depth ↔ ∃ member ∈ members, levels < member.2.depth := by
  simpa using not_congr (depth_object_le members levels)

section walk

variable {σ : Type} {P : σ → Prop}

theorem walkList_keeps {step : σ → Input → Except Failure (Scanned σ)}
    (keeps : ∀ state cs after rest, P state → step state cs = .ok (after, rest) → P after)
    {bound : Nat} {first : Bool} {state after : σ} {cs rest : Input} (before : P state)
    (walked : walkList step bound first state cs = .ok (after, rest)) : P after := by
  induction bound generalizing first state cs with
  | zero => cases walked
  | succ bound ih =>
    simp only [walkList] at walked
    split at walked
    next => cases walked
    next =>
      cases walked
      exact before
    next =>
      split at walked
      next => cases walked
      next stepped => exact ih (keeps _ _ _ _ before stepped) walked

theorem walkObject_keeps {step : σ → String → Input → Except Failure (Scanned σ)}
    (keeps : ∀ state key cs after rest, P state → step state key cs = .ok (after, rest) → P after)
    {bound : Nat} {first : Bool} {state after : σ} {cs rest : Input} (before : P state)
    (walked : walkObject step bound first state cs = .ok (after, rest)) : P after := by
  induction bound generalizing first state cs with
  | zero => cases walked
  | succ bound ih =>
    simp only [walkObject] at walked
    split at walked
    next => cases walked
    next =>
      cases walked
      exact before
    next =>
      split at walked
      next => cases walked
      next stepped => exact ih (keeps _ _ _ _ _ before stepped) walked

end walk

def pushItem (bound levels : Nat) (items : List Value) (cs : Input) :
    Except Failure (Scanned (List Value)) :=
  (readValue bound levels cs).map fun (v, cs) => (v :: items, cs)

def putMember (bound levels : Nat) (members : List (String × Value)) (key : String) (cs : Input) :
    Except Failure (Scanned (List (String × Value))) := do
  let cs ← scanColon cs
  let (value, cs) ← readValue bound levels cs
  .ok (insertMember key value members, cs)

theorem bind_eq_ok {α β : Type} {x : Except Failure α} {f : α → Except Failure β} {b : β} :
    x >>= f = .ok b ↔ ∃ a, x = .ok a ∧ f a = .ok b := by
  cases x with
  | error e => simp [bind, Except.bind]
  | ok a => simp [bind, Except.bind]

theorem map_eq_ok {α β : Type} {x : Except Failure α} {f : α → β} {b : β} :
    x.map f = .ok b ↔ ∃ a, x = .ok a ∧ f a = b := by
  cases x with
  | error e => simp [Except.map]
  | ok a => simp [Except.map]

theorem scanScalar?_eq_ok {cs rest : Input} {value : Value}
    (scanned : scanScalar? cs = some (.ok (value, rest))) : value.Sorted ∧ value.depth = 0 := by
  have made {α : Type} {x : Except Failure α} {f : α → Scanned Value}
      (flat : ∀ a, (f a).1.Sorted ∧ (f a).1.depth = 0)
      (mapped : some (x.map f) = some (.ok (value, rest))) :
      value.Sorted ∧ value.depth = 0 := by
    obtain ⟨a, _, same⟩ := map_eq_ok.mp (Option.some.inj mapped)
    have parts := flat a
    rwa [same] at parts
  unfold scanScalar? at scanned
  split at scanned
  next => exact made (fun _ => ⟨.null, rfl⟩) scanned
  next => exact made (fun _ => ⟨.bool true, rfl⟩) scanned
  next => exact made (fun _ => ⟨.bool false, rfl⟩) scanned
  next => exact made (fun found => ⟨.number found.1, rfl⟩) scanned
  next => exact made (fun found => ⟨.string found.1, rfl⟩) scanned
  next =>
    split at scanned
    next => exact made (fun found => ⟨.number found.1, rfl⟩) scanned
    next => cases scanned

theorem readValue_eq_ok {bound levels : Nat} {cs rest : Input} {value : Value}
    (read : readValue bound levels cs = .ok (value, rest)) :
    (∃ cs, scanScalar? cs = some (.ok (value, rest))) ∨
    ∃ inner, levels = inner + 1 ∧
      ((∃ items cs left, walkList (pushItem bound inner) bound true [] cs = .ok (items, left) ∧
          value = .array items.reverse) ∨
        ∃ members cs left, walkObject (putMember bound inner) bound true [] cs =
          .ok (members, left) ∧ value = .object members) := by
  unfold readValue at read
  split at read
  next => cases read
  next c more _ =>
    split at read
    next =>
      cases levels with
      | zero => cases read
      | succ inner =>
        obtain ⟨⟨items, left⟩, walked, read⟩ := bind_eq_ok.mp read
        obtain ⟨_, _, read⟩ := bind_eq_ok.mp read
        cases read
        exact .inr ⟨inner, rfl, .inl ⟨items, _, _, walked, rfl⟩⟩
    next =>
      split at read
      next =>
        cases levels with
        | zero => cases read
        | succ inner =>
          obtain ⟨⟨members, left⟩, walked, read⟩ := bind_eq_ok.mp read
          obtain ⟨_, _, read⟩ := bind_eq_ok.mp read
          cases read
          exact .inr ⟨inner, rfl, .inr ⟨members, _, _, walked, rfl⟩⟩
      next =>
        cases scanned : scanScalar? (c :: more) with
        | none =>
          rw [scanned] at read
          cases read
        | some found =>
          rw [scanned] at read
          cases read
          exact .inl ⟨_, scanned⟩

theorem readValue_sound {bound levels : Nat} {cs rest : Input} {value : Value}
    (read : readValue bound levels cs = .ok (value, rest)) :
    value.Sorted ∧ value.depth ≤ levels := by
  induction levels generalizing cs rest value with
  | zero =>
    rcases readValue_eq_ok read with ⟨_, scanned⟩ | ⟨_, none, _⟩
    · obtain ⟨sorted, flat⟩ := scanScalar?_eq_ok scanned
      exact ⟨sorted, Nat.le_of_eq flat⟩
    · cases none
  | succ levels ih =>
    rcases readValue_eq_ok read with ⟨_, scanned⟩ | ⟨_, same, ⟨items, _, _, walked, rfl⟩ |
      ⟨members, _, _, walked, rfl⟩⟩
    · obtain ⟨sorted, flat⟩ := scanScalar?_eq_ok scanned
      exact ⟨sorted, by omega⟩
    · cases same
      have all : ∀ item ∈ items, item.Sorted ∧ item.depth ≤ levels := by
        refine walkList_keeps (P := fun items => ∀ item ∈ items, item.Sorted ∧ item.depth ≤ levels)
          (fun items _ after _ before pushed => ?_) (by simp) walked
        obtain ⟨found, read, made⟩ := map_eq_ok.mp pushed
        cases made
        exact List.forall_mem_cons.mpr ⟨ih read, before⟩
      refine ⟨.array fun item inside => ?_, (depth_array_le _ _).mpr fun item inside => ?_⟩
      · exact (all item (List.mem_reverse.mp inside)).1
      · exact (all item (List.mem_reverse.mp inside)).2
    · cases same
      have all : (members.Pairwise fun one other => one.1 < other.1) ∧
          ∀ member ∈ members, member.2.Sorted ∧ member.2.depth ≤ levels := by
        refine walkObject_keeps (P := fun members =>
          (members.Pairwise fun one other => one.1 < other.1) ∧
            ∀ member ∈ members, member.2.Sorted ∧ member.2.depth ≤ levels)
          (fun members key _ after _ before put => ?_) (by simp) walked
        obtain ⟨_, _, put⟩ := bind_eq_ok.mp put
        obtain ⟨⟨value, _⟩, read, made⟩ := bind_eq_ok.mp put
        cases made
        refine ⟨insertMember_keys before.1 key value, fun member inside => ?_⟩
        rcases mem_insertMember inside with rfl | old
        · exact ih read
        · exact before.2 member old
      refine ⟨.object all.1 fun member inside => ?_, (depth_object_le _ _).mpr fun member inside => ?_⟩
      · exact (all.2 member inside).1
      · exact (all.2 member inside).2

end HotReload.Json
