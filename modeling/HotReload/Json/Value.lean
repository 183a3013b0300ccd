import HotReload.Decimal.Shortest

set_option autoImplicit false

namespace HotReload.Json

def minInteger : Int := -(Nat.pow 2 63 : Nat)

def maxInteger : Int := UInt64.size - 1

inductive Number where
  | integer (value : Int) (lower : minInteger ≤ value) (upper : value ≤ maxInteger)
  | float (value : Float)

inductive Value where
  | null
  | bool (value : Bool)
  | number (value : Number)
  | string (text : String)
  | array (items : List Value)
  | object (members : List (String × Value))

instance : Inhabited Value := ⟨.null⟩

def Value.ofNat (n : Nat) : Value :=
  if h : (n : Int) ≤ maxInteger then
    .number (.integer n (by simp only [minInteger]; omega) h)
  else .number (.float n.toFloat)

-- Keeps the keys in strictly increasing order; a key that is already there gets the new value.
def insertMember {α : Type} (key : String) (value : α) : List (String × α) → List (String × α)
  | [] => [(key, value)]
  | (other, old) :: rest =>
    if key < other then (key, value) :: (other, old) :: rest
    else if key = other then (key, value) :: rest
    else (other, old) :: insertMember key value rest

section members

variable {α : Type}

theorem mem_insertMember {key : String} {value : α} {members : List (String × α)}
    {member : String × α} (inside : member ∈ insertMember key value members) :
    member = (key, value) ∨ member ∈ members := by
  induction members with
  | nil => exact .inl (List.mem_singleton.mp inside)
  | cons first rest ih =>
    simp only [insertMember] at inside
    split at inside
    next => exact List.mem_cons.mp inside
    next =>
      split at inside
      next =>
        rcases List.mem_cons.mp inside with new | old
        · exact .inl new
        · exact .inr (List.mem_cons_of_mem _ old)
      next =>
        rcases List.mem_cons.mp inside with same | later
        · exact .inr (same ▸ List.mem_cons_self)
        · rcases ih later with new | old
          · exact .inl new
          · exact .inr (List.mem_cons_of_mem _ old)

theorem insertMember_keys {members : List (String × α)}
    (keys : members.Pairwise fun one other => one.1 < other.1) (key : String) (value : α) :
    (insertMember key value members).Pairwise fun one other => one.1 < other.1 := by
  induction members with
  | nil => exact List.pairwise_singleton _ _
  | cons first rest ih =>
    obtain ⟨least, keys⟩ := List.pairwise_cons.mp keys
    simp only [insertMember]
    split
    next before =>
      refine List.pairwise_cons.mpr ⟨fun other inside => ?_, List.pairwise_cons.mpr ⟨least, keys⟩⟩
      rcases List.mem_cons.mp inside with rfl | later
      · exact before
      · exact String.lt_trans before (least other later)
    next notBefore =>
      split
      next same => exact List.pairwise_cons.mpr ⟨same ▸ least, keys⟩
      next other =>
        refine List.pairwise_cons.mpr ⟨fun member inside => ?_, ih keys⟩
        rcases mem_insertMember inside with rfl | old
        · refine Decidable.byContradiction fun notAfter => other ?_
          exact String.le_antisymm (String.not_lt.mp notAfter) (String.not_lt.mp notBefore)
        · exact least member old

theorem insertMember_last {members : List (String × α)} {key : String}
    (greatest : ∀ member ∈ members, member.1 < key) (value : α) :
    insertMember key value members = members ++ [(key, value)] := by
  induction members with
  | nil => rfl
  | cons first rest ih =>
    have before := greatest first List.mem_cons_self
    have later := ih fun member inside => greatest member (List.mem_cons_of_mem _ inside)
    simp [insertMember, String.lt_asymm before, (String.ne_of_lt before).symm, later]

theorem foldl_insertMember {done members : List (String × α)}
    (keys : (done ++ members).Pairwise fun one other => one.1 < other.1) :
    members.foldl (fun sorted member => insertMember member.1 member.2 sorted) done =
      done ++ members := by
  induction members generalizing done with
  | nil => simp
  | cons member rest ih =>
    have greatest : ∀ other ∈ done, other.1 < member.1 := fun other inside =>
      (List.pairwise_append.mp keys).2.2 other inside member List.mem_cons_self
    have again : (done ++ [member] ++ rest).Pairwise fun one other => one.1 < other.1 := by
      simpa using keys
    rw [List.foldl_cons, insertMember_last greatest, ih again]
    simp

end members

def Value.ofMembers (members : List (String × Value)) : Value :=
  .object (members.foldl (fun sorted member => insertMember member.1 member.2 sorted) [])

def find? (key : String) (members : List (String × Value)) : Option Value :=
  (members.find? fun member => member.1 = key).map Prod.snd

mutual

def Value.depth : Value → Nat
  | .array items => 1 + depthOfItems items
  | .object members => 1 + depthOfMembers members
  | _ => 0

def depthOfItems : List Value → Nat
  | [] => 0
  | item :: rest => max item.depth (depthOfItems rest)

def depthOfMembers : List (String × Value) → Nat
  | [] => 0
  | (_, value) :: rest => max value.depth (depthOfMembers rest)

end

end HotReload.Json
