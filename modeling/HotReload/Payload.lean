import HotReload.Envelope

set_option autoImplicit false

namespace HotReload

open Json

class Payload (α : Type) where
  accept : Accept α
  toValue : α → Value

namespace Payload

instance : Payload Value where
  accept := .ok
  toValue := id

instance : Payload Bool where
  accept := boolShape.accept
  toValue := .bool

instance : Payload String where
  accept := textShape.accept
  toValue := .string

instance : Payload UInt8 where
  accept v := (unsigned8Shape.accept v).map UInt8.ofNat
  toValue n := .ofNat n.toNat

instance : Payload UInt64 where
  accept v := (unsigned64Shape.accept v).map UInt64.ofNat
  toValue n := .ofNat n.toNat

instance : Payload Int64 where
  accept v := (signed64Shape.accept v).map Int64.ofInt
  toValue n := .number (.integer n.toInt
    (by simpa [minInteger] using n.minValue_le_toInt)
    (by have := n.toInt_lt; simp only [maxInteger, UInt64.size]; omega))

instance : Payload Unit where
  accept
    | .null => .ok ()
    | v => refuse .unit v
  toValue _ := .null

instance {α : Type} [Payload α] : Payload (Option α) where
  accept
    | .null => .ok none
    | v => (accept v).map some
  toValue
    | none => .null
    | some x => toValue x

instance {α : Type} [Payload α] : Payload (List α) where
  accept
    | .array items => items.mapM accept
    | v => refuse .sequence v
  toValue xs := .array (xs.map toValue)

instance {α β : Type} [Payload α] [Payload β] : Payload (α × β) where
  accept
    | .array [] => .error (.wrongLength 0 (.tuple 2))
    | .array [a] => do
      let _ : α ← accept a
      .error (.wrongLength 1 (.tuple 2))
    | .array (a :: b :: rest) => do
      let x ← accept a
      let y ← accept b
      if rest.isEmpty then .ok (x, y) else .error (.wrongLength (rest.length + 2) .fewerItems)
    | v => refuse (.tuple 2) v
  toValue p := .array [toValue p.1, toValue p.2]

end Payload

@[ext]
structure Table (α : Type) where
  entries : List (String × α)
  ascending : entries.Pairwise fun one other => one.1 < other.1

namespace Table

variable {α : Type}

def insert (table : Table α) (entry : String × α) : Table α where
  entries := insertMember entry.1 entry.2 table.entries
  ascending := insertMember_keys table.ascending entry.1 entry.2

def ofEntries (entries : List (String × α)) : Table α := entries.foldl insert ⟨[], .nil⟩

theorem entries_foldl_insert (entries : List (String × α)) (table : Table α) :
    (entries.foldl insert table).entries =
      entries.foldl (fun sorted entry => insertMember entry.1 entry.2 sorted) table.entries := by
  induction entries generalizing table with
  | nil => rfl
  | cons entry rest ih => exact ih (table.insert entry)

theorem ofEntries_entries (table : Table α) : ofEntries table.entries = table := by
  ext1
  rw [ofEntries, entries_foldl_insert]
  exact foldl_insertMember table.ascending

end Table

def acceptMember {α : Type} [Payload α] (member : String × Value) : Except Cause (String × α) :=
  (Payload.accept member.2).map fun x => (member.1, x)

instance {α : Type} [Payload α] : Payload (Table α) where
  accept
    | .object members => (members.mapM acceptMember).map Table.ofEntries
    | v => refuse .map v
  toValue t := .object (t.entries.map fun entry => (entry.1, Payload.toValue entry.2))

-- Data are read as whatever type a user derives, and this one stands for a derived record: `action`
-- and `hash` are what a server says of a build, `errors` is there for a field with a default, which
-- the data may leave out.
structure Built where
  action : String
  hash : String
  errors : List String
  deriving DecidableEq

namespace Built

structure Draft where
  action : Option String := none
  hash : Option String := none
  errors : Option (List String) := none

def acceptField (d : Draft) (member : String × Value) : Except Cause Draft :=
  if member.1 = "action" then
    (Payload.accept member.2).map fun x => { d with action := some x }
  else if member.1 = "hash" then
    (Payload.accept member.2).map fun x => { d with hash := some x }
  else if member.1 = "errors" then
    (Payload.accept member.2).map fun x => { d with errors := some x }
  else .ok d

def Draft.complete (d : Draft) : Except Cause Built :=
  match d.action, d.hash with
  | none, _ => .error (.missingField "action")
  | some _, none => .error (.missingField "hash")
  | some action, some hash => .ok ⟨action, hash, d.errors.getD []⟩

def acceptItems : List Value → Except Cause Built
  | [] => .error (.wrongLength 0 (.recordOf "Built" 3))
  | [a] => do
    let _ : String ← Payload.accept a
    .error (.wrongLength 1 (.recordOf "Built" 3))
  | [a, b] => do
    let action ← Payload.accept a
    let hash ← Payload.accept b
    .ok ⟨action, hash, []⟩
  | a :: b :: c :: rest => do
    let action ← Payload.accept a
    let hash ← Payload.accept b
    let errors ← Payload.accept c
    if rest.isEmpty then .ok ⟨action, hash, errors⟩
    else .error (.wrongLength (rest.length + 3) .fewerItems)

instance : Payload Built where
  accept
    | .object members => do
      let draft ← members.foldlM acceptField {}
      draft.complete
    | .array items => acceptItems items
    | v => refuse (.record "Built") v
  toValue b := .object
    [("action", .string b.action), ("hash", .string b.hash),
      ("errors", Payload.toValue b.errors)]

end Built

def Envelope.dataAs (α : Type) [Payload α] (e : Envelope) : Except Json.Error (Option α) :=
  match e with
  | .connected => .ok none
  | .message data =>
    match Payload.accept data with
    | .ok x => .ok (some x)
    | .error cause => .error ⟨cause, none⟩

end HotReload
