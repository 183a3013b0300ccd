import HotReload.Json.Reader

set_option autoImplicit false

namespace HotReload.Json

abbrev Accept (α : Type) := Value → Except Cause α

structure Shape (α : Type) where
  expected : Expected
  accept : Accept α

def refuse {α : Type} (expected : Expected) : Accept α := fun v =>
  .error (.wrongType v.found expected)

def textShape : Shape String where
  expected := .text
  accept
    | .string s => .ok s
    | v => refuse .text v

def boolShape : Shape Bool where
  expected := .boolean
  accept
    | .bool b => .ok b
    | v => refuse .boolean v

def unsignedShape (expected : Expected) (limit : Nat) : Shape Nat where
  expected
  accept
    | .number (.integer n _ _) =>
      if 0 ≤ n ∧ n < limit then .ok n.toNat else .error (.wrongValue n expected)
    | v => refuse expected v

def unsigned8Shape : Shape Nat := unsignedShape .unsigned8 UInt8.size

def unsigned64Shape : Shape Nat := unsignedShape .unsigned64 UInt64.size

def signed64Shape : Shape Int where
  expected := .signed64
  accept
    | .number (.integer n _ _) =>
      if n < Nat.pow 2 63 then .ok n else .error (.wrongValue n .signed64)
    | v => refuse .signed64 v

-- Reads a value that is not a container; a container is refused at its bracket.
def readScalarAs {α : Type} (shape : Shape α) (cs : Input) : Except Failure (Scanned α) :=
  match cs with
  | [] => failAt .unfinishedValue []
  | '[' :: rest => failAt (.wrongType .sequence shape.expected) ('[' :: rest)
  | '\x7b' :: rest => failAt (.wrongType .map shape.expected) ('\x7b' :: rest)
  | cs =>
    match scanScalar? cs with
    | none => failOn .expectedValue cs
    | some (.error e) => .error e
    | some (.ok (value, rest)) =>
      match shape.accept value with
      | .ok x => .ok (x, rest)
      | .error cause => failAt cause rest

def readAs {α : Type} (shape : Shape α) (cs : Input) : Except Failure (Scanned α) :=
  readScalarAs shape (skipBlank cs)

def refuseText {α : Type} (expected : Expected) (cs : Input) : Except Failure (Scanned α) :=
  readScalarAs ⟨expected, refuse expected⟩ cs

def readItem? {α : Type} (first : Bool) (read : Input → Except Failure (Scanned α))
    (cs : Input) : Except Failure (Scanned (Option α)) :=
  match nextItem first cs with
  | .error e => .error e
  | .ok none => .ok (none, cs)
  | .ok (some cs) => (read cs).map fun (x, cs) => (some x, cs)

end HotReload.Json
