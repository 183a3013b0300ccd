import HotReload.Decimal.Digits

set_option autoImplicit false

namespace HotReload.Unicode

structure Reading where
  rows : Array (Array Nat) := #[]
  row : Array Nat := #[]
  -- The number that is being read, if one is.
  number : Option Nat := none

def Reading.endNumber (r : Reading) : Reading :=
  match r.number with
  | some n => { r with row := r.row.push n, number := none }
  | none => r

def Reading.endRow (r : Reading) : Reading :=
  { r with rows := r.rows.push r.row, row := #[] }

def Reading.feed (r : Reading) (c : Char) : Reading :=
  match Decimal.hexDigit? c with
  | some digit => { r with number := some (r.number.getD 0 * 16 + digit) }
  | none => if c = ';' then r.endNumber.endRow else r.endNumber

-- No number goes on in the next line.
def Reading.feedLine (r : Reading) (line : String) : Reading :=
  (line.toList.foldl feed r).endNumber

def rowsOf (lines : List String) : Array (Array Nat) := (lines.foldl Reading.feedLine {}).rows

def runningSums (distances : Array Nat) : Array Nat :=
  (distances.foldl (fun (sums, last) d => (sums.push (last + d), last + d))
    ((#[] : Array Nat), 0)).1

-- How many of the increasing `bounds` between `low` and `high` are at most `x`, given that those
-- before `low` are and those from `high` on are not.
def countUpTo (bounds : Array Nat) (x low high : Nat) : Nat :=
  if h : low < high then
    let middle := low + (high - low) / 2
    if bounds.getD middle 0 ≤ x then countUpTo bounds x (middle + 1) high
    else countUpTo bounds x low middle
  else low
termination_by high - low

structure CharSet where
  bounds : Array Nat

def CharSet.ofLines (lines : List String) : CharSet :=
  ⟨runningSums ((rowsOf lines).getD 0 #[])⟩

def CharSet.contains (set : CharSet) (c : Char) : Bool :=
  countUpTo set.bounds c.toNat 0 set.bounds.size % 2 = 1

structure CharMap where
  bounds : Array Nat
  values : Array Nat

def CharMap.ofLines (lines : List String) : CharMap :=
  let rows := rowsOf lines
  ⟨runningSums (rows.map fun row => row.getD 0 0), rows.map fun row => row.getD 1 0⟩

def CharMap.get (map : CharMap) (c : Char) : Nat :=
  let count := countUpTo map.bounds c.toNat 0 map.bounds.size
  if count = 0 then 0 else map.values.getD (count - 1) 0

structure RowTable where
  keys : Array Nat
  rows : Array (Array Nat)

-- Each row begins with the distance of its key from the key before it.
def RowTable.ofLines (lines : List String) : RowTable :=
  let rows := rowsOf lines
  ⟨runningSums (rows.map fun row => row.getD 0 0), rows.map fun row => row.extract 1 row.size⟩

-- The row with the greatest key that is at most `x`, and that key.
def RowTable.below? (table : RowTable) (x : Nat) : Option (Nat × Array Nat) :=
  let count := countUpTo table.keys x 0 table.keys.size
  if count = 0 then none
  else some (table.keys.getD (count - 1) 0, table.rows.getD (count - 1) #[])

def RowTable.find? (table : RowTable) (x : Nat) : Option (Array Nat) :=
  match table.below? x with
  | some (key, row) => if key = x then some row else none
  | none => none

end HotReload.Unicode
