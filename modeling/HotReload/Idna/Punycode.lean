import HotReload.Decimal.Digits

set_option autoImplicit false

namespace HotReload.Idna.Punycode

def base : Nat := 36

def maxWord : Nat := UInt32.size - 1

def digitChar (d : Nat) : Char := if d < 26 then Char.ofNat (97 + d) else Char.ofNat (22 + d)

def digit? (c : Char) : Option Nat :=
  if 'a' ≤ c ∧ c ≤ 'z' then some (c.toNat - 97)
  else if 'A' ≤ c ∧ c ≤ 'Z' then some (c.toNat - 65)
  else if '0' ≤ c ∧ c ≤ '9' then some (c.toNat - 22)
  else none

-- The digit at position `k / 36` ends a number if it is below this.
def threshold (bias k : Nat) : Nat :=
  if k ≤ bias then 1 else if bias + 26 ≤ k then 26 else k - bias

def settle (delta k : Nat) : Nat :=
  if delta > 455 then settle (delta / 35) (k + 36) else k + 36 * delta / (delta + 38)
termination_by delta
decreasing_by omega

def adapt (delta points : Nat) (first : Bool) : Nat :=
  let delta := if first then delta / 700 else delta / 2
  settle (delta + delta / points) 0

-- How many values the digit at position `k / 36` has left once it does not end a number.
def room (bias k : Nat) : Nat := base - threshold bias k

theorem threshold_pos (bias k : Nat) : 0 < threshold bias k := by
  unfold threshold
  split
  · decide
  · split <;> omega

def encodeNumber (bias k n : Nat) : List Char :=
  if _h : n < threshold bias k then [digitChar n]
  else
    digitChar (threshold bias k + (n - threshold bias k) % room bias k)
      :: encodeNumber bias (k + base) ((n - threshold bias k) / room bias k)
termination_by n
decreasing_by
  have := threshold_pos bias k
  have := Nat.div_le_self (n - threshold bias k) (room bias k)
  omega

structure Encoder where
  written : List Char
  handled : Nat
  delta : Nat
  bias : Nat
  next : Nat

def Encoder.writePoint (basicCount : Nat) (label : List Char) (e : Encoder) (point : Nat) :
    Encoder :=
  let start := { e with delta := e.delta + (point - e.next) * (e.handled + 1) }
  let finish := label.foldl (fun (e : Encoder) c =>
    if c.toNat < point then { e with delta := e.delta + 1 }
    else if c.toNat = point then
      { written := e.written ++ encodeNumber e.bias base e.delta
        handled := e.handled + 1
        delta := 0
        bias := adapt e.delta (e.handled + 1) (e.handled = basicCount)
        next := e.next }
    else e) start
  { finish with delta := finish.delta + 1, next := point + 1 }

def insertSorted (n : Nat) : List Nat → List Nat
  | [] => [n]
  | m :: rest => if n < m then n :: m :: rest else if n = m then m :: rest
    else m :: insertSorted n rest

def encode (label : List Char) : List Char :=
  let basic := label.filter fun c => c.toNat < 128
  let points := (label.filter fun c => 128 ≤ c.toNat).foldl
    (fun sorted c => insertSorted c.toNat sorted) []
  let start := if basic.isEmpty then [] else basic ++ ['-']
  (points.foldl (Encoder.writePoint basic.length label)
    ⟨start, basic.length, 0, 72, 128⟩).written

structure Decoder where
  decoded : List Char
  index : Nat
  point : Nat
  bias : Nat
  -- The number being read: where it began, the weight of the next digit and its position.
  start : Nat
  weight : Nat
  k : Nat

def Decoder.feed (d : Decoder) (c : Char) : Option Decoder := do
  let digit ← digit? c
  let index := d.index + digit * d.weight
  let t := threshold d.bias d.k
  if index > maxWord then none
  else if t ≤ digit then
    if d.weight * room d.bias d.k > maxWord then none
    else some { d with index := index, weight := d.weight * room d.bias d.k, k := d.k + base }
  else
    let count := d.decoded.length + 1
    let point := d.point + index / count
    let position := index % count
    if h : point.isValidChar then
      let char := Char.ofNatAux point h
      some { decoded := d.decoded.take position ++ char :: d.decoded.drop position
             index := position + 1
             point
             bias := adapt (index - d.start) count (d.start = 0)
             start := position + 1
             weight := 1
             k := base }
    else none

def splitBasic (cs : List Char) : List Char × List Char :=
  let after := cs.reverse.takeWhile (· ≠ '-')
  let before := (cs.reverse.drop (after.length + 1)).reverse
  (before, after.reverse)

def decode (cs : List Char) : Option (List Char) := do
  let (basic, digits) := splitBasic cs
  let d ← digits.foldlM Decoder.feed ⟨basic, 0, 128, 72, 0, 1, base⟩
  if d.k = base then some d.decoded else none

end HotReload.Idna.Punycode
