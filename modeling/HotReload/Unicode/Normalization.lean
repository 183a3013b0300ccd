import HotReload.Unicode.CombiningClass
import HotReload.Unicode.Composition

set_option autoImplicit false

namespace HotReload.Unicode

namespace Hangul

def syllables : Nat := 0xAC00

def leads : Nat := 0x1100

def vowels : Nat := 0x1161

-- One below the first trailing consonant, so that zero means none.
def trails : Nat := 0x11A7

def isSyllable (n : Nat) : Bool := syllables ≤ n ∧ n < syllables + 11172

def decompose (n : Nat) : List Char :=
  let index := n - syllables
  let pair := [Char.ofNat (leads + index / 588), Char.ofNat (vowels + index % 588 / 28)]
  if index % 28 = 0 then pair else pair ++ [Char.ofNat (trails + index % 28)]

def compose? (a b : Nat) : Option Char :=
  if leads ≤ a ∧ a < leads + 19 ∧ vowels ≤ b ∧ b < vowels + 21 then
    some (Char.ofNat (syllables + ((a - leads) * 21 + (b - vowels)) * 28))
  else if isSyllable a ∧ (a - syllables) % 28 = 0 ∧ trails < b ∧ b < trails + 28 then
    some (Char.ofNat (a + (b - trails)))
  else none

end Hangul

def decomposeChar (c : Char) : List Char :=
  if Hangul.isSyllable c.toNat then Hangul.decompose c.toNat
  else match decompositions.find? c.toNat with
    | some row => row.toList.map Char.ofNat
    | none => [c]

-- Puts a mark behind those before it whose class is not greater; `sorted` is reversed.
def insertMark (c : Char) (rank : Nat) : List Char → List Char
  | [] => [c]
  | d :: rest =>
    if rank ≠ 0 ∧ combiningClass d > rank then d :: insertMark c rank rest else c :: d :: rest

def orderMarks (cs : List Char) : List Char :=
  (cs.foldl (fun sorted c => insertMark c (combiningClass c) sorted) []).reverse

def lookupPair (b : Nat) : List Nat → Option Char
  | second :: whole :: rest => if second = b then some (Char.ofNat whole) else lookupPair b rest
  | _ => none

def composePair? (a b : Char) : Option Char :=
  match Hangul.compose? a.toNat b.toNat with
  | some c => some c
  | none => (compositions.find? a.toNat).bind fun row => lookupPair b.toNat row.toList

structure Composing where
  -- All lists are reversed.
  finished : List Char
  starter : Option Char
  marks : List Char

def Composing.isBlocked (state : Composing) (rank : Nat) : Bool :=
  match state.marks with
  | [] => false
  | last :: _ => rank ≤ combiningClass last

def Composing.flushed (state : Composing) : List Char :=
  state.marks ++ state.starter.toList ++ state.finished

def Composing.feed (state : Composing) (c : Char) : Composing :=
  let rank := combiningClass c
  let composed := if state.isBlocked rank then none else
    state.starter.bind fun s => composePair? s c
  match composed with
  | some whole => { state with starter := some whole }
  | none =>
    if rank = 0 then ⟨state.flushed, some c, []⟩
    else if state.starter.isNone then { state with finished := c :: state.finished }
    else { state with marks := c :: state.marks }

def compose (cs : List Char) : List Char :=
  (cs.foldl Composing.feed ⟨[], none, []⟩).flushed.reverse

def normalize (cs : List Char) : List Char := compose (orderMarks (cs.flatMap decomposeChar))

end HotReload.Unicode
