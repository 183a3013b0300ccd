import HotReload.Decimal.Digits
import HotReload.Text.Split

set_option autoImplicit false

namespace HotReload.Url.Ipv6

open Text

def readGroup : Nat → Nat → Nat → List Char → Nat × Nat × List Char
  | count + 1, taken, value, c :: rest =>
    match Decimal.hexDigit? c with
    | some d => readGroup count (taken + 1) (value * 16 + d) rest
    | none => (taken, value, c :: rest)
  | _, taken, value, cs => (taken, value, cs)

def readByte (part : List Char) : Option Nat := do
  let digits ← part.mapM Decimal.digit?
  let value := digits.foldl (fun n d => n * 10 + d) 0
  if digits.isEmpty ∨ digits.length > 3 ∨ value > 255 then none
  else if digits.length > 1 ∧ digits.head? = some 0 then none
  else some value

def readDotted (cs : List Char) : Option (List (Option Nat)) := do
  match ← (splitOn '.' cs).mapM readByte with
  | [a, b, c, d] => some [some (a * 256 + b), some (c * 256 + d)]
  | _ => none

-- Reads into `space` free groups; `none` among them stands for the one gap.
def readGroups : Nat → Bool → List Char → Option (List (Option Nat))
  | _, _, [] => some []
  | 0, _, _ :: _ => none
  | space + 1, hasGap, c :: rest =>
    if c = ':' then
      if hasGap then none else (readGroups space true rest).map (none :: ·)
    else
      match readGroup 4 0 0 (c :: rest) with
      | (_, value, []) => some [some value]
      | (taken, _, '.' :: _) =>
        if taken = 0 ∨ space = 0 then none else readDotted (c :: rest)
      | (taken, value, ':' :: more) =>
        if taken = 0 ∨ more.isEmpty then none
        else (readGroups space hasGap more).map (some value :: ·)
      | _ => none

-- The gap stands for at least one group.
def expand (groups : List (Option Nat)) : Option (List Nat) :=
  if groups.any Option.isNone then
    let before := (groups.takeWhile Option.isSome).filterMap id
    let after := ((groups.dropWhile Option.isSome).drop 1).filterMap id
    if before.length + after.length < 8 then
      some (before ++ List.replicate (8 - before.length - after.length) 0 ++ after)
    else none
  else if groups.length = 8 then some (groups.filterMap id)
  else none

def parse (cs : List Char) : Option (List Nat) :=
  match cs with
  | [] => none
  | [_] => none
  | ':' :: ':' :: rest => ((readGroups 7 true rest).map (none :: ·)).bind expand
  | ':' :: _ => none
  | cs => (readGroups 8 false cs).bind expand

def zeroRun (groups : List Nat) : Nat := (groups.takeWhile (· = 0)).length

def longestRun : Nat → List Nat → Nat × Nat
  | _, [] => (0, 0)
  | start, group :: rest =>
    let here := zeroRun (group :: rest)
    let later := longestRun (start + 1) rest
    if here ≥ later.2 then (start, here) else later

def printGroups (groups : List Nat) : List Char :=
  [':'].intercalate (groups.map Decimal.hexDigits)

def print (groups : List Nat) : List Char :=
  let (start, length) := longestRun 0 groups
  if length < 2 then printGroups groups
  else printGroups (groups.take start) ++ ':' :: ':' :: printGroups (groups.drop (start + length))

end HotReload.Url.Ipv6
