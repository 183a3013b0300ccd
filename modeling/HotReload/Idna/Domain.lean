import HotReload.Idna.Mapping
import HotReload.Idna.Punycode
import HotReload.Unicode.Direction
import HotReload.Unicode.Joining
import HotReload.Unicode.Mark
import HotReload.Unicode.Normalization

set_option autoImplicit false

namespace HotReload.Idna

open Unicode

def isForbidden (c : Char) : Bool :=
  c ≤ ' ' ∨ c = '\x7f' ∨
    c ∈ ['%', '#', '/', ':', '<', '>', '?', '@', '[', '\\', ']', '^', '|']

def isAscii (c : Char) : Bool := c.toNat < 128

def mapName (cs : List Char) : Option (List Char) :=
  (cs.mapM mapChar).map fun parts => normalize parts.flatten

def splitLabels (cs : List Char) : List (List Char) :=
  cs.foldr (fun c labels =>
    if c = '.' then [] :: labels
    else match labels with
      | label :: rest => (c :: label) :: rest
      | [] => [[c]]) [[]]

def encodedMark : List Char := ['x', 'n', '-', '-']

def encoded? (label : List Char) : Option (List Char) :=
  match label with
  | 'x' :: 'n' :: '-' :: '-' :: rest => some rest
  | _ => none

def maxEncodedLength : Nat := 2000

def maxDecodedLength : Nat := 1000

-- Only what mapping leaves alone, and what is not plain ASCII, may hide in an encoded label.
def decodeLabel (digits : List Char) : Option (List Char) := do
  if digits.length > maxEncodedLength then none
  let label ← Punycode.decode digits
  let mapped ← mapName label
  if mapped = label ∧ !label.all isAscii ∧ (encoded? label).isNone then some label else none

def toUnicode (label : List Char) : Option (List Char) :=
  match encoded? label with
  | some digits => decodeLabel digits
  | none => some label

def followsVirama : List Char → Bool
  | c :: _ => isVirama c
  | [] => false

def isTransparent (c : Char) : Bool := joining c = .transparent

def joinsTowards (side : Joining) (cs : List Char) : Bool :=
  match cs.dropWhile isTransparent with
  | c :: _ => joining c = side ∨ joining c = .both
  | [] => false

-- Joiners stand only where a script uses them; `before` is reversed.
def joinersAllowed : List Char → List Char → Bool
  | _, [] => true
  | before, c :: rest =>
    (if c = '\u200c' then
      followsVirama before || (joinsTowards .left before && joinsTowards .right rest)
    else if c = '\u200d' then followsVirama before
    else true)
    && joinersAllowed (c :: before) rest

def isValidLabel (label : List Char) : Bool :=
  match label with
  | [] => true
  | c :: _ => !mark.contains c && joinersAllowed [] label

def isRightToLeft (c : Char) : Bool :=
  direction c ∈ [.rightToLeft, .arabicLetter, .arabicNumber]

def neutralDirections : List Direction :=
  [.europeanNumber, .europeanSeparator, .commonSeparator, .europeanTerminator, .otherNeutral,
    .boundaryNeutral, .nonspacingMark]

def endsWith (allowed : List Direction) (directions : List Direction) : Bool :=
  match directions.reverse.dropWhile (· = .nonspacingMark) with
  | d :: _ => d ∈ allowed
  | [] => false

-- What a label must look like once any label of the name is written from right to left.
def hasDirection (label : List Char) : Bool :=
  let directions := label.map direction
  match directions with
  | [] => true
  | .leftToRight :: _ =>
    directions.all (fun d => d = .leftToRight || neutralDirections.contains d)
      && endsWith [.leftToRight, .europeanNumber] directions
  | first :: _ =>
    (first = .rightToLeft || first = .arabicLetter)
      && directions.all (fun d =>
        d = .rightToLeft || d = .arabicLetter || d = .arabicNumber
          || neutralDirections.contains d)
      && endsWith [.rightToLeft, .arabicLetter, .europeanNumber, .arabicNumber] directions
      && !(directions.contains .europeanNumber && directions.contains .arabicNumber)

def encodeLabel (label : List Char) : Option (List Char) :=
  if label.all isAscii then some label
  else if label.length > maxDecodedLength then none
  else some (encodedMark ++ Punycode.encode label)

def isDomainChar (c : Char) : Bool := isAscii c ∧ !isForbidden c ∧ !c.isUpper

def toAscii (name : List Char) : Option (List Char) := do
  let mapped ← mapName name
  if mapped.any fun c => isForbidden c then none
  let labels ← (splitLabels mapped).mapM toUnicode
  if !labels.all isValidLabel then none
  if labels.any (fun label => label.any isRightToLeft) ∧ !labels.all hasDirection then none
  let written ← labels.mapM encodeLabel
  let joined := ['.'].intercalate written
  if joined.all isDomainChar then some joined else none

end HotReload.Idna
