import HotReload.Json.Error

set_option autoImplicit false

namespace HotReload.Json

abbrev Input := List Char

structure Failure where
  cause : Cause
  unread : Nat

abbrev Scanned (α : Type) := α × Input

abbrev NumberScan := Except Failure (Scanned Number)

def byteCount (cs : Input) : Nat := cs.foldl (fun n c => n + c.utf8Size) 0

def failAt {α : Type} (cause : Cause) (rest : Input) : Except Failure α :=
  .error ⟨cause, byteCount rest⟩

def failOn {α : Type} (cause : Cause) (rest : Input) : Except Failure α :=
  .error ⟨cause, byteCount rest - 1⟩

def isBlank (c : Char) : Bool := c = ' ' ∨ c = '\n' ∨ c = '\t' ∨ c = '\r'

def skipBlank (cs : Input) : Input := cs.dropWhile isBlank

def locate : Input → Nat → Place → Place
  | [], _, place => place
  | _ :: _, 0, place => place
  | c :: rest, bytes + 1, place =>
    if c = '\n' then locate rest bytes ⟨place.line + 1, 0⟩
    else locate rest (bytes + 1 - c.utf8Size)
      ⟨place.line, place.column + min c.utf8Size (bytes + 1)⟩

def Failure.toError (f : Failure) (text : Input) : Error :=
  ⟨f.cause, some (locate text (byteCount text - f.unread) ⟨1, 0⟩)⟩

def scanIdent : List Char → Input → Except Failure Input
  | [], cs => .ok cs
  | _ :: _, [] => failAt .unfinishedValue []
  | expected :: more, c :: rest =>
    if c = expected then scanIdent more rest else failOn .expectedIdent (c :: rest)

def escaped? : Char → Option Char
  | '"' => some '"'
  | '\\' => some '\\'
  | '/' => some '/'
  | 'b' => some '\x08'
  | 'f' => some '\x0c'
  | 'n' => some '\n'
  | 'r' => some '\r'
  | 't' => some '\t'
  | _ => none

def isHighSurrogate (n : Nat) : Bool := 0xD800 ≤ n ∧ n ≤ 0xDBFF

def isLowSurrogate (n : Nat) : Bool := 0xDC00 ≤ n ∧ n ≤ 0xDFFF

def joinSurrogates (high low : Nat) : Char :=
  Char.ofNat ((high - 0xD800) * 0x400 + (low - 0xDC00) + 0x10000)

inductive StringPart where
  | plain
  | escape
  -- Within the four digits of an escape, of which `seen` are read.
  | digits (high : Option Nat) (seen value : Nat)
  -- After a high surrogate, which wants an escape for its low half.
  | pair (high : Nat)
  | pairEscape (high : Nat)

-- The four digits are taken as four bytes, whatever they are, before they are judged.
def failInDigits {α : Type} (seen : Nat) (rest : Input) : Except Failure α :=
  let unread := byteCount rest
  if unread < 4 - seen then .error ⟨.unfinishedString, 0⟩
  else .error ⟨.invalidEscape, unread - (4 - seen)⟩

-- The text after an opening quote, in reverse onto `read`.
def scanString : StringPart → List Char → Input → Except Failure (Scanned (List Char))
  | _, _, [] => failAt .unfinishedString []
  | .plain, read, c :: rest =>
    if c = '"' then .ok (read.reverse, rest)
    else if c = '\\' then scanString .escape read rest
    else if c < ' ' then failAt .controlCharacter rest
    else scanString .plain (c :: read) rest
  | .escape, read, c :: rest =>
    if c = 'u' then scanString (.digits none 0 0) read rest
    else match escaped? c with
      | some d => scanString .plain (d :: read) rest
      | none => failOn .invalidEscape (c :: rest)
  | .digits high seen value, read, c :: rest =>
    match Decimal.hexDigit? c with
    | none => failInDigits seen (c :: rest)
    | some d =>
      let unit := value * 16 + d
      if seen < 3 then scanString (.digits high (seen + 1) unit) read rest
      else match high with
        | none =>
          if isLowSurrogate unit then failAt .loneSurrogate rest
          else if isHighSurrogate unit then scanString (.pair unit) read rest
          else scanString .plain (Char.ofNat unit :: read) rest
        | some high =>
          if isLowSurrogate unit then
            scanString .plain (joinSurrogates high unit :: read) rest
          else failAt .loneSurrogate rest
  | .pair high, read, c :: rest =>
    if c = '\\' then scanString (.pairEscape high) read rest
    else failOn .unpairedSurrogate (c :: rest)
  | .pairEscape high, read, c :: rest =>
    if c = 'u' then scanString (.digits (some high) 0 0) read rest
    else failOn .unpairedSurrogate (c :: rest)

def scanText (cs : Input) : Except Failure (Scanned String) := do
  let (chars, rest) ← scanString .plain [] cs
  .ok (String.ofList chars, rest)

def skipString : StringPart → Input → Except Failure Input
  | _, [] => failAt .unfinishedString []
  | .escape, c :: rest =>
    if c = 'u' then skipString (.digits none 0 0) rest
    else if (escaped? c).isSome then skipString .plain rest
    else failOn .invalidEscape (c :: rest)
  | .digits _ seen _, c :: rest =>
    if (Decimal.hexDigit? c).isNone then failInDigits seen (c :: rest)
    else if seen < 3 then skipString (.digits none (seen + 1) 0) rest
    else skipString .plain rest
  | _, c :: rest =>
    if c = '"' then .ok rest
    else if c = '\\' then skipString .escape rest
    else if c < ' ' then failAt .controlCharacter (c :: rest)
    else skipString .plain rest

def startsWithDigit : Input → Bool
  | c :: _ => (Decimal.digit? c).isSome
  | [] => false

def dropDigits (cs : Input) : Input := cs.dropWhile fun c => (Decimal.digit? c).isSome

-- Appends digits to `value` while it stays below `limit`; counts them in `taken`.
def collectDigits (limit : Nat) : Nat → Nat → Input → Nat × Nat × Input
  | value, taken, c :: rest =>
    match Decimal.digit? c with
    | some d =>
      if value * 10 + d < limit then collectDigits limit (value * 10 + d) (taken + 1) rest
      else (value, taken, c :: rest)
    | none => (value, taken, c :: rest)
  | value, taken, [] => (value, taken, [])

def maxSignificand : Nat := UInt64.size

def maxExponent : Nat := Nat.pow 2 31

def powerOfTen (n : Nat) : Float := Float.ofScientific 1 false n

-- Small exponents are applied in steps that a double can hold.
def scaleDown (x : Float) (exponent : Nat) : Float :=
  if h : exponent ≤ 308 then x / powerOfTen exponent
  else if x == 0 then x
  else scaleDown (x / powerOfTen 308) (exponent - 308)
termination_by exponent

-- One rounding to a double and one more for the power of ten.
def scaled (significand : Nat) : Int → Option Float
  | .ofNat n =>
    let x := (UInt64.ofNat significand).toFloat
    if n ≤ 308 then
      let y := x * powerOfTen n
      if y.isInf then none else some y
    else if significand = 0 then some x else none
  | .negSucc n => some (scaleDown (UInt64.ofNat significand).toFloat (n + 1))

def floatNumber (negative : Bool) (x : Float) : Number := .float (if negative then -x else x)

def scanScaled (negative : Bool) (significand : Nat) (exponent : Int) (rest : Input) :
    NumberScan :=
  match scaled significand exponent with
  | some x => .ok (floatNumber negative x, rest)
  | none => failAt .numberOutOfRange rest

def scanExponent (negative : Bool) (significand : Nat) (start : Int) (cs : Input) :
    NumberScan :=
  let (down, cs) := match cs with
    | '+' :: rest => (false, rest)
    | '-' :: rest => (true, rest)
    | cs => (false, cs)
  if cs.isEmpty then failAt .unfinishedValue []
  else if !startsWithDigit cs then failOn .invalidNumber cs
  else
    let (value, _, rest) := collectDigits maxExponent 0 0 cs
    if startsWithDigit rest then
      if significand ≠ 0 ∧ !down then failOn .numberOutOfRange rest
      else .ok (floatNumber negative 0, dropDigits rest)
    else scanScaled negative significand (if down then start - value else start + value) rest

def scanFractionEnd (negative : Bool) (significand : Nat) (exponent : Int) :
    Input → NumberScan
  | 'e' :: rest => scanExponent negative significand exponent rest
  | 'E' :: rest => scanExponent negative significand exponent rest
  | rest => scanScaled negative significand exponent rest

def scanFraction (negative : Bool) (significand : Nat) (start : Int) (cs : Input) :
    NumberScan :=
  let (significand, taken, rest) := collectDigits maxSignificand significand 0 cs
  if taken = 0 ∧ !startsWithDigit rest then
    failOn (if rest.isEmpty then .unfinishedValue else .invalidNumber) rest
  else scanFractionEnd negative significand (start - taken) (dropDigits rest)

-- A whole number is kept exactly if 64 bits hold it; there is no negative zero among them.
def wholeNumber (negative : Bool) (significand : Nat) : Number :=
  let value : Int := if negative then -significand else significand
  if h : minInteger ≤ value ∧ value ≤ maxInteger ∧ !(negative ∧ significand = 0) then
    .integer value h.1 h.2.1
  else floatNumber negative (UInt64.ofNat significand).toFloat

def scanSignificandEnd (negative : Bool) (significand : Nat) : Input → NumberScan
  | '.' :: rest => scanFraction negative significand 0 rest
  | 'e' :: rest => scanExponent negative significand 0 rest
  | 'E' :: rest => scanExponent negative significand 0 rest
  | rest => .ok (wholeNumber negative significand, rest)

-- Further digits of a significand that is full only raise the exponent.
def scanLongNumber (negative : Bool) (significand : Nat) (cs : Input) : NumberScan :=
  let rest := dropDigits cs
  let exponent : Int := cs.length - rest.length
  match rest with
  | '.' :: rest => scanFraction negative significand exponent rest
  | rest => scanFractionEnd negative significand exponent rest

def scanNumber (negative : Bool) (cs : Input) : NumberScan :=
  match cs with
  | [] => failAt .unfinishedValue []
  | '0' :: rest =>
    if startsWithDigit rest then failOn .invalidNumber rest
    else scanSignificandEnd negative 0 rest
  | cs =>
    if !startsWithDigit cs then failOn .invalidNumber cs
    else
      let (significand, _, rest) := collectDigits maxSignificand 0 0 cs
      if startsWithDigit rest then scanLongNumber negative significand rest
      else scanSignificandEnd negative significand rest

def skipExponent (cs : Input) : Except Failure Input :=
  let cs := match cs with
    | '+' :: rest => rest
    | '-' :: rest => rest
    | cs => cs
  if startsWithDigit cs then .ok (dropDigits cs) else failOn .invalidNumber cs

def skipFractionEnd : Input → Except Failure Input
  | 'e' :: rest => skipExponent rest
  | 'E' :: rest => skipExponent rest
  | rest => .ok rest

def skipSignificandEnd : Input → Except Failure Input
  | '.' :: rest =>
    if startsWithDigit rest then skipFractionEnd (dropDigits rest)
    else failOn .invalidNumber rest
  | rest => skipFractionEnd rest

def skipNumber (cs : Input) : Except Failure Input :=
  match cs with
  | '0' :: rest =>
    if startsWithDigit rest then failOn .invalidNumber rest else skipSignificandEnd rest
  | cs =>
    if startsWithDigit cs then skipSignificandEnd (dropDigits cs) else failOn .invalidNumber cs

end HotReload.Json
