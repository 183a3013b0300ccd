import HotReload.Decimal.Digits
import HotReload.Text.Split

set_option autoImplicit false

namespace HotReload.Url.Ipv4

open Text

-- A number in base ten, or eight after a zero, or sixteen after `0x`; a bare prefix is zero.
def base (part : List Char) : Nat × List Char :=
  match part with
  | '0' :: 'x' :: rest => (16, rest)
  | '0' :: 'X' :: rest => (16, rest)
  | '0' :: d :: rest => (8, d :: rest)
  | _ => (10, part)

def readDigits (base : Nat) (digits : List Char) : Option Nat :=
  digits.foldlM (fun n c => (Decimal.hexDigit? c).bind fun d =>
    if d < base then some (n * base + d) else none) 0

def readNumber (part : List Char) : Option Nat :=
  if part.isEmpty then none else readDigits (base part).1 (base part).2

def dropLastEmpty (parts : List (List Char)) : List (List Char) :=
  if parts.getLast? = some [] then parts.dropLast else parts

def endsInNumber (domain : List Char) : Bool :=
  match (dropLastEmpty (splitOn '.' domain)).getLast? with
  | some part =>
    (!part.isEmpty && part.all fun c => (Decimal.digit? c).isSome) || (readNumber part).isSome
  | none => false

-- The last number fills all the bytes that the others leave.
def combine : Nat → List Nat → Option Nat
  | _, [] => none
  | bytes, [last] => if last < Nat.pow 256 bytes then some last else none
  | bytes, n :: rest =>
    if n < 256 then (combine (bytes - 1) rest).map (n * Nat.pow 256 (bytes - 1) + ·) else none

def parse (domain : List Char) : Option Nat := do
  let parts := dropLastEmpty (splitOn '.' domain)
  if parts.length > 4 then none
  let numbers ← parts.mapM readNumber
  combine 4 numbers

def print (address : Nat) : List Char :=
  ['.'].intercalate
    [Decimal.digits (address / Nat.pow 256 3), Decimal.digits (address / Nat.pow 256 2 % 256),
      Decimal.digits (address / 256 % 256), Decimal.digits (address % 256)]

end HotReload.Url.Ipv4
