import HotReload.Json.Reader

set_option autoImplicit false

namespace HotReload.Json

inductive Bracket where
  | square
  | brace

def Bracket.closing : Bracket → Char
  | .square => ']'
  | .brace => '\x7d'

def Bracket.unfinished : Bracket → Cause
  | .square => .unfinishedList
  | .brace => .unfinishedObject

def Bracket.expectedComma : Bracket → Cause
  | .square => .expectedListComma
  | .brace => .expectedObjectComma

def skipKey (cs : Input) : Except Failure Input :=
  match skipBlank cs with
  | [] => failAt .unfinishedObject []
  | '"' :: rest => do
    let rest ← skipString .plain rest
    scanColon rest
  | rest => failOn .keyNotString rest

def skipScalar : Input → Except Failure Input
  | 'n' :: rest => scanIdent ['u', 'l', 'l'] rest
  | 't' :: rest => scanIdent ['r', 'u', 'e'] rest
  | 'f' :: rest => scanIdent ['a', 'l', 's', 'e'] rest
  | '-' :: rest => skipNumber rest
  | '"' :: rest => skipString .plain rest
  | cs => if startsWithDigit cs then skipNumber cs else failOn .expectedValue cs

def beginEntry : Bracket → Input → Except Failure Input
  | .square, cs => .ok cs
  | .brace, cs => skipKey cs

inductive SkipPoint where
  | value
  | firstEntry
  | afterValue
  deriving DecidableEq

def skipFrom : Nat → SkipPoint → List Bracket → Input → Except Failure Input
  | 0, _, _, cs => failOn .unfinishedValue cs
  | bound + 1, .value, brackets, cs =>
    match skipBlank cs with
    | [] => failAt .unfinishedValue []
    | '[' :: rest => skipFrom bound .firstEntry (.square :: brackets) rest
    | '\x7b' :: rest => skipFrom bound .firstEntry (.brace :: brackets) rest
    | cs => do
      let rest ← skipScalar cs
      skipFrom bound .afterValue brackets rest
  | _ + 1, _, [], cs => .ok cs
  | bound + 1, point, bracket :: outer, cs =>
    match skipBlank cs with
    | [] => failAt bracket.unfinished []
    | c :: rest =>
      if c = bracket.closing then skipFrom bound .afterValue outer rest
      else if point = .firstEntry then do
        let rest ← beginEntry bracket (c :: rest)
        skipFrom bound .value (bracket :: outer) rest
      else if c = ',' then do
        let rest ← beginEntry bracket rest
        skipFrom bound .value (bracket :: outer) rest
      else failOn bracket.expectedComma (c :: rest)

-- Every character accounts for at most two steps.
def skipValue (bound : Nat) (cs : Input) : Except Failure Input :=
  skipFrom (2 * bound + 2) .value [] cs

end HotReload.Json
