import HotReload.Json.Scan

set_option autoImplicit false

namespace HotReload.Json

def scanBool (value : Bool) (letters : List Char) (cs : Input) :
    Except Failure (Scanned Value) :=
  (scanIdent letters cs).map fun rest => (.bool value, rest)

def scanNumberValue (negative : Bool) (cs : Input) : Except Failure (Scanned Value) :=
  (scanNumber negative cs).map fun (n, rest) => (.number n, rest)

-- A value that is not a container; `none` if the text does not begin with one.
def scanScalar? : Input → Option (Except Failure (Scanned Value))
  | 'n' :: rest => some ((scanIdent ['u', 'l', 'l'] rest).map fun rest => (.null, rest))
  | 't' :: rest => some (scanBool true ['r', 'u', 'e'] rest)
  | 'f' :: rest => some (scanBool false ['a', 'l', 's', 'e'] rest)
  | '-' :: rest => some (scanNumberValue true rest)
  | '"' :: rest => some ((scanText rest).map fun (s, rest) => (.string s, rest))
  | cs => if startsWithDigit cs then some (scanNumberValue false cs) else none

def nextItem (first : Bool) (cs : Input) : Except Failure (Option Input) :=
  match skipBlank cs with
  | [] => failAt .unfinishedList []
  | c :: rest =>
    if c = ']' then .ok none
    else if first then .ok (some (c :: rest))
    else if c = ',' then
      match skipBlank rest with
      | [] => failAt .unfinishedValue []
      | d :: rest =>
        if d = ']' then failOn .trailingComma (d :: rest) else .ok (some (d :: rest))
    else failOn .expectedListComma (c :: rest)

def scanKey : Input → Except Failure (Option (Scanned String))
  | '"' :: rest => (scanText rest).map some
  | rest => failOn .keyNotString rest

def nextKey (first : Bool) (cs : Input) : Except Failure (Option (Scanned String)) :=
  match skipBlank cs with
  | [] => failAt .unfinishedObject []
  | c :: rest =>
    if c = '\x7d' then .ok none
    else if first then scanKey (c :: rest)
    else if c = ',' then
      match skipBlank rest with
      | [] => failAt .unfinishedValue []
      | d :: rest =>
        if d = '\x7d' then failOn .trailingComma (d :: rest) else scanKey (d :: rest)
    else failOn .expectedObjectComma (c :: rest)

def scanColon (cs : Input) : Except Failure Input :=
  match skipBlank cs with
  | [] => failAt .unfinishedObject []
  | c :: rest => if c = ':' then .ok rest else failOn .expectedColon (c :: rest)

def closeList (cs : Input) : Except Failure Input :=
  match skipBlank cs with
  | [] => failAt .unfinishedList []
  | ']' :: rest => .ok rest
  | ',' :: rest =>
    match skipBlank rest with
    | ']' :: rest => failOn .trailingComma (']' :: rest)
    | rest => failOn .trailingCharacters rest
  | rest => failOn .trailingCharacters rest

def closeObject (cs : Input) : Except Failure Input :=
  match skipBlank cs with
  | [] => failAt .unfinishedObject []
  | '\x7d' :: rest => .ok rest
  | ',' :: rest => failOn .trailingComma (',' :: rest)
  | rest => failOn .trailingCharacters rest

-- Where a container counts as left when its contents are refused in the middle.
def pastBracket (bracket : Char) (cs : Input) : Input :=
  match skipBlank cs with
  | c :: rest => if c = bracket then rest else c :: rest
  | [] => []

section walk

variable {σ : Type}

def walkList (step : σ → Input → Except Failure (Scanned σ)) :
    Nat → Bool → σ → Input → Except Failure (Scanned σ)
  | 0, _, _, cs => failOn .unfinishedList cs
  | bound + 1, first, state, cs =>
    match nextItem first cs with
    | .error e => .error e
    | .ok none => .ok (state, cs)
    | .ok (some cs) =>
      match step state cs with
      | .error e => .error e
      | .ok (state, cs) => walkList step bound false state cs

def walkObject (step : σ → String → Input → Except Failure (Scanned σ)) :
    Nat → Bool → σ → Input → Except Failure (Scanned σ)
  | 0, _, _, cs => failOn .unfinishedObject cs
  | bound + 1, first, state, cs =>
    match nextKey first cs with
    | .error e => .error e
    | .ok none => .ok (state, cs)
    | .ok (some (key, cs)) =>
      match step state key cs with
      | .error e => .error e
      | .ok (state, cs) => walkObject step bound false state cs

end walk

def maxDepth : Nat := 127

-- A value with at most `levels` containers inside one another.
def readValue (bound : Nat) (levels : Nat) (cs : Input) : Except Failure (Scanned Value) :=
  match skipBlank cs with
  | [] => failAt .unfinishedValue []
  | c :: rest =>
    if c = '[' then
      match levels with
      | 0 => failOn .tooDeep (c :: rest)
      | inner + 1 => do
        let (items, rest) ← walkList
          (fun items cs => (readValue bound inner cs).map fun (v, cs) => (v :: items, cs))
          bound true [] rest
        let rest ← closeList rest
        .ok (.array items.reverse, rest)
    else if c = '\x7b' then
      match levels with
      | 0 => failOn .tooDeep (c :: rest)
      | inner + 1 => do
        let (members, rest) ← walkObject
          (fun members key cs => do
            let cs ← scanColon cs
            let (value, cs) ← readValue bound inner cs
            .ok (insertMember key value members, cs))
          bound true [] rest
        let rest ← closeObject rest
        .ok (.object members, rest)
    else (scanScalar? (c :: rest)).getD (failOn .expectedValue (c :: rest))

def readDocument {α : Type} (read : Nat → Input → Except Failure (Scanned α))
    (text : String) : Except Error α :=
  let cs := text.toList
  let outcome := do
    let (value, rest) ← read (cs.length + 1) cs
    if (skipBlank rest).isEmpty then .ok value
    else failOn .trailingCharacters (skipBlank rest)
  match outcome with
  | .ok value => .ok value
  | .error e => .error (e.toError cs)

def Value.parse (text : String) : Except Error Value :=
  readDocument (fun bound cs => readValue bound maxDepth cs) text

end HotReload.Json
