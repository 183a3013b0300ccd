import HotReload.Url.Host

set_option autoImplicit false

namespace HotReload

open Text

-- A port is kept only if it is not the default of the scheme.
structure Url where
  scheme : String
  host : Option Url.Host
  port : Option UInt16
  deriving DecidableEq

namespace Url

def isEdge (c : Char) : Bool := c ≤ ' '

def isIgnored (c : Char) : Bool := c = '\t' ∨ c = '\n' ∨ c = '\r'

def trim (cs : List Char) : List Char :=
  ((cs.dropWhile isEdge).reverse.dropWhile isEdge).reverse

def clean (cs : List Char) : List Char := (trim cs).filter fun c => !isIgnored c

def isSchemeChar (c : Char) : Bool := c.isAlphanum ∨ c = '+' ∨ c = '-' ∨ c = '.'

def splitScheme? (cs : List Char) : Option (List Char × List Char) :=
  match cs with
  | [] => none
  | first :: _ =>
    if first.isAlpha then
      match cs.dropWhile isSchemeChar with
      | ':' :: rest => some ((cs.takeWhile isSchemeChar).map Char.toLower, rest)
      | _ => none
    else none

inductive Kind where
  -- Hosts are domain names, and a backslash is a slash.
  | network
  | file
  | other
  deriving DecidableEq

def kindOf (scheme : String) : Kind :=
  if scheme = "file" then .file
  else if scheme = "http" ∨ scheme = "https" ∨ scheme = "ws" ∨ scheme = "wss" ∨ scheme = "ftp" then
    .network
  else .other

def defaultPort? (scheme : String) : Option UInt16 :=
  if scheme = "http" ∨ scheme = "ws" then some 80
  else if scheme = "https" ∨ scheme = "wss" then some 443
  else if scheme = "ftp" then some 21
  else none

def isSlash (c : Char) : Bool := c = '/' ∨ c = '\\'

def endsAuthority (kind : Kind) (c : Char) : Bool :=
  c = '/' ∨ c = '?' ∨ c = '#' ∨ (kind = .network ∧ c = '\\')

-- The host ends at the first colon outside brackets.
def splitHost : Bool → List Char → List Char × List Char
  | _, [] => ([], [])
  | bracketed, c :: rest =>
    if c = ':' ∧ !bracketed then ([], c :: rest)
    else
      let inside := if c = '[' then true else if c = ']' then false else bracketed
      let (host, after) := splitHost inside rest
      (c :: host, after)

def readPort (value : Nat) : List Char → Except ParseError Nat
  | [] => .ok value
  | c :: rest =>
    match Decimal.digit? c with
    | some d =>
      if value * 10 + d > 65535 then .error .invalidPort else readPort (value * 10 + d) rest
    | none => if c = '\\' then .ok value else .error .invalidPort

def startsWithDigit : List Char → Bool
  | c :: _ => (Decimal.digit? c).isSome
  | [] => false

def parsePort (scheme : String) (cs : List Char) : Except ParseError (Option UInt16) :=
  match cs with
  | ':' :: rest => do
    let value ← readPort 0 rest
    let port := UInt16.ofNat value
    .ok (if startsWithDigit rest ∧ some port ≠ defaultPort? scheme then some port else none)
  | _ => .ok none

def splitUser (authority : List Char) : List Char × List Char :=
  (splitLast? '@' authority).getD ([], authority)

-- A colon alone names neither a user nor a password.
def namesUser (user : List Char) : Bool := user ≠ [] ∧ user ≠ [':']

def parseHost (kind : Kind) (cs : List Char) : Except ParseError (Option Host) :=
  match kind with
  | .other => if cs.isEmpty then .ok none else (Host.parseOpaque cs).map some
  | _ => if cs.isEmpty then .error .emptyHost else (Host.parse cs).map some

def parseAuthority (scheme : String) (kind : Kind) (cs : List Char) : Except ParseError Url := do
  let authority := cs.takeWhile fun c => !endsAuthority kind c
  let (user, place) := splitUser authority
  if authority = ['@'] ∧ cs.length > 1 then .error .emptyHost
  let (hostText, portText) := splitHost false place
  let host ← parseHost kind hostText
  if host.isNone ∧ !portText.isEmpty then .error .emptyHost
  let port ← parsePort scheme portText
  if host.isNone ∧ namesUser user then .error .emptyHost
  .ok ⟨scheme, host, port⟩

def isDriveLetter : List Char → Bool
  | [c, d] => c.isAlpha ∧ (d = ':' ∨ d = '|')
  | _ => false

-- Dots may be written as `%2e`.
def dropDot? : List Char → Option (List Char)
  | '.' :: rest => some rest
  | '%' :: '2' :: 'e' :: rest => some rest
  | '%' :: '2' :: 'E' :: rest => some rest
  | _ => none

def isDot (segment : List Char) : Bool := dropDot? segment = some []

def isDoubleDot (segment : List Char) : Bool := (dropDot? segment).bind dropDot? = some []

def splitSegments (path : List Char) : List (List Char) :=
  splitOn '/' (path.map fun c => if c = '\\' then '/' else c)

-- Does a drive letter come first once dot segments are resolved? `above` says of each segment kept
-- so far, the last first, whether it is a drive letter: those are never climbed out of.
def beginsWithDrive : List Bool → List (List Char) → Bool
  | _, [] => false
  | above, segment :: rest =>
    if isDoubleDot segment then
      match above with
      | false :: lower => beginsWithDrive lower rest
      | kept => beginsWithDrive kept rest
    else if isDot segment then beginsWithDrive above rest
    else if above.isEmpty ∧ isDriveLetter segment then true
    else beginsWithDrive (isDriveLetter segment :: above) rest

def endsFileHost (c : Char) : Bool := isSlash c ∨ c = '?' ∨ c = '#'

def pathOf (cs : List Char) : List Char :=
  let path := cs.takeWhile fun c => c ≠ '?' ∧ c ≠ '#'
  match path with
  | c :: rest => if isSlash c then rest else path
  | [] => []

def parseFileHost (cs : List Char) : Except ParseError (Option Host) :=
  let hostText := cs.takeWhile fun c => !endsFileHost c
  if hostText.isEmpty ∨ isDriveLetter hostText then .ok none
  else do
    let host ← Host.parse hostText
    let path := pathOf (cs.dropWhile fun c => !endsFileHost c)
    if host = .name "localhost" ∨ beginsWithDrive [] (splitSegments path) then .ok none
    else .ok (some host)

def parseAfterScheme (scheme : String) (cs : List Char) : Except ParseError Url :=
  match kindOf scheme with
  | .network => parseAuthority scheme .network (cs.dropWhile isSlash)
  | .file =>
    match cs with
    | a :: b :: rest =>
      if isSlash a ∧ isSlash b then (parseFileHost rest).map fun host => ⟨scheme, host, none⟩
      else .ok ⟨scheme, none, none⟩
    | _ => .ok ⟨scheme, none, none⟩
  | .other =>
    match cs with
    | '/' :: '/' :: rest => parseAuthority scheme .other rest
    | _ => .ok ⟨scheme, none, none⟩

def parseChars (cs : List Char) : Except ParseError Url :=
  match splitScheme? (clean cs) with
  | some (scheme, rest) => parseAfterScheme (String.ofList scheme) rest
  | none => .error .notAbsolute

def parse (text : String) : Except ParseError Url := parseChars text.toList

def effectivePort? (url : Url) : Option UInt16 :=
  match url.port with
  | some port => some port
  | none => defaultPort? url.scheme

end Url

end HotReload
