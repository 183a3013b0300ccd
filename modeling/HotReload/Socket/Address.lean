import HotReload.Error
import HotReload.Text.Split

set_option autoImplicit false

namespace HotReload

open Text

structure Address where
  -- With brackets around an IPv6 address.
  host : String
  port : UInt16

namespace Address

-- In bytes.
def maxLength : Nat := 65534

def maxSchemeLength : Nat := 64

def isSchemeChar (c : Char) : Bool := c.isAlphanum || "+-.".toList.contains c

def isUriChar (c : Char) : Bool :=
  c.isAlphanum || "!#$&'()*+,-./:;=?@[]_~".toList.contains c

def isPathChar (c : Char) : Bool :=
  c = '!' || ('$' ≤ c && c ≤ ';') || c = '=' || ('@' ≤ c && c ≤ '_') || ('a' ≤ c && c ≤ 'z')
    || "|~\"\x7b\x7d".toList.contains c || '\x7f' ≤ c

def isQueryChar (c : Char) : Bool :=
  c = '!' || ('$' ≤ c && c ≤ ';') || c = '=' || '?' ≤ c

def checkQuery : List Char → Except AddressError Unit
  | [] => .ok ()
  | c :: rest =>
    if c = '#' then .ok ()
    else if isQueryChar c then checkQuery rest
    else .error .invalidCharacter

def checkPath : List Char → Except AddressError Unit
  | [] => .ok ()
  | c :: rest =>
    if c = '?' then checkQuery rest
    else if c = '#' then .ok ()
    else if isPathChar c then checkPath rest
    else .error .invalidCharacter

structure Scan where
  colons : Nat := 0
  hasOpened : Bool := false
  hasClosed : Bool := false
  hasPercent : Bool := false
  endsInAt : Bool := false

-- User information and bracketed hosts may have colons and percent signs of their own.
def Scan.next (scan : Scan) (c : Char) : Except AddressError Scan :=
  let scan := { scan with endsInAt := c = '@' }
  if c = ':' then
    if scan.colons < 8 then .ok { scan with colons := scan.colons + 1 }
    else .error .invalidAuthority
  else if c = '[' then
    if scan.hasPercent || scan.hasOpened then .error .invalidAuthority
    else .ok { scan with hasOpened := true }
  else if c = ']' then
    if scan.hasOpened && !scan.hasClosed then
      .ok { scan with hasClosed := true, colons := 0, hasPercent := false }
    else .error .invalidAuthority
  else if c = '@' then .ok { scan with colons := 0, hasPercent := false }
  else if c = '%' then .ok { scan with hasPercent := true }
  else if isUriChar c then .ok scan
  else .error .invalidCharacter

def Scan.finish (scan : Scan) : Except AddressError Unit :=
  if scan.hasOpened != scan.hasClosed || 1 < scan.colons || scan.endsInAt || scan.hasPercent then
    .error .invalidAuthority
  else .ok ()

def scanAuthority (scan : Scan) : List Char → Except AddressError (List Char × List Char)
  | [] => do
    scan.finish
    .ok ([], [])
  | c :: rest =>
    if "/?#".toList.contains c then do
      scan.finish
      .ok ([], c :: rest)
    else do
      let scan ← scan.next c
      let (authority, rest) ← scanAuthority scan rest
      .ok (c :: authority, rest)

def readAuthority (cs : List Char) : Except AddressError (List Char × List Char) :=
  if cs.isEmpty then .error .empty else scanAuthority {} cs

def splitScheme? (cs : List Char) : Option (List Char × List Char) :=
  match cs.span isSchemeChar with
  | (scheme, ':' :: '/' :: '/' :: rest) =>
    if scheme.isEmpty && rest.isEmpty then none else some (scheme, rest)
  | _ => none

-- Only the common schemes are the same in any case.
def foldScheme (scheme : List Char) : List Char :=
  let lower := scheme.map Char.toLower
  if lower = "http".toList ∨ lower = "https".toList then lower else scheme

structure Parts where
  scheme : List Char
  -- Empty if there is none.
  authority : List Char

def readAbsolute (scheme rest : List Char) : Except AddressError Parts :=
  if maxSchemeLength < scheme.length then .error .schemeTooLong
  else do
    let (authority, path) ← readAuthority rest
    if authority.isEmpty then .error .invalidFormat
    else do
      checkPath path
      .ok ⟨foldScheme scheme, authority⟩

def readBare (cs : List Char) : Except AddressError Parts := do
  let (authority, rest) ← readAuthority cs
  if rest.isEmpty then .ok ⟨[], authority⟩
  else .error (if cs.length = 1 then .invalidCharacter else .invalidFormat)

def readParts (cs : List Char) : Except AddressError Parts :=
  match cs with
  | [] => .error .empty
  | ['*'] => .ok ⟨[], []⟩
  | '/' :: _ => do
    checkPath cs
    .ok ⟨[], []⟩
  | _ =>
    match splitScheme? cs with
    | some (scheme, rest) => readAbsolute scheme rest
    | none => readBare cs

def explicitPort? (authority : List Char) : Option UInt16 :=
  match splitLast? ':' authority with
  | none => none
  | some (_, digits) =>
    let digits := if digits.head? = some '+' then digits.tail else digits
    if digits.isEmpty || !digits.all Char.isDigit then none
    else
      let n := digits.foldl (fun n c => 10 * n + (c.toNat - '0'.toNat)) 0
      if n < UInt16.size then some n.toUInt16 else none

def defaultPort? (scheme : List Char) : Option UInt16 :=
  if scheme = "ws".toList then some 80
  else if scheme = "wss".toList then some 443
  else none

def hostOf (authority : List Char) : List Char :=
  let hostPort := match splitLast? '@' authority with
    | some (_, hostPort) => hostPort
    | none => authority
  match hostPort with
  | '[' :: _ => hostPort.takeWhile (· ≠ ']') ++ [']']
  | _ => hostPort.takeWhile (· ≠ ':')

def parse (text : String) : Except AddressError Address :=
  if maxLength < text.utf8ByteSize then .error .tooLong
  else do
    let parts ← readParts text.toList
    if parts.authority.isEmpty then .error .noHostName
    else
      match explicitPort? parts.authority <|> defaultPort? parts.scheme with
      | some port => .ok ⟨String.ofList (hostOf parts.authority), port⟩
      | none => .error .unsupportedScheme

end Address

end HotReload
