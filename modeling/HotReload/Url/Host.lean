import HotReload.Idna.Domain
import HotReload.Url.Ipv4
import HotReload.Url.Ipv6
import HotReload.Url.Percent

set_option autoImplicit false

namespace HotReload

namespace Url

inductive ParseError where
  | emptyHost
  | invalidDomainName
  | invalidPort
  | invalidIpv4
  | invalidIpv6
  | invalidHostCharacter
  | notAbsolute
  deriving DecidableEq

def ParseError.message : ParseError → String
  | .emptyHost => "empty host"
  | .invalidDomainName => "invalid international domain name"
  | .invalidPort => "invalid port number"
  | .invalidIpv4 => "invalid IPv4 address"
  | .invalidIpv6 => "invalid IPv6 address"
  | .invalidHostCharacter => "invalid domain character"
  | .notAbsolute => "relative URL without a base"

inductive Host where
  | name (text : String)
  | ipv4 (address : Nat)
  | ipv6 (groups : List Nat)
  deriving DecidableEq

def Host.text : Host → String
  | .name text => text
  | .ipv4 address => String.ofList (Ipv4.print address)
  | .ipv6 groups => String.ofList ('[' :: Ipv6.print groups ++ [']'])

def Host.parseBracketed (cs : List Char) : Except ParseError Host :=
  if cs.getLast? = some ']' then
    match Ipv6.parse cs.dropLast with
    | some groups => .ok (.ipv6 groups)
    | none => .error .invalidIpv6
  else .error .invalidIpv6

def Host.ofDomain (domain : List Char) : Except ParseError Host :=
  if domain.isEmpty then .error .emptyHost
  else if Ipv4.endsInNumber domain then
    match Ipv4.parse domain with
    | some address => .ok (.ipv4 address)
    | none => .error .invalidIpv4
  else .ok (.name (String.ofList domain))

def Host.parse (cs : List Char) : Except ParseError Host :=
  match cs with
  | '[' :: rest => parseBracketed rest
  | cs =>
    match (Text.decodeUtf8 (percentDecode cs)).bind Idna.toAscii with
    | some domain => ofDomain domain
    | none => .error .invalidDomainName

def isForbiddenInHost (c : Char) : Bool :=
  c ∈ ['\x00', '\t', '\n', '\r', ' ', '#', '/', ':', '<', '>', '?', '@', '[', '\\', ']', '^',
    '|']

def Host.parseOpaque (cs : List Char) : Except ParseError Host :=
  match cs with
  | '[' :: rest => parseBracketed rest
  | cs =>
    if cs.any isForbiddenInHost then .error .invalidHostCharacter
    else .ok (.name (String.ofList (encodeControls cs)))

end Url

end HotReload
