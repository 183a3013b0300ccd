import HotReload.Error
import HotReload.Url.Parser

set_option autoImplicit false

namespace HotReload

structure Page where
  -- Lower case, without the colon.
  scheme : String
  -- With brackets around an IPv6 address.
  hostname : String
  -- Absent if it is the default of the scheme.
  port : Option UInt16
  deriving DecidableEq

namespace Page

def normalizeScheme (scheme : String) : String :=
  let cs := scheme.toList
  let cs := if cs.getLast? = some ':' then cs.dropLast else cs
  String.ofList (cs.map Char.toLower)

def new (scheme hostname : String) (port : Option UInt16) : Page :=
  ⟨normalizeScheme scheme, hostname, port⟩

def localhost (port : UInt16) : Page := new "http" "localhost" (some port)

def parse (text : String) : Except Error Page :=
  match Url.parse text with
  | .error e => .error (.url e)
  | .ok url =>
    match url.host with
    | none => .error (.config (.noHost text))
    | some host => .ok (new url.scheme host.text url.port)

def authority (page : Page) : String :=
  match page.port with
  | some port => page.hostname ++ ":" ++ Decimal.ofNat port.toNat
  | none => page.hostname

def text (page : Page) : String := page.scheme ++ "://" ++ page.authority

end Page

end HotReload
