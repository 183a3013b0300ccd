import HotReload.Options
import HotReload.Page

set_option autoImplicit false

namespace HotReload

open Text

inductive Scheme where
  | ws
  | wss
  deriving DecidableEq

def Scheme.text : Scheme → String
  | .ws => "ws"
  | .wss => "wss"

def Scheme.isSecure (s : Scheme) : Bool := s = .wss

namespace Scheme

def ofOrigin (scheme : String) : Scheme := if scheme = "http" then .ws else .wss

def resolve (base : Option String) (page : Page) : Scheme :=
  match base.map Url.parse with
  | some (.ok url) => ofOrigin url.scheme
  | _ => ofOrigin page.scheme

end Scheme

namespace Endpoint

def stripSlashes (assetPrefix : List Char) : List Char := assetPrefix.dropWhile (· = '/')

-- What follows `http://` or `https://`, written in just that way.
def remote? (assetPrefix : List Char) : Option (List Char) :=
  match stripPrefix? "http://".toList assetPrefix with
  | some rest => some rest
  | none => stripPrefix? "https://".toList assetPrefix

def origin (assetPrefix : List Char) (page : Page) : String :=
  let stripped := stripSlashes assetPrefix
  match remote? stripped with
  | some rest => String.ofList rest
  | none =>
    if stripped.isEmpty then page.authority
    else page.authority ++ "/" ++ String.ofList stripped

def url (options : Options) (page : Page) : String :=
  (Scheme.resolve (some options.assetPrefix) page).text ++ "://"
    ++ origin options.assetPrefix.toList page ++ options.path

end Endpoint

end HotReload
