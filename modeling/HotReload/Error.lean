import HotReload.Json.Error
import HotReload.Url.Host

set_option autoImplicit false

namespace HotReload

inductive AddressError where
  | empty
  | invalidCharacter
  | invalidAuthority
  | invalidFormat
  | tooLong
  | schemeTooLong
  | tlsNotSupported
  | noHostName
  | unsupportedScheme
  deriving DecidableEq

def AddressError.message : AddressError → String
  | .empty => "HTTP format error: empty string"
  | .invalidCharacter => "HTTP format error: invalid uri character"
  | .invalidAuthority => "HTTP format error: invalid authority"
  | .invalidFormat => "HTTP format error: invalid format"
  | .tooLong => "HTTP format error: uri too long"
  | .schemeTooLong => "HTTP format error: scheme too long"
  | .tlsNotSupported => "URL error: TLS support not compiled in"
  | .noHostName => "URL error: No host name in the URL"
  | .unsupportedScheme => "URL error: URL scheme not supported"

inductive SocketError where
  | closedNormally
  | alreadyClosed
  | attackAttempt
  | invalidUtf8 (detail : String)
  | io (detail : String)
  | messageTooLong (size limit : Nat)
  | resetWithoutClosing
  | handshakeUnfinished
  | address (cause : AddressError)

def SocketError.message : SocketError → String
  | .closedNormally => "Connection closed normally"
  | .alreadyClosed => "Trying to work with closed connection"
  | .attackAttempt => "Attack attempt detected"
  | .invalidUtf8 detail => "UTF-8 encoding error: " ++ detail
  | .io detail => "IO error: " ++ detail
  | .messageTooLong size limit =>
    "Space limit exceeded: Message too long: " ++ Decimal.ofNat size ++ " > "
      ++ Decimal.ofNat limit
  | .resetWithoutClosing =>
    "WebSocket protocol error: Connection reset without closing handshake"
  | .handshakeUnfinished => "WebSocket protocol error: Handshake not finished"
  | .address cause => cause.message

inductive ConfigError where
  | noPath
  | noPage
  | notRunning
  | noHost (url : String)
  | other (message : String)

def ConfigError.message : ConfigError → String
  | .noPath =>
    "Endpoint path is required. Use .path() to set it.\nExample: "
      ++ "Client::builder().path(\"/_next/webpack-hmr\")"
  | .noPage =>
    "Hosting page location is required. Use .page() to set it.\nExample: "
      ++ "Client::builder().page(PageLocation::localhost(3000))"
  | .notRunning => "Client must be spawned from within a tokio runtime"
  | .noHost url => "Page URL has no host: " ++ url
  | .other message => message

inductive Error where
  | config (cause : ConfigError)
  | url (cause : Url.ParseError)
  | connection (message : String)
  | connectionClosed
  | json (cause : Json.Error)
  | socket (cause : SocketError)

def Error.source? : Error → Option String
  | .url cause => some cause.message
  | .json cause => some cause.message
  | .socket cause => some cause.message
  | _ => none

def Error.message : Error → String
  | .config cause => "Configuration error: " ++ cause.message
  | .url cause => "Invalid URL: " ++ cause.message
  | .connection message => "Connection failed: " ++ message
  | .connectionClosed => "Connection closed"
  | .json cause => "JSON error: " ++ cause.message
  | .socket cause => "WebSocket error: " ++ cause.message

def Error.isConnection : Error → Bool
  | .connection _ => true
  | .connectionClosed => true
  | .socket _ => true
  | _ => false

def Error.isParse : Error → Bool
  | .json _ => true
  | _ => false

def Error.isConfig : Error → Bool
  | .config _ => true
  | .url _ => true
  | _ => false

end HotReload
