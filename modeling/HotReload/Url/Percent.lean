import HotReload.Decimal.Digits
import HotReload.Text.Utf8

set_option autoImplicit false

namespace HotReload.Url

open Text

-- A percent sign that two hexadecimal digits do not follow stands for itself.
def percentDecode : List Char → List UInt8
  | '%' :: a :: b :: rest =>
    match Decimal.hexDigit? a, Decimal.hexDigit? b with
    | some high, some low => UInt8.ofNat (high * 16 + low) :: percentDecode rest
    | _, _ => utf8 ['%'] ++ percentDecode (a :: b :: rest)
  | c :: rest => String.utf8EncodeChar c ++ percentDecode rest
  | [] => []

def upperHexDigit (n : Nat) : Char := (Nat.digitChar n).toUpper

def percentEncodeByte (b : UInt8) : List Char :=
  ['%', upperHexDigit (b.toNat / 16), upperHexDigit (b.toNat % 16)]

def encodeControls (cs : List Char) : List Char :=
  cs.flatMap fun c =>
    if ' ' ≤ c ∧ c < '\x7f' then [c]
    else (String.utf8EncodeChar c).flatMap percentEncodeByte

end HotReload.Url
