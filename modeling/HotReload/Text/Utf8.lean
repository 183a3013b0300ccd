set_option autoImplicit false

namespace HotReload.Text

def utf8 (cs : List Char) : List UInt8 := cs.flatMap String.utf8EncodeChar

def continuation? (b : UInt8) : Option Nat :=
  if 0x80 ≤ b ∧ b < 0xC0 then some (b.toNat - 0x80) else none

-- A code point that needs at least `least` to be written in this length.
def codePoint? (least n : Nat) : Option Char :=
  if h : n.isValidChar then if least ≤ n then some (Char.ofNatAux n h) else none else none

def decodeUtf8 : List UInt8 → Option (List Char)
  | [] => some []
  | a :: rest =>
    if a < 0x80 then (decodeUtf8 rest).map (Char.ofNat a.toNat :: ·)
    else match rest with
      | [] => none
      | b :: rest =>
        (continuation? b).bind fun second =>
        if 0xC0 ≤ a ∧ a < 0xE0 then
          (codePoint? 0x80 ((a.toNat - 0xC0) * 0x40 + second)).bind fun c =>
          (decodeUtf8 rest).map (c :: ·)
        else match rest with
          | [] => none
          | b :: rest =>
            (continuation? b).bind fun third =>
            if 0xE0 ≤ a ∧ a < 0xF0 then
              (codePoint? 0x800 ((a.toNat - 0xE0) * 0x1000 + second * 0x40 + third)).bind
                fun c => (decodeUtf8 rest).map (c :: ·)
            else match rest with
              | [] => none
              | b :: rest =>
                (continuation? b).bind fun fourth =>
                if 0xF0 ≤ a ∧ a < 0xF8 then
                  (codePoint? 0x10000 ((a.toNat - 0xF0) * 0x40000 + second * 0x1000
                    + third * 0x40 + fourth)).bind
                    fun c => (decodeUtf8 rest).map (c :: ·)
                else none

end HotReload.Text
