import HotReload.Unicode.Printable

set_option autoImplicit false

namespace HotReload.Text

def quoteChar (c : Char) : List Char :=
  if c = '"' then ['\\', '"']
  else if c = '\\' then ['\\', '\\']
  else if c = '\n' then ['\\', 'n']
  else if c = '\r' then ['\\', 'r']
  else if c = '\t' then ['\\', 't']
  else if c = '\x00' then ['\\', '0']
  else if Unicode.graphemeExtend.contains c ∨ Unicode.unprintable.contains c then
    '\\' :: 'u' :: '\x7b' :: Decimal.hexDigits c.toNat ++ ['\x7d']
  else [c]

def quoted (text : String) : String :=
  String.ofList ('"' :: text.toList.flatMap quoteChar ++ ['"'])

end HotReload.Text
