/-
# Quoted text

Text that came from outside is shown between double quotes. The quote, the
backslash and four usual controls have short escapes; every other character that
would not show as itself is written as its code point in lower-case hexadecimal
digits between braces.
-/

import Rendezvous.Text.Printable

namespace Rendezvous.Text

/-- One character inside double quotes. -/
def quoteChar (char : Char) : List Char :=
  if char = '\x00' then ['\\', '0']
  else if char = '\t' then ['\\', 't']
  else if char = '\r' then ['\\', 'r']
  else if char = '\n' then ['\\', 'n']
  else if char = '"' then ['\\', '"']
  else if char = '\\' then ['\\', '\\']
  else if isGraphemeExtend char || !isPrintable char then
    ['\\', 'u', '\x7b'] ++ Nat.toDigits 16 char.toNat ++ ['\x7d']
  else [char]

/-- A text between double quotes, with everything escaped that would not show as
itself. -/
def quoted (text : String) : String :=
  String.ofList ('"' :: text.toList.flatMap quoteChar ++ ['"'])

/-- A text that may be absent, named as such. -/
def quotedOption : Option String → String
  | none => "None"
  | some text => "Some(" ++ quoted text ++ ")"

end Rendezvous.Text
