/-
# Writing

Text is written into a message without blanks. A string escapes the quote, the
backslash and the controls and leaves everything else as it is; a value that was
kept unread goes in as it came.
-/

import Rendezvous.Text.Octets

namespace Rendezvous.Json

/-- The lower-case hexadecimal digit of a number below sixteen. -/
def hexDigit (value : UInt8) : UInt8 :=
  if value < 10 then 0x30 + value else 0x57 + value

/-- One octet inside a string. Octets of a character beyond ASCII are none of
those that are escaped. -/
def escapeOctet (octet : UInt8) : Octets :=
  if octet = 0x22 then [0x5C, 0x22]
  else if octet = 0x5C then [0x5C, 0x5C]
  else if octet = 0x08 then [0x5C, 0x62]
  else if octet = 0x0C then [0x5C, 0x66]
  else if octet = 0x0A then [0x5C, 0x6E]
  else if octet = 0x0D then [0x5C, 0x72]
  else if octet = 0x09 then [0x5C, 0x74]
  else if octet < 0x20 then
    [0x5C, 0x75, 0x30, 0x30, hexDigit (octet / 16), hexDigit (octet % 16)]
  else [octet]

/-- A string with its quotes. -/
def writeString (text : Octets) : Octets :=
  0x22 :: text.flatMap escapeOctet ++ [0x22]

/-- Elements with commas between them. -/
def separated : List Octets → Octets
  | [] => []
  | [last] => last
  | element :: next :: rest => element ++ 0x2C :: separated (next :: rest)

/-- A list of values. -/
def writeList (elements : List Octets) : Octets :=
  0x5B :: separated elements ++ [0x5D]

/-- One member of an object. -/
def writeMember (key : String) (value : Octets) : Octets :=
  writeString (.ofText key) ++ 0x3A :: value

/-- An object of members in order. -/
def writeObject (members : List (String × Octets)) : Octets :=
  0x7B :: separated (members.map fun (key, value) => writeMember key value) ++ [0x7D]

end Rendezvous.Json
