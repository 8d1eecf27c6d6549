/-
# What can be wrong with a frame

A frame that cannot be read is refused for one cause at one position. The
position counts the octets up to and, for most causes, including the one at
fault; it is shown as a line and a column, both counted in octets.
-/

import Rendezvous.Decimal.Shortest
import Rendezvous.Text.Octets
import Rendezvous.Text.Quoted

namespace Rendezvous.Json

/-- A well-formed value that stands where only an object may stand. -/
inductive TopValue
  | null
  | boolean (value : Bool)
  | string (decoded : Octets)
  | sequence
  | integer (value : Int)
  | float (negative : Bool) (magnitude : Decimal.Binary64)
  deriving DecidableEq, Repr

/-- The value as an error names it. -/
def TopValue.describe : TopValue → String
  | .null => "null"
  | .boolean value => "boolean `" ++ (if value then "true" else "false") ++ "`"
  | .string decoded => "string " ++ Text.quoted decoded.toText
  | .sequence => "sequence"
  | .integer value => "integer `" ++ toString value ++ "`"
  | .float negative magnitude =>
    "floating point `" ++ (if negative then "-" else "") ++ Decimal.render magnitude ++ "`"

/-- Why a frame is refused. -/
inductive Cause
  | endInValue
  | endInList
  | endInObject
  | endInString
  | expectedValue
  | expectedIdentifier
  | expectedColon
  | expectedListEnd
  | expectedObjectEnd
  | keyNotString
  | trailingComma
  | trailingCharacters
  | invalidNumber
  | numberOutOfRange
  | invalidEscape
  | loneSurrogate
  | brokenSurrogatePair
  | controlCharacter
  | notAnObject (found : TopValue)
  deriving DecidableEq, Repr

/-- The wording of a cause. -/
def Cause.message : Cause → String
  | .endInValue => "EOF while parsing a value"
  | .endInList => "EOF while parsing a list"
  | .endInObject => "EOF while parsing an object"
  | .endInString => "EOF while parsing a string"
  | .expectedValue => "expected value"
  | .expectedIdentifier => "expected ident"
  | .expectedColon => "expected `:`"
  | .expectedListEnd => "expected `,` or `]`"
  | .expectedObjectEnd => "expected `,` or `\x7d`"
  | .keyNotString => "key must be a string"
  | .trailingComma => "trailing comma"
  | .trailingCharacters => "trailing characters"
  | .invalidNumber => "invalid number"
  | .numberOutOfRange => "number out of range"
  | .invalidEscape => "invalid escape"
  | .loneSurrogate => "lone leading surrogate in hex escape"
  | .brokenSurrogatePair => "unexpected end of hex escape"
  | .controlCharacter => "control character (\\u0000-\\u001F) found while parsing a string"
  | .notAnObject found => "invalid type: " ++ found.describe ++ ", expected a map"

/-- Whether the position of a fault includes the octet at which it was found. -/
inductive Edge
  | before
  | after
  deriving DecidableEq, Repr

/-- The position on one side of the octet at an index. -/
def Edge.position (index : Nat) : Edge → Nat
  | .before => index
  | .after => index + 1

/-- A cause together with the side of the current octet at which it lies. -/
structure Refusal where
  cause : Cause
  edge : Edge
  deriving DecidableEq, Repr

/-- A cause and the number of octets that stand before its position. -/
structure Fault where
  cause : Cause
  position : Nat
  deriving DecidableEq, Repr

/-- A line, counted from one, and a column, the number of octets since the line
began. -/
structure Place where
  line : Nat
  column : Nat
  deriving DecidableEq, Repr

/-- Where a position lies in a text. -/
def Place.of (text : Octets) (position : Nat) : Place :=
  let passed := text.take position
  ⟨1 + passed.count 10, (passed.reverse.takeWhile (· ≠ 10)).length⟩

/-- The wording of a cause at a place. -/
def Place.report (place : Place) (cause : Cause) : String :=
  cause.message ++ " at line " ++ toString place.line ++ " column " ++ toString place.column

/-- The octets that may stand around every token. -/
def isBlank (octet : UInt8) : Bool :=
  octet = 0x20 || octet = 0x09 || octet = 0x0A || octet = 0x0D

/-- The ten digits. -/
def isDigit (octet : UInt8) : Bool :=
  0x30 ≤ octet && octet ≤ 0x39

/-- The controls, which a string may hold only in escaped form. -/
def isControl (octet : UInt8) : Bool :=
  octet < 0x20

/-- The value of a hexadecimal digit of either case. -/
def hexValue? (octet : UInt8) : Option Nat :=
  if isDigit octet then some (octet.toNat - 0x30)
  else if 0x41 ≤ octet && octet ≤ 0x46 then some (octet.toNat - 0x37)
  else if 0x61 ≤ octet && octet ≤ 0x66 then some (octet.toNat - 0x57)
  else none

/-- The number written by hexadecimal digits, or `none` if one of them is not
such a digit. -/
def hexNumber? (octets : Octets) : Option Nat :=
  octets.foldl (fun sum octet => sum.bind fun high =>
    (hexValue? octet).map fun low => 16 * high + low) (some 0)

end Rendezvous.Json
