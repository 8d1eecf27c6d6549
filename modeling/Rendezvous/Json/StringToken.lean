/-
# Strings

A string is read in one of two ways. The keys of a frame, and the few values that
decide its meaning, are decoded: escapes are resolved and a surrogate escape has
to be paired with its other half. Everything else is only scanned, so that the
text of a value is kept as it was written; there an escape need only be
well-formed. Both readers start after the opening quote.
-/

import Rendezvous.Json.Fault

namespace Rendezvous.Json

/-- Where the reader stands inside a string that is only scanned. -/
inductive ScanPhase
  | plain
  | escape
  /-- Inside an escape of four hexadecimal digits, the latest first. -/
  | hex (digits : Octets)
  deriving DecidableEq, Repr

/-- What one more octet does to a scanned string. -/
inductive ScanStep
  | more (phase : ScanPhase)
  | closed
  | refused (refusal : Refusal)
  deriving DecidableEq, Repr

/-- The octet that a one-letter escape stands for. -/
def escapedOctet? (letter : UInt8) : Option UInt8 :=
  if letter = 0x22 then some 0x22
  else if letter = 0x5C then some 0x5C
  else if letter = 0x2F then some 0x2F
  else if letter = 0x62 then some 0x08
  else if letter = 0x66 then some 0x0C
  else if letter = 0x6E then some 0x0A
  else if letter = 0x72 then some 0x0D
  else if letter = 0x74 then some 0x09
  else none

/-- The step of a scanned string. A control is refused before it is taken. -/
def ScanPhase.step (phase : ScanPhase) (octet : UInt8) : ScanStep :=
  match phase with
  | .plain =>
    if octet = 0x22 then .closed
    else if octet = 0x5C then .more .escape
    else if isControl octet then .refused ⟨.controlCharacter, .before⟩
    else .more .plain
  | .escape =>
    if octet = 0x75 then .more (.hex [])
    else if (escapedOctet? octet).isSome then .more .plain
    else .refused ⟨.invalidEscape, .after⟩
  | .hex digits =>
    if digits.length < 3 then .more (.hex (octet :: digits))
    else if (hexNumber? (octet :: digits).reverse).isSome then .more .plain
    else .refused ⟨.invalidEscape, .after⟩

/-- Where the reader stands inside a string that is decoded. -/
inductive DecodePhase
  | plain
  | escape
  | hex (digits : Octets)
  /-- After the escape of a leading surrogate. -/
  | leading (high : Nat)
  /-- After the backslash that follows a leading surrogate. -/
  | leadingEscape (high : Nat)
  /-- Inside the digits of the trailing surrogate. -/
  | trailing (high : Nat) (digits : Octets)
  deriving DecidableEq, Repr

/-- A reader of a decoded string: its phase and the octets decoded so far, the
latest first. -/
structure Decoder where
  phase : DecodePhase
  decoded : Octets
  deriving DecidableEq, Repr

/-- What one more octet does to a decoded string. -/
inductive DecodeStep
  | more (decoder : Decoder)
  | closed (decoded : Octets)
  | refused (refusal : Refusal)
  deriving DecidableEq, Repr

/-- Whether a code unit is the first half of a surrogate pair. -/
def isLeading (unit : Nat) : Bool := 0xD800 ≤ unit && unit ≤ 0xDBFF

/-- Whether a code unit is the second half of a surrogate pair. -/
def isTrailing (unit : Nat) : Bool := 0xDC00 ≤ unit && unit ≤ 0xDFFF

/-- The code point of a surrogate pair. -/
def pairedPoint (high low : Nat) : Nat :=
  0x10000 + (high - 0xD800) * 0x400 + (low - 0xDC00)

namespace Decoder

/-- The reader just after the opening quote. -/
def start : Decoder := ⟨.plain, []⟩

/-- Take one octet as it is. -/
def push (decoder : Decoder) (octet : UInt8) : Decoder :=
  ⟨.plain, octet :: decoder.decoded⟩

/-- Take the character of a code point. -/
def pushPoint (decoder : Decoder) (point : Nat) : Decoder :=
  ⟨.plain, (Octets.ofChar (Char.ofNat point)).reverse ++ decoder.decoded⟩

/-- The step after the four digits of an escape that is not the second of a
pair. -/
def takeUnit (decoder : Decoder) (unit : Nat) : DecodeStep :=
  if isTrailing unit then .refused ⟨.loneSurrogate, .after⟩
  else if isLeading unit then .more ⟨.leading unit, decoder.decoded⟩
  else .more (decoder.pushPoint unit)

/-- The step of a decoded string. A control is refused after it is taken. -/
def step (decoder : Decoder) (octet : UInt8) : DecodeStep :=
  match decoder.phase with
  | .plain =>
    if octet = 0x22 then .closed decoder.decoded.reverse
    else if octet = 0x5C then .more ⟨.escape, decoder.decoded⟩
    else if isControl octet then .refused ⟨.controlCharacter, .after⟩
    else .more (decoder.push octet)
  | .escape =>
    if octet = 0x75 then .more ⟨.hex [], decoder.decoded⟩
    else
      match escapedOctet? octet with
      | some meant => .more (decoder.push meant)
      | none => .refused ⟨.invalidEscape, .after⟩
  | .hex digits =>
    if digits.length < 3 then .more ⟨.hex (octet :: digits), decoder.decoded⟩
    else
      match hexNumber? (octet :: digits).reverse with
      | some unit => decoder.takeUnit unit
      | none => .refused ⟨.invalidEscape, .after⟩
  | .leading high =>
    if octet = 0x5C then .more ⟨.leadingEscape high, decoder.decoded⟩
    else .refused ⟨.brokenSurrogatePair, .after⟩
  | .leadingEscape high =>
    if octet = 0x75 then .more ⟨.trailing high [], decoder.decoded⟩
    else .refused ⟨.brokenSurrogatePair, .after⟩
  | .trailing high digits =>
    if digits.length < 3 then .more ⟨.trailing high (octet :: digits), decoder.decoded⟩
    else
      match hexNumber? (octet :: digits).reverse with
      | some unit =>
        if isTrailing unit then .more (decoder.pushPoint (pairedPoint high unit))
        else .refused ⟨.loneSurrogate, .after⟩
      | none => .refused ⟨.invalidEscape, .after⟩

/-- The decoded text of the rest of a string, if its closing quote ends the
octets. -/
def finish? (decoder : Decoder) : Octets → Option Octets
  | [] => none
  | octet :: rest =>
    match decoder.step octet with
    | .more next => finish? next rest
    | .closed decoded => if rest.isEmpty then some decoded else none
    | .refused _ => none

end Decoder

/-- The text that a value decodes to, if the value is a string whose surrogate
escapes are all paired. -/
def decodeString? : Octets → Option Octets
  | 0x22 :: rest => Decoder.start.finish? rest
  | _ => none

end Rendezvous.Json
