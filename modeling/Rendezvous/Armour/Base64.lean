/-
# Base64

Sixty-four letters stand for six bits each, and four of them for three octets.
Blanks are passed over. Letters are taken in blocks of eight, two groups of four;
padding anywhere but in the last group is noticed when a letter comes after its
block, or at the end.
-/

import Rendezvous.Text.Octets

namespace Rendezvous.Armour

/-- Why a text is no Base64. -/
inductive Base64Fault
  | invalidCharacter (octet : UInt8)
  | prematurePadding
  | invalidTrailingPadding
  deriving DecidableEq, Repr

/-- The wording of a fault. -/
def Base64Fault.message : Base64Fault → String
  | .invalidCharacter octet => "InvalidCharacter(" ++ toString octet.toNat ++ ")"
  | .prematurePadding => "PrematurePadding"
  | .invalidTrailingPadding => "InvalidTrailingPadding"

namespace Base64

/-- What an octet stands for. -/
inductive Letter
  | bits (value : Nat)
  | padding
  deriving DecidableEq, Repr

/-- Whether an octet is passed over: a space, or one of the five controls from the
tab to the carriage return. -/
def isBlank (octet : UInt8) : Bool :=
  octet = 0x20 || (0x09 ≤ octet && octet ≤ 0x0D)

/-- The letter that an octet is. -/
def letter? (octet : UInt8) : Option Letter :=
  let value := octet.toNat
  if 0x41 ≤ value ∧ value ≤ 0x5A then some (.bits (value - 0x41))
  else if 0x61 ≤ value ∧ value ≤ 0x7A then some (.bits (value - 0x61 + 26))
  else if 0x30 ≤ value ∧ value ≤ 0x39 then some (.bits (value - 0x30 + 52))
  else if value = 0x2B then some (.bits 62)
  else if value = 0x2F then some (.bits 63)
  else if value = 0x3D then some .padding
  else none

/-- Whether a list of letters holds padding. -/
def holdsPadding (letters : List Letter) : Bool := letters.contains .padding

/-- The letters of a text. `block` holds those of the block that is open, the
latest first; a full block is looked at when one more letter comes. -/
def letters (block : List Letter) : Octets → Except Base64Fault (List Letter)
  | [] => .ok block.reverse
  | octet :: rest =>
    if isBlank octet then letters block rest
    else
      match letter? octet with
      | none => .error (.invalidCharacter octet)
      | some letter =>
        if block.length < 8 then letters (letter :: block) rest
        else if holdsPadding block then .error .prematurePadding
        else (letters [letter] rest).map fun later => block.reverse ++ later

/-- The octets of a last group, which may be cut short or padded. -/
def lastGroup : List Letter → Except Base64Fault Octets
  | [] => .ok []
  | [.bits a, .bits b] | [.bits a, .bits b, .padding, .padding] =>
    .ok [.ofNat (a * 4 + b / 16)]
  | [.bits a, .bits b, .bits c] | [.bits a, .bits b, .bits c, .padding] =>
    .ok [.ofNat (a * 4 + b / 16), .ofNat (b % 16 * 16 + c / 4)]
  | [.bits a, .bits b, .bits c, .bits d] =>
    .ok [.ofNat (a * 4 + b / 16), .ofNat (b % 16 * 16 + c / 4), .ofNat (c % 4 * 64 + d)]
  | _ => .error .invalidTrailingPadding

/-- The octets of letters in groups of four. -/
def groups : List Letter → Except Base64Fault Octets
  | a :: b :: c :: d :: e :: rest =>
    if holdsPadding [a, b, c, d] then .error .prematurePadding
    else do
      let first ← lastGroup [a, b, c, d]
      let later ← groups (e :: rest)
      return first ++ later
  | last => lastGroup last

/-- The octets that a text stands for. -/
def decode (text : Octets) : Except Base64Fault Octets := do
  groups (← letters [] text)

end Base64

end Rendezvous.Armour
