/-
# Numerals

The spelling of a number is read octet by octet; what may come next depends on
one of eight phases only. Inside a kept value a numeral is never evaluated. At
the top of a frame, where a number has no business, its value is worked out to
be named in the error.
-/

import Rendezvous.Json.Fault

namespace Rendezvous.Json

/-- How far the spelling of a number has come. -/
inductive NumberPhase
  | minus
  | zero
  | whole
  | point
  | fraction
  | exponentMark
  | exponentSign
  | exponent
  deriving DecidableEq, Repr

/-- What one more octet does to the spelling of a number: it belongs to it, it
stands after its end, or it may not stand there. -/
inductive NumberStep
  | more (phase : NumberPhase)
  | ended
  | invalid
  deriving DecidableEq, Repr

namespace NumberPhase

/-- The phase after the first octet of a number, if the octet can be one. -/
def start? (octet : UInt8) : Option NumberPhase :=
  if octet = 0x2D then some .minus
  else if octet = 0x30 then some .zero
  else if isDigit octet then some .whole
  else none

/-- Whether the spelling may end in this phase. -/
def isComplete : NumberPhase → Bool
  | .zero | .whole | .fraction | .exponent => true
  | .minus | .point | .exponentMark | .exponentSign => false

/-- What follows the digits before the point. -/
def afterWhole (octet : UInt8) : NumberStep :=
  if octet = 0x2E then .more .point
  else if octet = 0x65 || octet = 0x45 then .more .exponentMark
  else .ended

/-- The step at an octet. -/
def step (phase : NumberPhase) (octet : UInt8) : NumberStep :=
  match phase with
  | .minus =>
    if octet = 0x30 then .more .zero
    else if isDigit octet then .more .whole
    else .invalid
  | .zero => if isDigit octet then .invalid else afterWhole octet
  | .whole => if isDigit octet then .more .whole else afterWhole octet
  | .point => if isDigit octet then .more .fraction else .invalid
  | .fraction =>
    if isDigit octet then .more .fraction
    else if octet = 0x65 || octet = 0x45 then .more .exponentMark
    else .ended
  | .exponentMark =>
    if isDigit octet then .more .exponent
    else if octet = 0x2B || octet = 0x2D then .more .exponentSign
    else .invalid
  | .exponentSign => if isDigit octet then .more .exponent else .invalid
  | .exponent => if isDigit octet then .more .exponent else .ended

end NumberPhase

/-- The parts of the spelling of a number. -/
structure Numeral where
  negative : Bool
  whole : Octets
  /-- The digits after the point, if there is one. -/
  fraction : Option Octets
  /-- The sign and the digits of the exponent, if there is one. -/
  exponent : Option (Bool × Octets)
  deriving DecidableEq, Repr

namespace Numeral

/-- The number written by decimal digits. -/
def digitsValue (digits : Octets) : Nat :=
  digits.foldl (fun sum digit => 10 * sum + (digit.toNat - 0x30)) 0

/-- The parts of a spelling, which may break off after the mark of its exponent. -/
def ofSpelling (spelling : Octets) : Numeral :=
  let negative := spelling.head? = some 0x2D
  let unsigned := if negative then spelling.drop 1 else spelling
  let afterWhole := unsigned.dropWhile isDigit
  let pointed := afterWhole.head? = some 0x2E
  let decimals := if pointed then afterWhole.drop 1 else []
  let afterFraction := if pointed then decimals.dropWhile isDigit else afterWhole
  let exponent :=
    match afterFraction with
    | [] => none
    | _ :: rest =>
      let lowered := rest.head? = some 0x2D
      let signed := lowered || rest.head? = some 0x2B
      some (decide lowered, if signed then rest.drop 1 else rest)
  { negative := negative
    whole := unsigned.takeWhile isDigit
    fraction := if pointed then some (decimals.takeWhile isDigit) else none
    exponent := exponent }

/-- The greatest significand that is kept: later digits only raise the power. -/
def maxSignificand : Nat := Nat.pow 2 64 - 1

/-- The greatest exponent that is read. -/
def maxExponent : Nat := Nat.pow 2 31 - 1

/-- The greatest integer below nought in size. -/
def maxNegative : Nat := Nat.pow 2 63

/-- The significand of the digits before the point and the number of digits that
no longer fit into it. -/
def wholeSignificand (digits : Octets) : Nat × Nat :=
  digits.foldl (fun (kept, dropped) digit =>
    let longer := 10 * kept + (digit.toNat - 0x30)
    if dropped = 0 ∧ longer ≤ maxSignificand then (longer, 0) else (kept, dropped + 1)) (0, 0)

/-- The significand continued by the digits after the point and the number of
those that went into it; from the first that does not fit, none does. -/
def fractionSignificand (start : Nat) : Octets → Nat × Nat
  | [] => (start, 0)
  | digit :: rest =>
    let longer := 10 * start + (digit.toNat - 0x30)
    if longer ≤ maxSignificand then
      let (significand, used) := fractionSignificand longer rest
      (significand, used + 1)
    else (start, 0)

/-- The significand and the power of ten of all digits, without the exponent. -/
def scaled (numeral : Numeral) : Nat × Int :=
  let (kept, dropped) := wholeSignificand numeral.whole
  let (significand, used) := fractionSignificand kept (numeral.fraction.getD [])
  (significand, (dropped : Int) - used)

/-- Whether the digits of the exponent read so far already put the number beyond
every double. -/
def exponentTooGreat (numeral : Numeral) : Bool :=
  match numeral.exponent with
  | some (false, digits) => numeral.scaled.1 ≠ 0 && maxExponent < digitsValue digits
  | _ => false

/-- The value of a number without point and exponent, if it is an integer of
64 bits; a negative nought is none. -/
def integer? (numeral : Numeral) : Option Int :=
  if numeral.fraction.isSome || numeral.exponent.isSome then none
  else
    let magnitude := digitsValue numeral.whole
    if numeral.negative then
      if magnitude ≠ 0 ∧ magnitude ≤ maxNegative then some (-(magnitude : Int)) else none
    else if magnitude ≤ maxSignificand then some magnitude
    else none

/-- The size of the number as a double, if it is not beyond all of them. -/
def magnitude? (numeral : Numeral) : Option Decimal.Binary64 :=
  let (significand, power) := numeral.scaled
  let shift : Int :=
    match numeral.exponent with
    | none => 0
    | some (lowered, digits) =>
      if lowered then -(digitsValue digits : Int) else digitsValue digits
  Decimal.Binary64.ofDecimal? significand (power + shift)

/-- Why a frame that is just this number is refused. -/
def refusal (numeral : Numeral) : Cause :=
  match numeral.integer? with
  | some value => .notAnObject (.integer value)
  | none =>
    match numeral.magnitude? with
    | some magnitude => .notAnObject (.float numeral.negative magnitude)
    | none => .numberOutOfRange

end Numeral

end Rendezvous.Json
