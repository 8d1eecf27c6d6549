/-
# Double precision by exact arithmetic

A nonnegative double is a whole number times a power of two. Every operation
here is carried out on exact ratios of natural numbers and rounded once, to the
nearest double and to the even one at a tie, so nothing depends on the machine's
own floating point.
-/

namespace Rendezvous.Decimal

/-- The nonnegative finite double `significand * 2 ^ exponent`. A normal number
has its significand from `2 ^ 52` up to below `2 ^ 53`; a smaller significand
goes with the least exponent, `-1074`. -/
structure Binary64 where
  significand : Nat
  exponent : Int
  deriving DecidableEq, Repr

/-- A quotient rounded to the nearest whole number, a tie to the even one. -/
def roundQuotient (numerator denominator : Nat) : Nat :=
  let quotient := numerator / denominator
  let twice := 2 * (numerator % denominator)
  if twice < denominator then quotient
  else if denominator < twice then quotient + 1
  else if quotient % 2 = 0 then quotient else quotient + 1

namespace Binary64

/-- The double nought. -/
def zero : Binary64 := ⟨0, -1074⟩

/-- A ratio multiplied by a power of two, as a ratio. -/
def shiftRatio (numerator denominator : Nat) (power : Int) : Nat × Nat :=
  if 0 ≤ power then (numerator * Nat.pow 2 power.toNat, denominator)
  else (numerator, denominator * Nat.pow 2 (-power).toNat)

/-- The exponent at which a nonzero ratio has a significand of 53 bits, or the
least exponent where that would be smaller still. -/
def exponentOfRatio (numerator denominator : Nat) : Int :=
  let guess : Int := (Nat.log2 numerator : Int) - Nat.log2 denominator - 52
  let scaled := shiftRatio numerator denominator (-guess)
  let exponent := if scaled.1 < Nat.pow 2 52 * scaled.2 then guess - 1 else guess
  max exponent (-1074)

/-- The double nearest to a ratio, or `none` where that is beyond the largest
finite double. -/
def ofRatio? (numerator denominator : Nat) : Option Binary64 :=
  if numerator = 0 then some zero
  else
    let exponent := exponentOfRatio numerator denominator
    let scaled := shiftRatio numerator denominator (-exponent)
    let significand := roundQuotient scaled.1 scaled.2
    let rounded : Binary64 :=
      if significand = Nat.pow 2 53 then ⟨Nat.pow 2 52, exponent + 1⟩
      else ⟨significand, exponent⟩
    if rounded.exponent ≤ 971 then some rounded else none

/-- The value as a ratio. -/
def toRatio (value : Binary64) : Nat × Nat :=
  shiftRatio value.significand 1 value.exponent

/-- The rounded product, or `none` beyond the largest finite double. -/
def mul? (left right : Binary64) : Option Binary64 :=
  let a := left.toRatio
  let b := right.toRatio
  ofRatio? (a.1 * b.1) (a.2 * b.2)

/-- The rounded quotient by a nonzero double, or `none` beyond the largest
finite double. -/
def div? (left right : Binary64) : Option Binary64 :=
  let a := left.toRatio
  let b := right.toRatio
  ofRatio? (a.1 * b.2) (a.2 * b.1)

/-- The double nearest to a power of ten. -/
def powerOfTen? (power : Nat) : Option Binary64 :=
  ofRatio? (Nat.pow 10 power) 1

/-- The greatest power of ten that is a finite double. -/
def maxPower : Nat := 308

/-- A decimal significand times a power of ten, read with one rounding for the
significand, one for the power of ten and one for joining them; the power is
split in two where it is too small for one. `none` is a value beyond the largest
finite double. -/
def ofDecimal? (significand : Nat) (power : Int) : Option Binary64 := do
  if significand = 0 then return zero
  let start ← ofRatio? significand 1
  if 0 ≤ power then
    if power.toNat ≤ maxPower then mul? start (← powerOfTen? power.toNat) else none
  else
    let depth := (-power).toNat
    if depth ≤ maxPower then div? start (← powerOfTen? depth)
    else if depth ≤ 2 * maxPower then
      let lowered ← div? start (← powerOfTen? maxPower)
      div? lowered (← powerOfTen? (depth - maxPower))
    else return zero

end Binary64

end Rendezvous.Decimal
