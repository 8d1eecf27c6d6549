/-
# The fewest digits that read back

A double is written with as few decimal digits as still single it out among all
doubles, and with the closest such digits where there are several. The search
goes through one, two, … seventeen digits and tries, at each number of digits,
the two decimals next to the value; all comparisons are exact.
-/

import Rendezvous.Decimal.Binary64

namespace Rendezvous.Decimal

/-- The decimal `digits * 10 ^ power`. -/
structure Scaled where
  digits : Nat
  power : Int
  deriving DecidableEq, Repr

namespace Scaled

/-- The decimal as a ratio. -/
def toRatio (value : Scaled) : Nat × Nat :=
  if 0 ≤ value.power then (value.digits * Nat.pow 10 value.power.toNat, 1)
  else (value.digits, Nat.pow 10 (-value.power).toNat)

/-- The decimal without the zeros at its end. -/
def trim : Nat → Scaled → Scaled
  | 0, value => value
  | fuel + 1, value =>
    if value.digits ≠ 0 ∧ value.digits % 10 = 0 then
      trim fuel ⟨value.digits / 10, value.power + 1⟩
    else value

end Scaled

namespace Binary64

/-- The ratios between which every real is nearest to this double, and whether
they themselves are rounded to it. -/
def rounding (value : Binary64) : (Nat × Nat) × (Nat × Nat) × Bool :=
  let quarter := value.exponent - 2
  let below := if value.significand = Nat.pow 2 52 ∧ -1074 < value.exponent then 1 else 2
  (shiftRatio (4 * value.significand - below) 1 quarter,
    shiftRatio (4 * value.significand + 2) 1 quarter,
    value.significand % 2 = 0)

/-- Whether a decimal is nearest to this double. -/
def readsBack (value : Binary64) (decimal : Scaled) : Bool :=
  let (low, high, closed) := value.rounding
  let (numerator, denominator) := decimal.toRatio
  if closed then
    low.1 * denominator ≤ numerator * low.2 && numerator * high.2 ≤ high.1 * denominator
  else
    low.1 * denominator < numerator * low.2 && numerator * high.2 < high.1 * denominator

/-- The whole number of steps of ten to a power that fit below the value, and the
ratio left over with its denominator. -/
def floorAt (value : Binary64) (power : Int) : Nat × Nat × Nat :=
  let (numerator, denominator) := value.toRatio
  let (top, bottom) :=
    if 0 ≤ power then (numerator, denominator * Nat.pow 10 power.toNat)
    else (numerator * Nat.pow 10 (-power).toNat, denominator)
  (top / bottom, top % bottom, bottom)

/-- The power of ten of the first digit of a nonzero value. -/
def leadingPower (value : Binary64) : Int :=
  let (numerator, denominator) := value.toRatio
  if denominator ≤ numerator then
    (Nat.toDigits 10 (numerator / denominator)).length - 1
  else
    let lift := (Nat.toDigits 10 (denominator / numerator)).length
    if denominator ≤ numerator * Nat.pow 10 (lift - 1) then 1 - (lift : Int) else -(lift : Int)

/-- The shortest decimal of at least `count` digits, tried up to seventeen. -/
def searchShortest (value : Binary64) : Nat → Nat → Scaled
  | 0, _ => ⟨value.significand, 0⟩
  | fuel + 1, count =>
    let power := value.leadingPower - (count - 1 : Nat)
    let (floor, rest, bottom) := value.floorAt power
    let lower : Scaled := ⟨floor, power⟩
    let upper : Scaled := ⟨floor + 1, power⟩
    let nearer :=
      if 2 * rest < bottom then lower
      else if bottom < 2 * rest then upper
      else if floor % 2 = 0 then lower else upper
    if value.readsBack lower && value.readsBack upper then nearer
    else if value.readsBack lower then lower
    else if value.readsBack upper then upper
    else searchShortest value fuel (count + 1)

/-- The fewest digits that read back as this nonzero double. -/
def shortest (value : Binary64) : Scaled :=
  (value.searchShortest 17 1).trim 18

end Binary64

/-- How many zeros a positional number may have before its digits, and the
greatest power of ten its first digit may have. -/
structure Layout where
  leastPower : Int
  greatestPower : Int

/-- Numbers from `1e-5` up to below `1e16` are written positionally. -/
def layout : Layout := ⟨-5, 15⟩

/-- A nonnegative double with a point and at least one digit after it, or with
an exponent that always has a sign. -/
def render (value : Binary64) : String :=
  if value.significand = 0 then "0.0"
  else
    let decimal := value.shortest
    let digits := Nat.toDigits 10 decimal.digits
    let first : Int := decimal.power + (digits.length - 1 : Nat)
    if layout.leastPower ≤ first ∧ first ≤ layout.greatestPower then
      if 0 ≤ decimal.power then
        String.ofList (digits ++ List.replicate decimal.power.toNat '0' ++ ['.', '0'])
      else if 0 ≤ first then
        let whole := first.toNat + 1
        String.ofList (digits.take whole ++ '.' :: digits.drop whole)
      else
        String.ofList (['0', '.'] ++ List.replicate (-first - 1).toNat '0' ++ digits)
    else
      let fraction := digits.drop 1
      let point := if fraction.isEmpty then [] else '.' :: fraction
      let sign := if 0 ≤ first then '+' else '-'
      String.ofList
        (digits.take 1 ++ point ++ ['e', sign] ++ Nat.toDigits 10 first.natAbs)

end Rendezvous.Decimal
