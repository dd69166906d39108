import SqlMapper.Number.Binary64
import SqlMapper.Number.Decimal

/-!
# Between decimals and binary numbers

Neither format holds every number of the other. A decimal becomes a binary number by way of its
integer part and its fraction, rounded to the decimal's own places. A binary number becomes a
decimal by trading powers of two for powers of ten within 96 bits, and then drops the digits that
fifty-two bits do not carry.
-/

namespace SqlMapper.Number

namespace Decimal

/-- The binary number for the magnitude of a decimal with places behind the point: the integer part
plus the fraction, rounded to those places. -/
def realWithPlaces (mantissa scale : Nat) : Binary64 :=
  let places := Binary64.ofNat (Nat.pow 10 scale)
  let whole := Binary64.ofNat (mantissa / Nat.pow 10 scale)
  let rest := Binary64.ofNat (mantissa % Nat.pow 10 scale)
  if mantissa % Nat.pow 10 scale = 0 then whole
  else
    let sum := whole.addMagnitudes (rest.divMagnitudes places)
    (sum.mulMagnitudes places).roundMagnitude.divMagnitudes places

/-- The binary number for a decimal. -/
def toReal (decimal : Decimal) : Binary64 :=
  let magnitude :=
    if decimal.scale = 0 then Binary64.ofNat decimal.mantissa
    else realWithPlaces decimal.mantissa decimal.scale
  if decimal.negative then magnitude.negate else magnitude

/-- A number `mantissa * 10 ^ power` on its way into a decimal. -/
structure Scaled where
  mantissa : Nat
  power : Int
  deriving DecidableEq, Repr

/-- Divides by a power of five that comes with `10 ^ power`: an even mantissa is halved instead, an
odd one multiplied by five while 96 bits hold it, and otherwise halved with loss. -/
def absorbNegative (number : Scaled) : Nat → Scaled
  | 0 => number
  | steps + 1 =>
      if number.mantissa % 2 = 0 then
        absorbNegative ⟨number.mantissa / 2, number.power + 1⟩ steps
      else if number.mantissa * 5 < mantissaBound then
        absorbNegative ⟨number.mantissa * 5, number.power⟩ steps
      else absorbNegative ⟨number.mantissa / 2, number.power + 1⟩ steps

/-- Multiplies by a power of five that comes with `10 ^ power`: the mantissa is doubled while 96
bits hold it, and then divided by five. It fails once more tens are left than the remaining steps
can take away. -/
def absorbPositive (number : Scaled) : Nat → Option Scaled
  | 0 => some number
  | steps + 1 =>
      if number.mantissa * 2 < mantissaBound then
        absorbPositive ⟨number.mantissa * 2, number.power - 1⟩ steps
      else if (steps + 1 : Int) < 2 * number.power then none
      else absorbPositive ⟨number.mantissa / 5, number.power⟩ steps

/-- Multiplies the mantissa by ten for each power above zero. -/
def multiplyOut (mantissa : Nat) : Nat → Option Nat
  | 0 => some mantissa
  | steps + 1 =>
      if mantissa * 10 < mantissaBound then multiplyOut (mantissa * 10) steps else none

/-- Drops the last digit, which rounds up from a half on. -/
def dropDigit (mantissa : Nat) : Nat :=
  roundHalfUp mantissa 10

/-- Drops digits past the greatest scale; nothing is left once the mantissa is below ten. -/
def dropExcess (mantissa : Nat) : Nat → Option Nat
  | 0 => some mantissa
  | steps + 1 => if mantissa < 10 then none else dropExcess (dropDigit mantissa) steps

/-- Drops places until fifty-two bits hold the mantissa. -/
def dropImprecise (mantissa : Nat) : Nat → Nat × Nat
  | 0 => (mantissa, 0)
  | scale + 1 =>
      if Binary64.leadingBit ≤ mantissa then dropImprecise (dropDigit mantissa) scale
      else (mantissa, scale + 1)

/-- Drops zeros at the end of the places. -/
def dropZeros (mantissa : Nat) : Nat → Nat × Nat
  | 0 => (mantissa, 0)
  | scale + 1 =>
      if mantissa % 10 = 0 then dropZeros (mantissa / 10) scale else (mantissa, scale + 1)

/-- The mantissa and scale of a number whose power of ten is zero or less. -/
def settlePlaces (mantissa places : Nat) : Nat × Nat :=
  match dropExcess mantissa (places - maxScale) with
  | none => (0, 0)
  | some mantissa =>
      let (mantissa, scale) := dropImprecise mantissa (min places maxScale)
      dropZeros mantissa scale

/-- The mantissa and scale of the decimal for `mantissa * 2 ^ exponent`. -/
def partsOfBinary? (mantissa : Nat) (exponent : Int) : Option (Nat × Nat) := do
  let number ←
    if exponent < 0 then some (absorbNegative ⟨mantissa, exponent⟩ (-exponent).toNat)
    else absorbPositive ⟨mantissa, exponent⟩ exponent.toNat
  let whole ← multiplyOut number.mantissa number.power.toNat
  return settlePlaces whole (-number.power).toNat

/-- The decimal for a binary number; nothing for an infinity, for no number, or for one that 96 bits
do not hold. A negative number too small for a decimal leaves a negative zero. -/
def ofReal? (number : Binary64) : Option Decimal :=
  match number.meaning with
  | .finite negative mantissa exponent =>
      if mantissa = 0 then ofParts? negative 0 0
      else do
        let (mantissa, scale) ← partsOfBinary? mantissa exponent
        ofParts? negative mantissa scale
  | _ => none

end Decimal

end SqlMapper.Number
