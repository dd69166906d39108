import SqlMapper.Number.Basic

/-!
# Binary floating-point numbers of 64 bits

A number is its bit pattern: a sign, eleven bits of exponent and fifty-two of fraction. Each
operation is exact on what the patterns denote and rounds once, to the nearest number, a tie to the
even one.
-/

namespace SqlMapper.Number

/-- A number in the 64-bit binary interchange format. -/
structure Binary64 where
  bits : UInt64
  deriving DecidableEq

namespace Binary64

/-- What a bit pattern denotes; a finite number is `± mantissa * 2 ^ exponent`. -/
inductive Meaning where
  | notANumber
  | infinite (negative : Bool)
  | finite (negative : Bool) (mantissa : Nat) (exponent : Int)
  deriving DecidableEq, Repr

/-- The exponent of the finest grid. -/
def leastExponent : Int := -1074

/-- The pattern of a sign alone. -/
def signBit : UInt64 := 0x8000000000000000

/-- The leading bit of a mantissa, which its pattern leaves out. -/
def leadingBit : Nat := 0x10000000000000

/-- The number's sign bit. -/
def isNegative (number : Binary64) : Bool :=
  signBit ≤ number.bits

/-- The eleven exponent bits. -/
def exponentField (number : Binary64) : Nat :=
  number.bits.toNat / leadingBit % 0x800

/-- The fifty-two fraction bits. -/
def fractionField (number : Binary64) : Nat :=
  number.bits.toNat % leadingBit

/-- What the number denotes. -/
def meaning (number : Binary64) : Meaning :=
  let negative := number.isNegative
  let field := number.exponentField
  let fraction := number.fractionField
  if field = 2047 then if fraction = 0 then .infinite negative else .notANumber
  else if field = 0 then .finite negative fraction leastExponent
  else .finite negative (leadingBit + fraction) (field - 1075)

/-- The pattern of positive infinity, which follows the pattern of the greatest finite number. -/
def infinityPattern : Nat := 0x7FF0000000000000

/-- The number with the given sign whose other bits are given. -/
def ofPattern (negative : Bool) (pattern : Nat) : Binary64 :=
  ⟨UInt64.ofNat (pattern + if negative then signBit.toNat else 0)⟩

/-- The one pattern that stands for every result that is not a number. -/
def notANumber : Binary64 := ⟨0x7FF8000000000000⟩

/-- Infinity with a sign. -/
def infinity (negative : Bool) : Binary64 := ofPattern negative infinityPattern

/-- Zero with a sign. -/
def zero (negative : Bool) : Binary64 := ofPattern negative 0

/-- The number is not a number. -/
def isNaN (number : Binary64) : Bool :=
  number.meaning == .notANumber

/-- A quotient divided by a power of two, as a quotient. -/
def scaleDown (numerator denominator : Nat) (exponent : Int) : Nat × Nat :=
  (numerator * Nat.pow 2 (-exponent).toNat, denominator * Nat.pow 2 exponent.toNat)

/-- The exponent of the grid on which a positive quotient has fifty-three binary digits, or the
finest grid if that one is finer. -/
def gridExponent (numerator denominator : Nat) : Int :=
  let guess : Int := (numerator.log2 : Int) - (denominator.log2 : Int) - 53
  let (scaled, unit) := scaleDown numerator denominator guess
  max leastExponent (if scaled < 2 * leadingBit * unit then guess else guess + 1)

/-- The number nearest to `± numerator / denominator`; beyond the greatest finite number, infinity.
The pattern of a number on a grid is the count of grid points below it, so a mantissa that rounds
up to the next power of two needs no case of its own. -/
def nearest (negative : Bool) (numerator denominator : Nat) : Binary64 :=
  if numerator = 0 then zero negative
  else
    let exponent := gridExponent numerator denominator
    let (scaled, unit) := scaleDown numerator denominator exponent
    let pattern := (exponent - leastExponent).toNat * leadingBit + roundHalfEven scaled unit
    ofPattern negative (min pattern infinityPattern)

/-- The number nearest to an integer. -/
def ofInt (number : Int) : Binary64 :=
  nearest (number < 0) number.natAbs 1

/-- The number nearest to a natural number. -/
def ofNat (number : Nat) : Binary64 :=
  nearest false number 1

/-- The magnitude of a finite number as a quotient. -/
def magnitude (number : Binary64) : Nat × Nat :=
  match number.meaning with
  | .finite _ mantissa exponent =>
      (mantissa * Nat.pow 2 exponent.toNat, Nat.pow 2 (-exponent).toNat)
  | _ => (0, 1)

/-- The sum of the magnitudes of two finite numbers. -/
def addMagnitudes (left right : Binary64) : Binary64 :=
  let (leftTop, leftBottom) := left.magnitude
  let (rightTop, rightBottom) := right.magnitude
  nearest false (leftTop * rightBottom + rightTop * leftBottom) (leftBottom * rightBottom)

/-- The product of the magnitudes of two finite numbers. -/
def mulMagnitudes (left right : Binary64) : Binary64 :=
  let (leftTop, leftBottom) := left.magnitude
  let (rightTop, rightBottom) := right.magnitude
  nearest false (leftTop * rightTop) (leftBottom * rightBottom)

/-- The quotient of the magnitudes of two finite numbers, the second not zero. -/
def divMagnitudes (left right : Binary64) : Binary64 :=
  let (leftTop, leftBottom) := left.magnitude
  let (rightTop, rightBottom) := right.magnitude
  nearest false (leftTop * rightBottom) (leftBottom * rightTop)

/-- The magnitude of a finite number rounded to an integer, a half upwards. -/
def roundMagnitude (number : Binary64) : Binary64 :=
  let (top, bottom) := number.magnitude
  ofNat (roundHalfUp top bottom)

/-- The number with its sign changed. -/
def negate (number : Binary64) : Binary64 :=
  ⟨number.bits ^^^ signBit⟩

/-- The integer a number denotes; nothing for a fraction, an infinity or no number. -/
def toInt? (number : Binary64) : Option Int :=
  match number.meaning with
  | .finite negative mantissa exponent =>
      let unit := Nat.pow 2 (-exponent).toNat
      if mantissa % unit = 0 then
        let whole : Int := (mantissa * Nat.pow 2 exponent.toNat / unit : Nat)
        some (if negative then -whole else whole)
      else none
  | _ => none

/-- Numerical equality: no number equals itself if it is not a number, and the zeros are equal. -/
def equals (left right : Binary64) : Bool :=
  match left.meaning, right.meaning with
  | .notANumber, _ | _, .notANumber => false
  | .finite _ 0 _, .finite _ 0 _ => true
  | _, _ => left == right

/-- The number of the 32-bit format with the given bits, which the 64-bit format holds exactly. -/
def ofBinary32 (bits : UInt32) : Binary64 :=
  let negative : Bool := 0x80000000 ≤ bits
  let field := bits.toNat / 0x800000 % 0x100
  let fraction := bits.toNat % 0x800000
  let places : Nat := 149
  if field = 255 then if fraction = 0 then infinity negative else notANumber
  else if field = 0 then nearest negative fraction (Nat.pow 2 places)
  else nearest negative ((0x800000 + fraction) * Nat.pow 2 (field - 1)) (Nat.pow 2 places)

end Binary64

end SqlMapper.Number
