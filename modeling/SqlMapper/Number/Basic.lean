/-!
# Rounding and positional notation

Numbers in different notations meet as exact quotients of natural numbers, and each result is
rounded once. The rules differ only in what they do with a remainder of exactly one half.

In positional notation a number is given as an integer and a scale, the count of digits behind the
point. There is always a digit before the point, and no point when the scale is zero.
-/

namespace SqlMapper.Number

/-- The quotient rounded to the nearest integer, a half to the even neighbour. -/
def roundHalfEven (numerator denominator : Nat) : Nat :=
  let quotient := numerator / denominator
  let twice := 2 * (numerator % denominator)
  if denominator < twice ∨ (twice = denominator ∧ quotient % 2 = 1) then quotient + 1 else quotient

/-- The quotient rounded to the nearest integer, a half upwards. -/
def roundHalfUp (numerator denominator : Nat) : Nat :=
  let quotient := numerator / denominator
  if denominator ≤ 2 * (numerator % denominator) then quotient + 1 else quotient

/-- The decimal digits of a natural number. -/
def digits (number : Nat) : List Char :=
  Nat.toDigits 10 number

/-- The digits with zeros before them, at least as many as the width asks for. -/
def padded (width number : Nat) : List Char :=
  let written := digits number
  List.replicate (width - written.length) '0' ++ written

/-- The number `mantissa / 10 ^ scale` with exactly `scale` digits behind the point. -/
def positional (mantissa scale : Nat) : List Char :=
  if scale = 0 then digits mantissa
  else
    let written := padded (scale + 1) mantissa
    let whole := written.length - scale
    written.take whole ++ '.' :: written.drop whole

/-- A minus sign for a negative number, nothing otherwise. -/
def signText (negative : Bool) : List Char :=
  if negative then ['-'] else []

/-- The text of an integer. -/
def integerText (number : Int) : List Char :=
  signText (number < 0) ++ digits number.natAbs

theorem length_padded (width number : Nat) :
    (padded width number).length = max width (digits number).length := by
  simp only [padded, List.length_append, List.length_replicate]
  omega

end SqlMapper.Number
