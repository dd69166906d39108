import SqlMapper.Number.Binary64
import SqlMapper.Number.Numeral

/-!
# Reading binary numbers

A real is written with an optional sign, digits with an optional point (a digit on at least one
side) and an optional exponent, or as `inf`, `infinity` or `nan` in any case. The number read is the
nearest one to the written decimal.
-/

namespace SqlMapper.Number

/-- Why a text is no real. -/
inductive RealFault where
  | empty
  | invalid
  deriving DecidableEq, Repr

/-- The fault's wording. -/
def RealFault.message : RealFault → String
  | .empty => "cannot parse float from empty string"
  | .invalid => "invalid float literal"

/-- A sign at the start, and the rest; no sign reads as a plus. -/
def spanSign : List Char → Bool × List Char
  | '-' :: rest => (true, rest)
  | '+' :: rest => (false, rest)
  | chars => (false, chars)

/-- The exponent written at the end of a real: nothing at all is zero. -/
def readExponent? : List Char → Option Int
  | [] => some 0
  | mark :: rest =>
      if mark = 'e' ∨ mark = 'E' then
        let (negative, body) := spanSign rest
        if body.isEmpty || !body.all isDigit then none
        else
          let magnitude : Int := valueOfDigits 0 body
          some (if negative then -magnitude else magnitude)
      else none

/-- The number nearest to `± count * 10 ^ exponent`. A decimal beyond the greatest number or below
half of the least one is settled by its size alone, so that no huge power is computed. -/
def nearestDecimal (negative : Bool) (count : Nat) (exponent : Int) : Binary64 :=
  let size : Int := exponent + (digitCount : Nat)
  if count = 0 then .zero negative
  else if 310 < size then .infinity negative
  else if size < -330 then .zero negative
  else .nearest negative (count * Nat.pow 10 exponent.toNat) (Nat.pow 10 (-exponent).toNat)
where
  digitCount : Nat := (Nat.toDigits 10 count).length

/-- Reads the digits of a real. -/
def readDecimalReal (negative : Bool) (chars : List Char) : Except RealFault Binary64 :=
  let (whole, rest) := spanDigits chars
  let (fraction, rest) := match rest with
    | '.' :: rest => spanDigits rest
    | rest => ([], rest)
  if whole.isEmpty && fraction.isEmpty then .error .invalid
  else
    match readExponent? rest with
    | none => .error .invalid
    | some exponent =>
        .ok (nearestDecimal negative (valueOfDigits 0 (whole ++ fraction))
          (exponent - fraction.length))

/-- Reads a real. -/
def Binary64.read (chars : List Char) : Except RealFault Binary64 :=
  if chars.isEmpty then .error .empty
  else
    let (negative, body) := spanSign chars
    let word := String.ofList (body.map Char.toLower)
    if word = "inf" ∨ word = "infinity" then .ok (.infinity negative)
    else if word = "nan" then .ok .notANumber
    else readDecimalReal negative body

end SqlMapper.Number
