import SqlMapper.Number.Basic
import SqlMapper.Number.Decimal
import SqlMapper.Number.Numeral

/-!
# Reading decimals

A decimal is an optional sign, digits and at most one point; after the first digit an underscore may
separate digits. The scale is the number of digits behind the point. Where the 96 bits or the 28
places end, the next digit rounds and the rest is only checked. An underscore may stand there too:
in a narrow mantissa it counts as a zero, and in a wide one it is passed over; the digit behind it
then still joins the mantissa if the 96 bits hold it, and a scale past the greatest starts again
from zero. A text with an `e` is read in scientific notation.
-/

namespace SqlMapper.Number

/-- Why a text is no decimal. -/
inductive DecimalFault where
  | empty
  | noDigits
  | unknownCharacter
  | secondPoint
  | leadingSeparator
  /-- The integer part needs more than 96 bits. -/
  | tooManyDigits
  /-- Rounding an integer part of 96 bits takes it past them. -/
  | roundingOverflow
  /-- What stands behind the `e` is no exponent. -/
  | malformedExponent
  /-- The exponent is beyond the greatest scale. -/
  | exponentTooLarge (exponent : Nat)
  /-- The number that the exponent makes needs more than 96 bits. -/
  | tooLarge
  deriving DecidableEq, Repr

/-- The fault's wording. -/
def DecimalFault.message : DecimalFault → String
  | .empty => "Invalid decimal: empty"
  | .noDigits => "Invalid decimal: no digits found"
  | .unknownCharacter => "Invalid decimal: unknown character"
  | .secondPoint => "Invalid decimal: two decimal points"
  | .leadingSeparator => "Invalid decimal: must start lead with a number"
  | .tooManyDigits => "Invalid decimal: overflow from too many digits"
  | .roundingOverflow => "Invalid decimal: overflow from mantissa after rounding"
  | .malformedExponent => "Failed to parse"
  | .exponentTooLarge exponent =>
      s!"Scale exceeds the maximum precision allowed: {exponent} > {Decimal.maxScale}"
  | .tooLarge => "Number exceeds maximum value that can be represented."

namespace Decimal

/-- An unsigned decimal while it is read. -/
structure Unsigned where
  mantissa : Nat
  scale : Nat
  deriving DecidableEq, Repr

/-- What follows the rounding digit: digits and underscores, which change nothing. -/
def checkTail : List Char → Except DecimalFault Unit
  | [] => .ok ()
  | char :: rest =>
      if isDigit char ∨ char = '_' then checkTail rest
      else if char = '.' then .error .secondPoint
      else .error .unknownCharacter

/-- Ends a decimal at a digit that no longer fits: a half or more rounds up, and a mantissa that
leaves its 96 bits by that gives up its last digit. -/
def roundOff (number : Unsigned) (digit : Nat) (rest : List Char) :
    Except DecimalFault Unsigned := do
  let rounded ←
    if digit < 5 then pure number
    else if number.mantissa + 1 < mantissaBound then
      pure { number with mantissa := number.mantissa + 1 }
    else if number.scale = 0 then throw .roundingOverflow
    else pure ⟨(number.mantissa + 5) / 10, number.scale - 1⟩
  checkTail rest
  return rounded

/-- The least wide mantissa. A narrow one takes another digit within 64 bits, with a little to
spare. -/
def wideMantissa : Nat := 1844674407370954906

/-- What was read last, the point aside. -/
inductive Before where
  /-- Nothing so far. -/
  | start
  | digit
  | separator
  deriving DecidableEq, Repr

/-- The places behind the point are used up. -/
def placesEnd (pointSeen : Bool) (number : Unsigned) : Bool :=
  pointSeen && maxScale ≤ number.scale

/-- Reads the digits behind those already read. A mantissa is wide if it was before its last
digit. -/
def readDigits (pointSeen : Bool) (before : Before) (number : Unsigned) :
    List Char → Except DecimalFault Unsigned
  | [] => if before = .start then .error .noDigits else .ok number
  | char :: rest =>
      match digitValue? char with
      | some digit =>
          let mantissa := number.mantissa * 10 + digit
          if placesEnd pointSeen number ∧ before ≠ .separator then roundOff number digit rest
          else if mantissa < mantissaBound then
            readDigits pointSeen .digit
              ⟨mantissa, if pointSeen then number.scale + 1 else number.scale⟩ rest
          else if pointSeen then roundOff number digit rest
          else .error .tooManyDigits
      | none =>
          if char = '.' then
            if pointSeen then .error .secondPoint else readDigits true before number rest
          else if char = '_' then
            if before = .start then .error .leadingSeparator
            else if placesEnd pointSeen number ∧ number.mantissa / 10 < wideMantissa then
              roundOff number 0 rest
            else readDigits pointSeen .separator number rest
          else .error .unknownCharacter

/-- Puts the sign before an unsigned decimal; a zero has none. A scale past the greatest starts
again from zero. -/
def withSign (negative : Bool) (number : Unsigned) : Except DecimalFault Decimal :=
  match ofParts? (negative && number.mantissa != 0) number.mantissa
      (number.scale % (maxScale + 1)) with
  | some decimal => .ok decimal
  | none => .error .tooLarge

/-- Reads a decimal without an exponent. -/
def readPlain : List Char → Except DecimalFault Decimal
  | [] => .error .empty
  | '-' :: rest => do withSign true (← readDigits false .start ⟨0, 0⟩ rest)
  | '+' :: rest => do withSign false (← readDigits false .start ⟨0, 0⟩ rest)
  | chars => do withSign false (← readDigits false .start ⟨0, 0⟩ chars)

/-- The exponent of a scientific notation: whether it is negative, and its magnitude. -/
def readExponent (chars : List Char) : Except DecimalFault (Bool × Nat) := do
  let (negative, body) := match chars with
    | '-' :: rest => (true, rest)
    | rest => (false, rest)
  match readNatural (UInt32.size - 1) body with
  | .error _ => throw .malformedExponent
  | .ok exponent =>
      if maxScale < exponent then throw (.exponentTooLarge exponent)
      return (negative, exponent)

/-- The decimal divided by a power of ten of at most 28: the scale grows, and digits that it would
push past the greatest scale are first rounded off, a half away from zero. The sign stays, even when
only a zero is left. -/
def shiftDown (decimal : Decimal) (exponent : Nat) : Except DecimalFault Decimal :=
  let excess := decimal.scale + exponent - maxScale
  let mantissa := roundHalfUp decimal.mantissa (Nat.pow 10 excess)
  match ofParts? decimal.negative mantissa (decimal.scale + exponent - excess) with
  | some shifted => .ok shifted
  | none => .error .tooLarge

/-- The decimal times a power of ten: the scale shrinks, and past zero the mantissa grows. -/
def shiftUp (decimal : Decimal) (exponent : Nat) : Except DecimalFault Decimal :=
  match ofParts? decimal.negative (decimal.mantissa * Nat.pow 10 (exponent - decimal.scale))
      (decimal.scale - exponent) with
  | some shifted => .ok shifted
  | none => .error .tooLarge

/-- The character that introduces an exponent. -/
def isExponentMark (char : Char) : Bool :=
  char == 'e' || char == 'E'

/-- Reads a decimal; the first `e` splits a scientific notation. -/
def read (chars : List Char) : Except DecimalFault Decimal :=
  match chars.dropWhile (!isExponentMark ·) with
  | [] => readPlain chars
  | _ :: exponent => do
      let base ← readPlain (chars.takeWhile (!isExponentMark ·))
      let (negative, exponent) ← readExponent exponent
      if negative then shiftDown base exponent else shiftUp base exponent

end Decimal

end SqlMapper.Number
