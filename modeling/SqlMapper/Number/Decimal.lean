import SqlMapper.Number.Basic

/-!
# Exact decimal numbers

A decimal is a sign, a mantissa of at most 96 bits and a scale of at most 28 digits behind the
point. Equal numbers may differ in scale, and a zero may carry a sign; the text shows both.
-/

namespace SqlMapper.Number

/-- The number of mantissas, of 96 bits each. -/
def Decimal.mantissaBound : Nat := 0x1000000000000000000000000

/-- The decimal `± mantissa / 10 ^ scale`. -/
structure Decimal where
  negative : Bool
  mantissa : Nat
  scale : Nat
  mantissa_lt : mantissa < Decimal.mantissaBound
  scale_le : scale ≤ 28
  deriving DecidableEq

namespace Decimal

/-- The greatest scale. -/
def maxScale : Nat := 28

/-- The decimal with these parts, if they are within their bounds. -/
def ofParts? (negative : Bool) (mantissa scale : Nat) : Option Decimal :=
  if within : mantissa < mantissaBound ∧ scale ≤ 28 then
    some ⟨negative, mantissa, scale, within.1, within.2⟩
  else none

/-- The decimal's text: every digit of its scale, and the sign even of a zero. -/
def text (decimal : Decimal) : List Char :=
  signText decimal.negative ++ positional decimal.mantissa decimal.scale

/-- The integer part, toward zero. -/
def truncate (decimal : Decimal) : Int :=
  let whole : Int := (decimal.mantissa / Nat.pow 10 decimal.scale : Nat)
  if decimal.negative then -whole else whole

/-- An integer whose magnitude fits the mantissa, as a decimal of scale zero. -/
def ofInt (number : Int) (small : number.natAbs < mantissaBound) : Decimal :=
  ⟨decide (number < 0), number.natAbs, 0, small, Nat.zero_le _⟩

/-- The signed mantissa. -/
def signedMantissa (decimal : Decimal) : Int :=
  if decimal.negative then -decimal.mantissa else decimal.mantissa

/-- The decimals denote the same number, whatever their scales. -/
def equals (left right : Decimal) : Bool :=
  left.signedMantissa * Nat.pow 10 right.scale == right.signedMantissa * Nat.pow 10 left.scale

@[simp]
theorem equals_refl (decimal : Decimal) : decimal.equals decimal = true := by
  simp [equals]

end Decimal

end SqlMapper.Number
