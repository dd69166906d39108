import SqlMapper.Text.Basic

/-!
# Reading decimal numerals

Readers shared by integers, reals, decimals and dates: runs of ASCII digits, and integers within
bounds. An integer is read digit by digit, so of two faults the one further left is reported.
-/

namespace SqlMapper.Number

/-- The value of an ASCII decimal digit. -/
def digitValue? (char : Char) : Option Nat :=
  if '0' ≤ char ∧ char ≤ '9' then some (char.toNat - '0'.toNat) else none

/-- The character is an ASCII decimal digit. -/
def isDigit (char : Char) : Bool :=
  (digitValue? char).isSome

/-- The value of a run of digits read after a value; characters that are no digits count as zero. -/
def valueOfDigits (start : Nat) (chars : List Char) : Nat :=
  chars.foldl (fun value char => value * 10 + (digitValue? char).getD 0) start

/-- The longest run of digits at the start, and the rest. -/
def spanDigits (chars : List Char) : List Char × List Char :=
  (chars.takeWhile isDigit, chars.dropWhile isDigit)

/-- Why a text is no integer within its bounds. -/
inductive IntegerFault where
  /-- There is nothing to read. -/
  | empty
  /-- A character is no digit, or a sign stands alone. -/
  | invalidDigit
  /-- The number is above the greatest allowed one. -/
  | tooLarge
  /-- The number is below the least allowed one. -/
  | tooSmall
  deriving DecidableEq, Repr

/-- The fault's wording. -/
def IntegerFault.message : IntegerFault → String
  | .empty => "cannot parse integer from empty string"
  | .invalidDigit => "invalid digit found in string"
  | .tooLarge => "number too large to fit in target type"
  | .tooSmall => "number too small to fit in target type"

/-- Reads digits behind a value; the first digit that takes it past the bound is the given fault. -/
def readBounded (bound : Nat) (overflow : IntegerFault) (value : Nat) :
    List Char → Except IntegerFault Nat
  | [] => .ok value
  | char :: rest =>
      match digitValue? char with
      | none => .error .invalidDigit
      | some digit =>
          if value * 10 + digit ≤ bound then readBounded bound overflow (value * 10 + digit) rest
          else .error overflow

/-- Reads at least one digit. -/
def readMagnitude (bound : Nat) (overflow : IntegerFault) : List Char → Except IntegerFault Nat
  | [] => .error .invalidDigit
  | chars => readBounded bound overflow 0 chars

/-- Reads an integer from the least to the greatest one given, after an optional sign. -/
def readInteger (least greatest : Int) : List Char → Except IntegerFault Int
  | [] => .error .empty
  | '-' :: rest => do
      let magnitude ← readMagnitude (-least).toNat .tooSmall rest
      return -(magnitude : Int)
  | '+' :: rest => do
      let magnitude ← readMagnitude greatest.toNat .tooLarge rest
      return (magnitude : Int)
  | chars => do
      let magnitude ← readMagnitude greatest.toNat .tooLarge chars
      return (magnitude : Int)

/-- Reads a natural number up to the bound after an optional plus sign. -/
def readNatural (bound : Nat) : List Char → Except IntegerFault Nat
  | [] => .error .empty
  | '+' :: rest => readMagnitude bound .tooLarge rest
  | chars => readMagnitude bound .tooLarge chars

end SqlMapper.Number
