import SqlMapper.Calendar.Reading
import SqlMapper.Number.RealText
import SqlMapper.Text.Hex

/-!
# Numbers and moments in data files

Digits may be grouped by single underscores. Integers are decimal, without zeros in front, or
hexadecimal, octal or binary without a sign, and fit in 128 bits; floats have a fraction or an
exponent and do not overflow. A moment is a date, a time of day, or both with a letter or a space
between them and perhaps an offset from universal time. A time of day may leave out its seconds, and
only a time with seconds may have a fraction.
-/

namespace SqlMapper.Toml

open Number (Binary64 digitValue? isDigit spanSign valueOfDigits)
open Calendar (Date Reading Time)

/-- The digits without the single underscores between them. -/
def ungroup? (accepts : Char → Bool) : List Char → Option (List Char)
  | [] => none
  | [digit] => if accepts digit then some [digit] else none
  | digit :: '_' :: rest =>
      if accepts digit then (ungroup? accepts rest).map (digit :: ·) else none
  | digit :: rest =>
      if accepts digit then (ungroup? accepts rest).map (digit :: ·) else none

/-- The digits of a whole decimal number, which does not start with a needless zero. -/
def wholeDigits? (chars : List Char) : Option (List Char) := do
  match ← ungroup? isDigit chars with
  | '0' :: _ :: _ => none
  | digits => some digits

/-- The number whose digits in a base are given. -/
def readBase? (base : Nat) (chars : List Char) : Option Int := do
  let digits ← ungroup? (fun char => (Text.hexValue? char).any (· < base)) chars
  return ((digits.filterMap Text.hexValue?).foldl (fun total value => total * base + value) 0 : Nat)

/-- Reads an integer of any size. -/
def readInteger? : List Char → Option Int
  | '0' :: 'x' :: rest => readBase? 16 rest
  | '0' :: 'o' :: rest => readBase? 8 rest
  | '0' :: 'b' :: rest => readBase? 2 rest
  | chars => do
      let (negative, body) := spanSign chars
      let magnitude : Int := valueOfDigits 0 (← wholeDigits? body)
      return if negative then -magnitude else magnitude

/-- The integer fits in 128 bits, with or without a sign. -/
def IsWide (number : Int) : Prop :=
  -0x80000000000000000000000000000000 ≤ number ∧ number < 0x100000000000000000000000000000000

instance (number : Int) : Decidable (IsWide number) :=
  inferInstanceAs (Decidable (_ ∧ _))

/-- The exponent of a float from its mark on; nothing at all is zero. -/
def readPower? : List Char → Option Int
  | [] => some 0
  | _ :: rest => do
      let (negative, body) := spanSign rest
      let magnitude : Int := valueOfDigits 0 (← ungroup? isDigit body)
      return if negative then -magnitude else magnitude

/-- The fraction of a float from its point on; nothing at all has no digits. -/
def readFraction? : List Char → Option (List Char)
  | [] => some []
  | _ :: rest => ungroup? isDigit rest

/-- Reads a float with a fraction or an exponent. -/
def readFiniteFloat? (negative : Bool) (body : List Char) : Option Binary64 := do
  let mantissa := body.takeWhile fun char => char != 'e' && char != 'E'
  let power := body.drop mantissa.length
  let whole := mantissa.takeWhile (· != '.')
  let point := mantissa.drop whole.length
  let digits ← wholeDigits? whole
  let fraction ← readFraction? point
  let exponent ← readPower? power
  let number := Number.nearestDecimal negative (valueOfDigits 0 (digits ++ fraction))
    (exponent - fraction.length)
  if (point.isEmpty && power.isEmpty) || number == .infinity negative then none else some number

/-- Reads a float. -/
def readFloat? (chars : List Char) : Option Binary64 :=
  let (negative, body) := spanSign chars
  if body = ['i', 'n', 'f'] then some (.infinity negative)
  else if body = ['n', 'a', 'n'] then some .notANumber
  else readFiniteFloat? negative body

/-- Two digits and what follows them. -/
def twoDigits? : List Char → Option (Nat × List Char)
  | tens :: ones :: rest => do
      let tens ← digitValue? tens
      let ones ← digitValue? ones
      return (tens * 10 + ones, rest)
  | _ => none

/-- Two digits behind a mark. -/
def markedDigits? (mark : Char) : List Char → Option (Nat × List Char)
  | [] => none
  | char :: rest => if char = mark then twoDigits? rest else none

/-- Reads a date: four digits of the year, two of the month and two of the day. -/
def readDate? (chars : List Char) : Option (Date × List Char) := do
  let (century, rest) ← twoDigits? chars
  let (year, rest) ← twoDigits? rest
  let (month, rest) ← markedDigits? '-' rest
  let (day, rest) ← markedDigits? '-' rest
  let date ← Date.ofParts? (century * 100 + year : Nat) month day
  return (date, rest)

/-- Reads the seconds of a time from their colon on, and the billionths behind them; without a colon
both are zero. -/
def readSeconds? : List Char → Option ((Nat × Nat) × List Char)
  | ':' :: rest => do
      let (second, rest) ← twoDigits? rest
      let (nano, rest) ← Calendar.readFraction rest
      return ((second, nano), rest)
  | chars => some ((0, 0), chars)

/-- Reads a time of day: an hour and a minute, perhaps with seconds and their fraction. -/
def readTime? (chars : List Char) : Option (Time × List Char) := do
  let (hour, rest) ← twoDigits? chars
  let (minute, rest) ← markedDigits? ':' rest
  let ((second, nano), rest) ← readSeconds? rest
  let reading : Reading := { hour, minute, second, nano }
  let time ← reading.time?
  return (time, rest)

/-- The text is an offset from universal time: none, the letter for zero, or hours and minutes. -/
def isOffset : List Char → Bool
  | [] => true
  | ['Z'] | ['z'] => true
  | sign :: rest =>
      (sign == '+' || sign == '-') &&
        ((twoDigits? rest).any fun (hour, rest) =>
          hour < 24 && (markedDigits? ':' rest).any fun (minute, rest) =>
            minute < 60 && rest.isEmpty)

/-- The text is a date, a time of day, or both. -/
def isMoment (chars : List Char) : Bool :=
  match readDate? chars with
  | none => (readTime? chars).any fun (_, rest) => rest.isEmpty
  | some (_, []) => true
  | some (_, mark :: rest) =>
      (mark == 'T' || mark == 't' || mark == ' ') &&
        (readTime? rest).any fun (_, rest) => isOffset rest

/-- The character may stand in a number, a moment or a word. -/
def isScalarChar (char : Char) : Bool :=
  char.isAlphanum || char == '+' || char == '-' || char == '.' || char == '_' || char == ':'

/-- The characters of the number, moment or word that a text starts with, and the rest. A time may
follow its date behind a space. -/
def spanScalar (chars : List Char) : List Char × List Char :=
  let word := chars.takeWhile isScalarChar
  let rest := chars.drop word.length
  match rest with
  | ' ' :: digit :: _ =>
      if isDigit digit && (readDate? word).any fun (_, rest) => rest.isEmpty then
        let time := (rest.drop 1).takeWhile isScalarChar
        (word ++ ' ' :: time, rest.drop (time.length + 1))
      else (word, rest)
  | _ => (word, rest)

end SqlMapper.Toml
