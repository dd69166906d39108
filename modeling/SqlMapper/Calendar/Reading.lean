import SqlMapper.Calendar.Time
import SqlMapper.Number.Numeral

/-!
# Reading dates and times

A format is a list of parts read from left to right: numbers with a greatest width, exact
characters, optional blanks and an optional fraction of a second. A number may have blanks before
it; the whole text has to be used up. Of several formats the first that fits is taken.
-/

namespace SqlMapper.Calendar

open Number (digitValue? isDigit valueOfDigits)

/-- A number in a date or a time. -/
inductive Field where
  | year
  | month
  | day
  | hour
  | minute
  | second
  deriving DecidableEq, Repr

/-- A part of a format. -/
inductive Part where
  | field (field : Field)
  | literal (char : Char)
  /-- Any number of blanks, none included. -/
  | blanks
  /-- A point with digits behind it, or nothing. -/
  | fraction
  deriving DecidableEq, Repr

/-- The numbers read so far; what the format leaves out stays zero. -/
structure Reading where
  year : Int := 0
  month : Nat := 0
  day : Nat := 0
  hour : Nat := 0
  minute : Nat := 0
  second : Nat := 0
  nano : Nat := 0
  deriving DecidableEq, Repr

/-- Puts a number into its field. -/
def Reading.set (reading : Reading) (field : Field) (number : Int) : Reading :=
  match field with
  | .year => { reading with year := number }
  | .month => { reading with month := number.toNat }
  | .day => { reading with day := number.toNat }
  | .hour => { reading with hour := number.toNat }
  | .minute => { reading with minute := number.toNat }
  | .second => { reading with second := number.toNat }

/-- Reads one to `width` digits; without a width, as many as there are. -/
def readDigits (width : Option Nat) (chars : List Char) : Option (Nat × List Char) :=
  let run := chars.takeWhile isDigit
  let taken := match width with
    | some width => run.take width
    | none => run
  if taken.isEmpty then none else some (valueOfDigits 0 taken, chars.drop taken.length)

/-- Reads a field behind blanks. A year may carry a sign and then has any number of digits. -/
def readField (field : Field) (chars : List Char) : Option (Int × List Char) :=
  let chars := Text.trimStart chars
  match field, chars with
  | .year, '-' :: rest => (readDigits none rest).map fun (number, rest) => (-(number : Int), rest)
  | .year, '+' :: rest => (readDigits none rest).map fun (number, rest) => ((number : Int), rest)
  | .year, _ => (readDigits (some 4) chars).map fun (number, rest) => ((number : Int), rest)
  | _, _ => (readDigits (some 2) chars).map fun (number, rest) => ((number : Int), rest)

/-- Reads digits behind a point as nanoseconds; digits past the ninth are skipped. -/
def readFraction (chars : List Char) : Option (Nat × List Char) :=
  match chars with
  | '.' :: rest =>
      let run := rest.takeWhile isDigit
      let taken := run.take 9
      if run.isEmpty then none
      else some (valueOfDigits 0 taken * Nat.pow 10 (9 - taken.length), rest.drop run.length)
  | _ => some (0, chars)

/-- Reads one part of a format. -/
def Part.read (part : Part) (reading : Reading) (chars : List Char) :
    Option (Reading × List Char) :=
  match part with
  | .field target =>
      (readField target chars).map fun (number, rest) => (reading.set target number, rest)
  | .literal char =>
      match chars with
      | first :: rest => if first = char then some (reading, rest) else none
      | [] => none
  | .blanks => some (reading, Text.trimStart chars)
  | .fraction => (readFraction chars).map fun (nano, rest) => ({ reading with nano := nano }, rest)

/-- Reads a whole text by a format. -/
def readParts (format : List Part) (reading : Reading) (chars : List Char) : Option Reading :=
  match format with
  | [] => if chars.isEmpty then some reading else none
  | part :: format => do
      let (reading, rest) ← part.read reading chars
      readParts format reading rest

/-- The date that was read. -/
def Reading.date? (reading : Reading) : Option Date :=
  Date.ofParts? reading.year reading.month reading.day

/-- The time that was read; second 60 is a leap second. -/
def Reading.time? (reading : Reading) : Option Time :=
  if reading.second = 60 then
    Time.ofParts? reading.hour reading.minute 59 (nanosPerSecond + reading.nano)
  else Time.ofParts? reading.hour reading.minute reading.second reading.nano

/-- The timestamp that was read. -/
def Reading.timestamp? (reading : Reading) : Option Timestamp := do
  let date ← reading.date?
  let time ← reading.time?
  return ⟨date, time⟩

/-- Year, month and day with hyphens. -/
def dateFormat : List Part :=
  [.field .year, .literal '-', .field .month, .literal '-', .field .day]

/-- Hour and minute. -/
def minuteFormat : List Part :=
  [.field .hour, .literal ':', .field .minute]

/-- Hour, minute and second. -/
def secondFormat : List Part :=
  minuteFormat ++ [.literal ':', .field .second]

/-- The formats of a time: with a fraction, to the second, to the minute. -/
def timeFormats : List (List Part) :=
  [secondFormat ++ [.fraction], secondFormat, minuteFormat]

/-- The formats of a timestamp: date and time with blanks or a `T` between them; to the minute only
with blanks. -/
def timestampFormats : List (List Part) :=
  [ dateFormat ++ .blanks :: secondFormat ++ [.fraction],
    dateFormat ++ .literal 'T' :: secondFormat ++ [.fraction],
    dateFormat ++ .blanks :: secondFormat,
    dateFormat ++ .literal 'T' :: secondFormat,
    dateFormat ++ .blanks :: minuteFormat ]

/-- Reads a time. -/
def Time.read? (chars : List Char) : Option Time :=
  timeFormats.findSome? fun format => (readParts format {} chars).bind Reading.time?

/-- Reads a timestamp. -/
def Timestamp.read? (chars : List Char) : Option Timestamp :=
  timestampFormats.findSome? fun format => (readParts format {} chars).bind Reading.timestamp?

/-- Reads a date, or the date of a timestamp. -/
def Date.read? (chars : List Char) : Option Date :=
  ((readParts dateFormat {} chars).bind Reading.date?).or
    ((Timestamp.read? chars).map Timestamp.date)

end SqlMapper.Calendar
