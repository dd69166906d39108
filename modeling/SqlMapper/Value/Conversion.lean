import SqlMapper.Calendar.Reading
import SqlMapper.Number.DecimalReal
import SqlMapper.Value.Basic
import SqlMapper.Value.ConversionFault

/-!
# Conversions of values

A value converts to a target when a database may plausibly hand it back for that target: an INTEGER
for a truth value, a TEXT for a decimal. NULL converts to none of them.
-/

namespace SqlMapper

open Number Calendar

/-- The least 64-bit integer. -/
def leastInteger : Int := Int64.minValue.toInt

/-- The greatest 64-bit integer. -/
def greatestInteger : Int := Int64.maxValue.toInt

/-- The integer moved to the nearest 64-bit one. -/
def clampInteger (number : Int) : Int64 :=
  Int64.ofInt (max leastInteger (min number greatestInteger))

theorem natAbs_toInt_lt (number : Int64) : number.toInt.natAbs < Decimal.mantissaBound := by
  have lower := number.le_toInt
  have upper := number.toInt_lt
  simp only [Decimal.mantissaBound]
  omega

namespace Value

/-- The fault of a value whose kind does not convert to a target. -/
def mismatch {α : Type} (value : Value) (target : Target) : Except ConversionFault α :=
  .error (.mismatch value.kind target)

/-- The characters of a text without blanks at its ends. -/
def trimmed (text : String) : List Char :=
  Text.trim text.toList

/-- The value's text; the bytes of a BLOB must be UTF-8. -/
def toText (value : Value) : Except ConversionFault String :=
  match value with
  | null => value.mismatch .text
  | text content => .ok content
  | blob bytes => (Text.Utf8.decode bytes).mapError .notUtf8
  | _ => .ok value.display

/-- The value as a 64-bit integer: a real must be whole and is moved into range, a decimal loses its
fraction. -/
def toInteger (value : Value) : Except ConversionFault Int64 :=
  match value with
  | integer number => .ok number
  | boolean flag => .ok (if flag then 1 else 0)
  | real number =>
      match number.toInt? with
      | some whole => .ok (clampInteger whole)
      | none => value.mismatch .integer
  | decimal number =>
      let whole := number.truncate
      if leastInteger ≤ whole ∧ whole ≤ greatestInteger then .ok (Int64.ofInt whole)
      else .error (.decimalOutOfRange number)
  | text content =>
      match readInteger leastInteger greatestInteger (trimmed content) with
      | .ok whole => .ok (Int64.ofInt whole)
      | .error fault => .error (.invalidInteger content fault)
  | _ => value.mismatch .integer

/-- The value as a 32-bit integer, by way of a 64-bit one. -/
def toInteger32 (value : Value) : Except ConversionFault Int32 := do
  let wide ← value.toInteger
  if Int32.maxValue.toInt < wide.toInt then throw (.narrow .tooLarge)
  if wide.toInt < Int32.minValue.toInt then throw (.narrow .tooSmall)
  return Int32.ofInt wide.toInt

/-- The value as a binary number. -/
def toReal (value : Value) : Except ConversionFault Binary64 :=
  match value with
  | real number => .ok number
  | integer number => .ok (.ofInt number.toInt)
  | decimal number => .ok number.toReal
  | text content => (Binary64.read (trimmed content)).mapError (.invalidReal content)
  | _ => value.mismatch .real

/-- The value as a truth value: an integer is true unless it is zero, and the words for the truth
values may be in any case but not among blanks. -/
def toBoolean (value : Value) : Except ConversionFault Bool :=
  match value with
  | boolean flag => .ok flag
  | integer number => .ok (number != 0)
  | text content =>
      if Text.sameName content "true" || content == "1" then .ok true
      else if Text.sameName content "false" || content == "0" then .ok false
      else value.mismatch .boolean
  | _ => value.mismatch .boolean

/-- The value as a decimal. -/
def toDecimal (value : Value) : Except ConversionFault Decimal :=
  match value with
  | decimal number => .ok number
  | integer number => .ok (.ofInt number.toInt (natAbs_toInt_lt number))
  | real number =>
      match Decimal.ofReal? number with
      | some nearby => .ok nearby
      | none => .error .realOutOfRange
  | text content => (Decimal.read (trimmed content)).mapError (.invalidDecimal content)
  | _ => value.mismatch .decimal

/-- The bytes of a BLOB or of a text's encoding. -/
def toBytes (value : Value) : Except ConversionFault (List UInt8) :=
  match value with
  | blob bytes => .ok bytes
  | text content => .ok (Text.Utf8.encode content)
  | _ => value.mismatch .bytes

/-- The value as a date; a timestamp loses its time. -/
def toDate (value : Value) : Except ConversionFault Date :=
  match value with
  | date day => .ok day
  | timestamp instant => .ok instant.date
  | text content =>
      match Date.read? (trimmed content) with
      | some day => .ok day
      | none => .error (.invalidDate content)
  | _ => value.mismatch .date

/-- The value as a time of day; a timestamp loses its date. -/
def toTime (value : Value) : Except ConversionFault Time :=
  match value with
  | time moment => .ok moment
  | timestamp instant => .ok instant.time
  | text content =>
      match Time.read? (trimmed content) with
      | some moment => .ok moment
      | none => .error (.invalidTime content)
  | _ => value.mismatch .time

/-- The value as a timestamp: a date starts at midnight, an integer counts seconds from 1970 on. -/
def toTimestamp (value : Value) : Except ConversionFault Timestamp :=
  match value with
  | timestamp instant => .ok instant
  | date day => .ok ⟨day, .midnight⟩
  | integer seconds =>
      match Timestamp.ofEpochSeconds? seconds.toInt with
      | some instant => .ok instant
      | none => .error (.secondsOutOfRange seconds.toInt)
  | text content =>
      match Timestamp.read? (trimmed content) with
      | some instant => .ok instant
      | none => .error (.invalidTimestamp content)
  | _ => value.mismatch .timestamp

/-- The value as an identifier: its text, or sixteen bytes. -/
def toUuid (value : Value) : Except ConversionFault Uuid :=
  match value with
  | uuid identifier => .ok identifier
  | text content =>
      match Uuid.read? content.toList with
      | some identifier => .ok identifier
      | none => .error .invalidUuid
  | blob bytes =>
      match Uuid.ofBytes? bytes with
      | some identifier => .ok identifier
      | none => .error .invalidUuid
  | _ => value.mismatch .uuid

/-- A conversion under which NULL is absent. -/
def optional {α : Type} (convert : Value → Except ConversionFault α) (value : Value) :
    Except ConversionFault (Option α) :=
  match value with
  | null => .ok none
  | _ => (convert value).map some

end Value

end SqlMapper
