import SqlMapper.Number.DecimalText
import SqlMapper.Number.Numeral
import SqlMapper.Number.RealText
import SqlMapper.Text.Quoted
import SqlMapper.Text.Utf8

/-!
# Why a value does not convert

Each fault names its cause; the wording is in one place. A fault of a text quotes the text as it was
given, before blanks are trimmed.
-/

namespace SqlMapper

open Number Text

/-- What a value converts to. -/
inductive Target where
  | text
  | integer
  | real
  | boolean
  | decimal
  | bytes
  | date
  | time
  | timestamp
  | uuid
  deriving DecidableEq, Repr

/-- The name of a target in messages. -/
def Target.name : Target → String
  | .text => "String"
  | .integer => "i64"
  | .real => "f64"
  | .boolean => "bool"
  | .decimal => "Decimal"
  | .bytes => "Vec<u8>"
  | .date => "NaiveDate"
  | .time => "NaiveTime"
  | .timestamp => "NaiveDateTime"
  | .uuid => "Uuid"

/-- Why a value does not convert. -/
inductive ConversionFault where
  /-- No value of this kind converts to the target. -/
  | mismatch (kind : String) (target : Target)
  | notUtf8 (fault : Utf8.Fault)
  | invalidInteger (text : String) (fault : IntegerFault)
  /-- A decimal beyond 64-bit integers. -/
  | decimalOutOfRange (number : Decimal)
  /-- A 64-bit integer beyond a narrower type. -/
  | narrow (fault : IntegerFault)
  | invalidReal (text : String) (fault : RealFault)
  | invalidDecimal (text : String) (fault : DecimalFault)
  /-- A real that no decimal holds. -/
  | realOutOfRange
  | invalidDate (text : String)
  | invalidTime (text : String)
  | invalidTimestamp (text : String)
  /-- Seconds since 1970 that lie outside the calendar. -/
  | secondsOutOfRange (seconds : Int)
  | invalidUuid
  /-- Only a BLOB or a TEXT has bytes to stream. -/
  | notStreamable (kind : String)
  deriving DecidableEq

/-- The fault's wording. -/
def ConversionFault.message : ConversionFault → String
  | .mismatch kind target => s!"cannot convert {kind} to {target.name}"
  | .notUtf8 fault => fault.message
  | .invalidInteger text fault => s!"invalid integer {quoted text}: {fault.message}"
  | .decimalOutOfRange number => s!"decimal {String.ofList number.text} out of range for i64"
  | .narrow fault => fault.message
  | .invalidReal text fault => s!"invalid real {quoted text}: {fault.message}"
  | .invalidDecimal text fault => s!"invalid decimal {quoted text}: {fault.message}"
  | .realOutOfRange => "Error while converting to Decimal"
  | .invalidDate text => s!"invalid date {quoted text}"
  | .invalidTime text => s!"invalid time {quoted text}"
  | .invalidTimestamp text => s!"invalid timestamp {quoted text}"
  | .secondsOutOfRange seconds => s!"timestamp {seconds} out of range"
  | .invalidUuid => "invalid UUID"
  | .notStreamable kind => s!"cannot stream a {kind} value"

end SqlMapper
