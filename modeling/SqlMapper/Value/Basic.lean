import SqlMapper.Calendar.Time
import SqlMapper.Number.Decimal
import SqlMapper.Number.Shortest
import SqlMapper.SqlType
import SqlMapper.Text.Utf8
import SqlMapper.Uuid

/-!
# Database values

One representation of a value serves arguments, result rows and entity properties. Every value has a
kind, the semantic type it is inferred to have, and a text.
-/

namespace SqlMapper

open Number Calendar

/-- A database value. -/
inductive Value where
  | null
  | boolean (flag : Bool)
  | integer (number : Int64)
  | real (number : Binary64)
  | decimal (number : Decimal)
  | text (content : String)
  | blob (bytes : List UInt8)
  | date (day : Date)
  | time (moment : Time)
  | timestamp (instant : Timestamp)
  | uuid (identifier : Uuid)
  deriving DecidableEq

namespace Value

instance : Inhabited Value := ⟨null⟩

/-- The value is NULL. -/
def isNull : Value → Bool
  | null => true
  | _ => false

/-- The semantic type inferred for a value; NULL has any type. -/
def type : Value → SqlType
  | null => .any
  | boolean _ => .boolean
  | integer _ => .integer
  | real _ => .real
  | decimal _ => .decimal
  | text _ => .text
  | blob _ => .blob
  | date _ => .date
  | time _ => .time
  | timestamp _ => .timestamp
  | uuid _ => .uuid

/-- The name of a value's kind in messages. -/
def kind : Value → String
  | null => "NULL"
  | value => value.type.name

/-- The integer an INTEGER holds. -/
def integer? : Value → Option Int64
  | integer number => some number
  | _ => none

/-- The number a REAL holds. -/
def real? : Value → Option Binary64
  | real number => some number
  | _ => none

/-- The text a TEXT holds. -/
def text? : Value → Option String
  | text content => some content
  | _ => none

/-- The bytes a BLOB holds. -/
def blob? : Value → Option (List UInt8)
  | blob bytes => some bytes
  | _ => none

/-- The text of a value; NULL has none, and the bytes of a BLOB are read as UTF-8 with replacement
characters for their faults. -/
def display : Value → String
  | null => ""
  | boolean flag => if flag then "true" else "false"
  | integer number => String.ofList (integerText number.toInt)
  | real number => String.ofList number.text
  | decimal number => String.ofList number.text
  | text content => content
  | blob bytes => Text.Utf8.decodeLossy bytes
  | date day => String.ofList day.text
  | time moment => String.ofList moment.text
  | timestamp instant => String.ofList instant.text
  | uuid identifier => String.ofList identifier.text

/-- Equality of values: of one kind, reals and decimals by the number they denote. -/
def equals : Value → Value → Bool
  | real left, real right => left.equals right
  | decimal left, decimal right => left.equals right
  | left, right => left == right

end Value

/-- An argument of a statement: a value and the semantic type that encodes it. -/
structure Argument where
  value : Value
  type : SqlType
  deriving DecidableEq

/-- An argument typed by its value. -/
def Argument.inferred (value : Value) : Argument :=
  ⟨value, value.type⟩

end SqlMapper
