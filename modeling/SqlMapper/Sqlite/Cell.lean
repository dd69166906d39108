import SqlMapper.Value.Basic

/-!
# SQLite cells

SQLite has five storage classes. A value of a kind that is none of them is stored as an integer or
as its text. A text in SQLite is bytes; those that are not UTF-8 are read as a BLOB.
-/

namespace SqlMapper

/-- What SQLite stores for a value. -/
inductive Cell where
  | null
  | integer (number : Int64)
  | real (number : Number.Binary64)
  | text (bytes : List UInt8)
  | blob (bytes : List UInt8)
  deriving DecidableEq

namespace Cell

/-- The cell of a text. -/
def ofText (content : String) : Cell :=
  .text (Text.Utf8.encode content)

/-- The cell that a value is bound as. -/
def ofValue : Value → Cell
  | .null => .null
  | .boolean flag => .integer (if flag then 1 else 0)
  | .integer number => .integer number
  | .real number => .real number
  | .text content => ofText content
  | .blob bytes => .blob bytes
  | value => ofText value.display

/-- The value that a cell is read as. -/
def toValue : Cell → Value
  | .null => .null
  | .integer number => .integer number
  | .real number => .real number
  | .text bytes =>
      match Text.Utf8.decode bytes with
      | .ok content => .text content
      | .error _ => .blob bytes
  | .blob bytes => .blob bytes

/-- What a column without a declared type keeps of a bound cell: all but what is not a number, which
becomes NULL. -/
def stored : Cell → Cell
  | .real number => if number.isNaN then .null else .real number
  | cell => cell

end Cell

end SqlMapper
