import SqlMapper.Text.Basic

/-!
# Semantic types

A semantic type says what a column means, not how a database stores it. Declared types of several
databases are read as semantic types; a length or precision in parentheses is ignored.
-/

namespace SqlMapper

/-- What a column or an argument means. -/
inductive SqlType where
  | text
  | integer
  | real
  | decimal
  | boolean
  | date
  | time
  | timestamp
  | blob
  | uuid
  /-- No constraint: values pass unchanged. -/
  | any
  deriving DecidableEq, Repr, Inhabited

namespace SqlType

/-- Every type. -/
def all : List SqlType :=
  [.text, .integer, .real, .decimal, .boolean, .date, .time, .timestamp, .blob, .uuid, .any]

/-- The type's canonical name. -/
def name : SqlType → String
  | .text => "TEXT"
  | .integer => "INTEGER"
  | .real => "REAL"
  | .decimal => "DECIMAL"
  | .boolean => "BOOLEAN"
  | .date => "DATE"
  | .time => "TIME"
  | .timestamp => "TIMESTAMP"
  | .blob => "BLOB"
  | .uuid => "UUID"
  | .any => "ANY"

/-- The name under which a type is stored in a data file. -/
def storedName : SqlType → String
  | .text => "text"
  | .integer => "integer"
  | .real => "real"
  | .decimal => "decimal"
  | .boolean => "boolean"
  | .date => "date"
  | .time => "time"
  | .timestamp => "timestamp"
  | .blob => "blob"
  | .uuid => "uuid"
  | .any => "any"

/-- The spellings of a declared type, lowercase. -/
def spellings : SqlType → List String
  | .text => ["text", "varchar", "char", "character varying", "string", "clob"]
  | .integer => ["integer", "int", "bigint", "smallint", "tinyint", "int8", "int4"]
  | .real => ["real", "double", "double precision", "float", "float8"]
  | .decimal => ["decimal", "numeric", "money"]
  | .boolean => ["boolean", "bool", "bit"]
  | .date => ["date"]
  | .time => ["time"]
  | .timestamp => ["timestamp", "datetime", "datetime2"]
  | .blob => ["blob", "bytea", "binary", "varbinary"]
  | .uuid => ["uuid", "uniqueidentifier"]
  | .any => ["any", ""]

/-- Reads a declared type in any case. -/
def ofDeclared? (declared : String) : Option SqlType :=
  let base := String.ofList (Text.trim (declared.toList.takeWhile (· != '(')))
  all.find? fun type => type.spellings.any (Text.sameName base)

/-- Reads the name a type is stored under, which is exact. -/
def ofStoredName? (stored : String) : Option SqlType :=
  all.find? fun type => type.storedName == stored

/-- The complaint about a declared type that is none. -/
def unknownMessage : String := "unknown column type"

end SqlType

end SqlMapper
