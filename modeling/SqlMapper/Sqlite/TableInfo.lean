import SqlMapper.Schema.Table

/-!
# Tables of a SQLite database

A database knows the columns of its tables with the types they were declared with. Loading a table
binds each column to the property of the same name; a primary key of one column is recorded.
-/

namespace SqlMapper

/-- What a database knows about a column. -/
structure ColumnInfo where
  name : String
  /-- The type as declared, perhaps empty. -/
  declared : String
  /-- The column is part of the primary key. -/
  isKey : Bool
  deriving DecidableEq, Repr

/-- What a database knows about a table. -/
structure TableInfo where
  name : String
  columns : List ColumnInfo
  deriving DecidableEq, Repr

namespace ColumnInfo

/-- The semantic type of the declared one. -/
def type (info : ColumnInfo) : SqlType :=
  (SqlType.ofDeclared? info.declared).getD .any

/-- The column bound to the property of its name. -/
def column (info : ColumnInfo) : Column :=
  { table := "", name := info.name, type := info.type, binding := some (.property info.name) }

end ColumnInfo

namespace TableInfo

/-- Names no two of which are the same in any case. -/
def namesDiffer : List String → Bool
  | [] => true
  | name :: rest => !rest.any (Text.sameName name) && namesDiffer rest

/-- A database can hold the table: it has columns, and no two of one name. -/
def isCreatable (info : TableInfo) : Bool :=
  !info.columns.isEmpty && namesDiffer (info.columns.map ColumnInfo.name)

/-- The key of a table whose primary key is one column. -/
def soleKey? (columns : List ColumnInfo) : Option String :=
  match columns.filter ColumnInfo.isKey with
  | [key] => some key.name
  | _ => none

/-- The table with these columns. -/
def describe (name : String) (columns : List ColumnInfo) : Table :=
  { (columns.foldl (fun table info => table.addColumn info.column) (Table.named name)) with
    primaryKey := soleKey? columns }

/-- Loads a table of a database by its name in any case; the table takes the name as given. -/
def load (database : List TableInfo) (name : String) : Except Error Table :=
  match database.find? fun info => Text.sameName info.name name with
  | some info => .ok (describe name info.columns)
  | none => .error (.configuration (.missingTable name))

end TableInfo

end SqlMapper
