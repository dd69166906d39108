import SqlMapper.Schema.Column

/-!
# Tables

A table is a name, perhaps an alias, ordered columns, and perhaps the name of a primary key. Every
column that enters a table takes over the table's name and alias; an aliased copy renews the alias
of each column.
-/

namespace SqlMapper

/-- A table or an aliased copy of one. -/
structure Table where
  name : String
  aliasName : Option String := none
  columns : List Column := []
  primaryKey : Option String := none
  deriving DecidableEq, Repr

namespace Table

/-- A table without columns. -/
def named (name : String) : Table :=
  { name }

/-- The column as a column of this table. -/
def home (table : Table) (column : Column) : Column :=
  { column with table := table.name, aliasName := table.aliasName }

/-- Adds a column at the end, as a column of this table. -/
def addColumn (table : Table) (column : Column) : Table :=
  { table with columns := table.columns ++ [table.home column] }

/-- Adds a column without a binding. -/
def column (table : Table) (name : String) (type : SqlType) : Table :=
  table.addColumn { table := table.name, name, type }

/-- Adds a column with a binding. -/
def boundColumn (table : Table) (name : String) (type : SqlType) (binding : Binding) : Table :=
  table.addColumn { table := table.name, name, type, binding := some binding }

/-- Declares the primary key by name; the name is looked up when the key is needed. -/
def withPrimaryKey (table : Table) (column : String) : Table :=
  { table with primaryKey := some column }

/-- A copy of the table that queries refer to by an alias. -/
def aliased (table : Table) (name : String) : Table :=
  { table with
    aliasName := some name
    columns := table.columns.map fun column => { column with aliasName := some name } }

/-- The name that a query refers to the table by. -/
def referenceName (table : Table) : String :=
  table.aliasName.getD table.name

/-- The first column with this name, in any case. -/
def find? (table : Table) (name : String) : Option Column :=
  table.columns.find? fun column => Text.sameName column.name name

/-- The column with this name, which the table has to have. -/
def require (table : Table) (name : String) : Except Error Column :=
  match table.find? name with
  | some column => .ok column
  | none => .error (.configuration (.missingColumn table.name name))

/-- The primary-key column, which has to be declared and to exist. -/
def primaryKeyColumn (table : Table) : Except Error Column :=
  match table.primaryKey with
  | none => .error (.configuration (.noPrimaryKey table.name))
  | some key =>
      match table.find? key with
      | some column => .ok column
      | none => .error (.configuration (.keyIsNoColumn key table.name))

/-- The binding of the primary-key column. -/
def primaryKeyBinding (table : Table) : Except Error Binding := do
  let column ← table.primaryKeyColumn
  column.requireBinding

/-- The columns with the first one of this name replaced. -/
def replaceFirst (name : String) (replacement : Column) : List Column → List Column
  | [] => []
  | column :: rest =>
      if Text.sameName column.name name then replacement :: rest
      else column :: replaceFirst name replacement rest

/-- Binds the column with this name. -/
def bindColumn (table : Table) (name : String) (binding : Binding) : Except Error Table := do
  let column ← table.require name
  let bound ← column.bind binding
  return { table with columns := replaceFirst name bound table.columns }

end Table

end SqlMapper
