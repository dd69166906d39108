import SqlMapper.Error
import SqlMapper.SqlType
import SqlMapper.Text.Basic

/-!
# Columns and their bindings

A column carries the name of its table, and the alias the table is read under, so that the column
alone is enough to write a qualified reference or to find its value in a result row. A binding says
where the column's value lives in an entity.
-/

namespace SqlMapper

/-- The name of a table in its catalog: the number of tables entered before it. -/
structure TableId where
  index : Nat
  deriving DecidableEq, Repr

/-- A path of property names from an entity to a scalar: the entities on the way, then the scalar.
-/
structure PropertyPath where
  steps : List String
  leaf : String
  deriving DecidableEq, Repr

namespace PropertyPath

/-- The property names of the path in order. -/
def names (path : PropertyPath) : List String :=
  path.steps ++ [path.leaf]

/-- The first property name of the path. -/
def head (path : PropertyPath) : String :=
  path.steps.headD path.leaf

/-- The path with these names; there has to be one. -/
def ofNames : List String → Except Error PropertyPath
  | [] => .error (.configuration .emptyPath)
  | name :: rest => .ok (extend name rest)
where
  /-- The path that starts with a name and goes on with others. -/
  extend (name : String) : List String → PropertyPath
    | [] => ⟨[], name⟩
    | next :: rest =>
        let path := extend next rest
        ⟨name :: path.steps, path.leaf⟩

end PropertyPath

/-- Where a column's value lives in an entity. -/
inductive Binding where
  /-- At the end of a path of properties. -/
  | nested (path : PropertyPath)
  /-- At the primary key of the entity that a property refers to, an entity of the given table. -/
  | reference (property : String) (table : TableId)
  deriving DecidableEq, Repr

namespace Binding

/-- A binding to a scalar property of the entity itself. -/
def property (name : String) : Binding :=
  .nested ⟨[], name⟩

/-- The property of the entity itself that the binding starts with. -/
def head : Binding → String
  | .nested path => path.head
  | .reference property _ => property

end Binding

/-- A column of a table or a query. -/
structure Column where
  table : String
  aliasName : Option String := none
  name : String
  label : Option String := none
  type : SqlType
  binding : Option Binding := none
  deriving DecidableEq, Repr

namespace Column

/-- The name that a query refers to the column's table by: the alias, or else the table's name. -/
def tableReference (column : Column) : String :=
  column.aliasName.getD column.table

/-- The label a result reports for the column: its own, or its table reference and its name. -/
def effectiveLabel (column : Column) : String :=
  column.label.getD s!"{column.tableReference}_{column.name}"

/-- The column's binding, which it has to have. -/
def requireBinding (column : Column) : Except Error Binding :=
  match column.binding with
  | some binding => .ok binding
  | none => .error (.configuration (.unbound column.table column.name))

/-- The column with a binding, which it must not have yet. -/
def bind (column : Column) (binding : Binding) : Except Error Column :=
  match column.binding with
  | none => .ok { column with binding := some binding }
  | some _ => .error (.configuration (.alreadyBound column.table column.name))

/-- The name is the column's table or its alias, in any case. -/
def belongsTo (column : Column) (table : String) : Bool :=
  Text.sameName column.table table || column.aliasName.any (Text.sameName · table)

end Column

end SqlMapper
