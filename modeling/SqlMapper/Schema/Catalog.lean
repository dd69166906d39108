import SqlMapper.Schema.Table

/-!
# Catalogs of tables

References between tables go by the tables' numbers in a catalog, so that a table may refer to
itself or to one entered later. A column bound late changes in its own table only; copies made
before keep what they had.

The binding of a column, followed through the primary keys of the tables it refers to, is a route
from an entity to a scalar: any number of references, then a path of nested properties. Where a key
or a binding is missing the route is blocked; the obstacle shows only to those who get that far.
-/

namespace SqlMapper

/-- Tables in the order they were entered. -/
structure Catalog where
  tables : List Table := []
  deriving DecidableEq, Repr

/-- The way from an entity to the scalar a column is bound to. -/
inductive Route where
  /-- Along nested properties. -/
  | nested (path : PropertyPath)
  /-- To the entity of a table that a property refers to, and on to that table's primary key. -/
  | through (property : String) (table : TableId) (rest : Route)
  /-- No further. -/
  | blocked (cause : Error)
  deriving DecidableEq

namespace Catalog

/-- The catalog without tables. -/
def empty : Catalog := {}

/-- Enters a table and names it. -/
def add (catalog : Catalog) (table : Table) : Catalog × TableId :=
  (⟨catalog.tables ++ [table]⟩, ⟨catalog.tables.length⟩)

/-- The table with this number. -/
def table? (catalog : Catalog) (id : TableId) : Option Table :=
  catalog.tables[id.index]?

/-- The table with this number, which the catalog has to hold. -/
def table (catalog : Catalog) (id : TableId) : Except Error Table :=
  match catalog.table? id with
  | some table => .ok table
  | none => .error (.configuration (.tableOutsideCatalog id.index))

/-- Binds a column of a table. -/
def bind (catalog : Catalog) (id : TableId) (column : String) (binding : Binding) :
    Except Error Catalog := do
  let table ← catalog.table id
  let bound ← table.bindColumn column binding
  return ⟨catalog.tables.set id.index bound⟩

/-- The primary-key column of a table, bound. -/
def boundKey (catalog : Catalog) (id : TableId) : Except Error Column := do
  let table ← catalog.table id
  let key ← table.primaryKeyColumn
  let _ ← key.requireBinding
  return key

/-- The route of a column, over at most so many references. -/
def routeWithin (catalog : Catalog) (column : Column) (references : Nat) : Route :=
  match column.binding with
  | none => .blocked (.configuration (.unbound column.table column.name))
  | some (.nested path) => .nested path
  | some (.reference property table) =>
      match catalog.boundKey table with
      | .error cause => .blocked cause
      | .ok key =>
          match references with
          | 0 => .blocked (.configuration .endlessReferences)
          | references + 1 => .through property table (catalog.routeWithin key references)

end Catalog

end SqlMapper
