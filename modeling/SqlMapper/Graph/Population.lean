import SqlMapper.Graph.ColumnAccess
import SqlMapper.Rows.Lookup

/-!
# Between rows, entities and inserts

A row fills a new entity of a table: every bound column that the row has is written, except that a
reference column with NULL leaves its reference unset. The values of an entity in turn make an
`INSERT` of one row.
-/

namespace SqlMapper

namespace EntityGraph

/-- What a row has for a column of an entity: nothing for an unbound or a missing column, nor for a
reference column with NULL. -/
def populationValue (row : Row) (column : Column) : Except Error (Option Value) :=
  match column.binding with
  | none => .ok none
  | some binding =>
      if !row.hasColumn column then .ok none
      else do
        match ← row.get column, binding with
        | some .null, .reference .. => return none
        | value, _ => return value

/-- Fills an entity from a row, column by column. -/
def fill (graph : EntityGraph) (catalog : Catalog) (entity : EntityId) (row : Row) :
    List Column → Outcome Unit
  | [] => ⟨graph, .ok ()⟩
  | column :: rest =>
      match populationValue row column with
      | .error error => ⟨graph, .error error⟩
      | .ok none => graph.fill catalog entity row rest
      | .ok (some value) =>
          (graph.writeColumn catalog entity column value true).andThen fun graph _ =>
            graph.fill catalog entity row rest

/-- Creates an entity of a table and fills it from a row. What was created before a failure stays.
-/
def populate (graph : EntityGraph) (catalog : Catalog) (table : TableId) (row : Row) :
    Outcome EntityId :=
  match catalog.table table with
  | .error error => ⟨graph, .error error⟩
  | .ok described =>
      let (graph, entity) := graph.create (some table)
      (graph.fill catalog entity row described.columns).andThen fun graph _ => ⟨graph, .ok entity⟩

end EntityGraph

/-- The `INSERT` of the values that an entity has for the bound columns of a table. -/
def Insert.ofEntity (graph : EntityGraph) (catalog : Catalog) (entity : EntityId) (table : Table) :
    Except Error Insert := do
  let values ← graph.columnValues catalog entity table
  return {
    table
    columns := values.map Prod.fst
    rows := [values.map fun (column, value) => .typed value column.type] }

end SqlMapper
