import SqlMapper.Rows.ResultSet
import SqlMapper.Sqlite.Cell
import SqlMapper.Statement.Formatter

/-!
# Storing rows in SQLite and reading them back

Rows are inserted into a table whose columns have no declared types, so that each argument is kept
in the storage class it is bound as, and read in the order of insertion by a query of the whole
table. SQLite names a result column by its label, or by the column's name where there is none.

SQLite does not tell which table a result column comes from, but the query does. In a select list it
is the table of a projected column. Without one each source gives its columns in order, up to the
first source that is a query, whose columns are not known.
-/

namespace SqlMapper

namespace Select

/-- The sources of a query in order. -/
def sources (query : Select) : List Source :=
  query.source.toList ++ query.joins.map Join.source

/-- The table of a projection, if it is a column. -/
def projectionTable (projection : Projection) : Option String :=
  match projection.expr with
  | .column column => some column.tableReference
  | _ => none

/-- The tables of the columns that sources give, as far as they are known. -/
def sourceTables : List Source → List (Option String)
  | [] => []
  | .table table :: rest =>
      List.replicate table.columns.length (some table.referenceName) ++ sourceTables rest
  | .query _ _ :: _ => []

/-- The tables of the result columns of a query, as far as they are known. -/
def columnTables (query : Select) : List (Option String) :=
  if query.hasProjections then query.projections.map projectionTable
  else sourceTables query.sources

end Select

/-- The insertion of rows of values into all columns of a table. -/
def Insert.ofRows (table : Table) (rows : List (List Value)) : Insert :=
  rows.foldl Insert.addValues { table, columns := table.columns }

namespace Storage

/-- Compact statements for SQLite. -/
def formatter : Formatter :=
  .forRules Dialect.sqlite.rules

/-- The arguments of the insertion as cells, row by row. -/
def insertRows (table : Table) (rows : List (List Value)) : Except Error (List (List Cell)) := do
  let compiled ← formatter.format (.insert (.ofRows table rows))
  let cells := compiled.arguments.map fun argument => (Cell.ofValue argument.value).stored
  let width := table.columns.length
  return (List.range rows.length).map fun row => (cells.drop (row * width)).take width

/-- The query of a whole table, with or without a select list. -/
def query (table : Table) (listed : Bool) : Select :=
  if listed then (Select.fromTable table).columnsOf table else .fromTable table

/-- The names that SQLite gives to the result columns. -/
def resultNames (table : Table) (listed : Bool) : List String :=
  table.columns.map fun column => if listed then column.effectiveLabel else column.name

/-- The result columns of these names, with the tables where they are known. -/
def resultColumns : List String → List (Option String) → List ResultColumn
  | [], _ => []
  | name :: names, [] => .named name :: resultColumns names []
  | name :: names, table :: tables =>
      { ResultColumn.named name with table } :: resultColumns names tables

/-- Stores rows and reads them back: by a query with or without a select list, told or not told the
tables of its columns. -/
def roundTrip (table : Table) (rows : List (List Value)) (listed told : Bool) :
    Except Error ResultSet := do
  let cells ← insertRows table rows
  let select := query table listed
  let tables := if told then select.columnTables else []
  let columns := resultColumns (resultNames table listed) tables
  let buffered ← BufferedRows.ofRows columns (cells.map fun row => row.map Cell.toValue)
  return { rows := buffered, mode := .forSelect select }

end Storage

end SqlMapper
