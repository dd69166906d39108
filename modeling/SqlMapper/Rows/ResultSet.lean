import SqlMapper.Error
import SqlMapper.Statement.Builder
import SqlMapper.Value.Basic

/-!
# Result sets

A result is read into memory as a whole: the description of its columns and rows that are all as
wide as the description. A result set adds the mode in which a column is looked up: by label if the
query declared its select list, by name and table if it selected every column. A cursor goes through
a result set from before its first row to behind its last, where it stays.
-/

namespace SqlMapper

/-- The description of a result column. -/
structure ResultColumn where
  label : String
  name : String
  /-- The table the column was read from, where it is known. -/
  table : Option String := none
  deriving DecidableEq, Repr

/-- A result column whose label is its name. -/
def ResultColumn.named (name : String) : ResultColumn :=
  { label := name, name }

/-- A result in memory. -/
structure BufferedRows where
  columns : List ResultColumn
  rows : List (List Value)
  length_row : ∀ row ∈ rows, row.length = columns.length

namespace BufferedRows

/-- Checks the width of rows, numbered from an index on. -/
def checkWidths (width index : Nat) : List (List Value) → Except Error Unit
  | [] => .ok ()
  | row :: rest =>
      if row.length = width then checkWidths width (index + 1) rest
      else .error (.execution (.rowWidth index row.length width))

theorem length_of_checkWidths {width index : Nat} {rows : List (List Value)}
    (checked : checkWidths width index rows = .ok ()) : ∀ row ∈ rows, row.length = width := by
  induction rows generalizing index with
  | nil => simp
  | cons row rest ih =>
      simp only [checkWidths] at checked
      split at checked
      next fits => exact List.forall_mem_cons.mpr ⟨fits, ih checked⟩
      next => simp at checked

/-- A result of these columns and rows; every row has to be as wide as the columns. -/
def ofRows (columns : List ResultColumn) (rows : List (List Value)) : Except Error BufferedRows :=
  match checked : checkWidths columns.length 0 rows with
  | .ok () => .ok ⟨columns, rows, length_of_checkWidths checked⟩
  | .error error => .error error

/-- The values of a row. -/
def values? (buffered : BufferedRows) (index : Nat) : Option (List Value) :=
  buffered.rows[index]?

end BufferedRows

/-- How the result column of a column is found. -/
inductive LookupMode where
  /-- By label: the query declared its select list. -/
  | labeled
  /-- By name and table: the query selected every column. -/
  | wildcard
  deriving DecidableEq, Repr

/-- The mode a query calls for. -/
def LookupMode.forSelect (query : Select) : LookupMode :=
  if query.hasProjections then .labeled else .wildcard

/-- A result and the mode to look columns up in. -/
structure ResultSet where
  rows : BufferedRows
  mode : LookupMode

/-- A row of a result set. -/
structure Row where
  set : ResultSet
  index : Nat
  values : List Value
  isRow : set.rows.values? index = some values

namespace ResultSet

/-- The number of rows. -/
def length (set : ResultSet) : Nat :=
  set.rows.rows.length

/-- The row at an index. -/
def row? (set : ResultSet) (index : Nat) : Option Row :=
  match found : set.rows.values? index with
  | some values => some ⟨set, index, values, found⟩
  | none => none

/-- All rows in order. -/
def allRows (set : ResultSet) : List Row :=
  (List.range set.length).filterMap set.row?

end ResultSet

/-- A row is as wide as the description of the columns. -/
theorem Row.length_values (row : Row) : row.values.length = row.set.rows.columns.length :=
  row.set.rows.length_row _ (List.mem_of_getElem? row.isRow)

/-- A position in a result set; without one the cursor is before the first row. -/
structure Cursor where
  set : ResultSet
  position : Option Nat := none

namespace Cursor

/-- A cursor before the first row. -/
def start (set : ResultSet) : Cursor :=
  { set }

/-- Moves to the next row and says whether there is one. -/
def next (cursor : Cursor) : Cursor × Bool :=
  let index := match cursor.position with
    | none => 0
    | some position => position + 1
  if index < cursor.set.length then ({ cursor with position := some index }, true)
  else ({ cursor with position := some cursor.set.length }, false)

/-- The row the cursor is on. -/
def row? (cursor : Cursor) : Option Row :=
  cursor.position.bind cursor.set.row?

end Cursor

end SqlMapper
