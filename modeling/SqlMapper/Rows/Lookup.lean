import SqlMapper.Rows.ResultSet
import SqlMapper.Value.Coercion

/-!
# Looking up columns in a row

A column of a table is found by its effective label, or by its name among the result columns whose
table, where known, is the column's. Reading decodes the value by the column's type. A label is
found among the labels first and then among the names. Names are compared in any case.
-/

namespace SqlMapper

namespace Row

/-- The description of the row's columns. -/
def columns (row : Row) : List ResultColumn :=
  row.set.rows.columns

/-- The value at an index. -/
def valueAt (row : Row) (index : Nat) : Except Error Value :=
  match row.values[index]? with
  | some value => .ok value
  | none => .error (.execution (.outsideRow index))

/-- The index of the first result column with this label. -/
def indexOfLabel? (row : Row) (label : String) : Option Nat :=
  row.columns.findIdx? fun described => Text.sameName described.label label

/-- The result column may be the given column: it has its name, and its table if it tells one. -/
def describes (column : Column) (described : ResultColumn) : Bool :=
  Text.sameName described.name column.name && described.table.all column.belongsTo

/-- The indexes of the result columns that may be the column. -/
def wildcardIndexes (row : Row) (column : Column) : List Nat :=
  (row.columns.zipIdx.filter fun (described, _) => describes column described).map Prod.snd

/-- The index of the column's value. Without a select list, more than one candidate is an error. -/
def indexOf? (row : Row) (column : Column) : Except Error (Option Nat) :=
  match row.set.mode with
  | .labeled => .ok (row.indexOfLabel? column.effectiveLabel)
  | .wildcard =>
      match row.wildcardIndexes column with
      | [] => .ok none
      | [index] => .ok (some index)
      | several =>
          .error (.ambiguousColumn column.name column.tableReference several.length)

/-- The column's value, decoded by its type; nothing if the row does not have the column. -/
def get (row : Row) (column : Column) : Except Error (Option Value) := do
  match ← row.indexOf? column with
  | none => return none
  | some index =>
      let value ← row.valueAt index
      let decoded ← column.type.decode value
      return some decoded

/-- The row has the column, perhaps more than once. -/
def hasColumn (row : Row) (column : Column) : Bool :=
  match row.set.mode with
  | .labeled => (row.indexOfLabel? column.effectiveLabel).isSome
  | .wildcard => !(row.wildcardIndexes column).isEmpty

/-- The index of the first result column with this label, or else with this name. -/
def findColumn? (row : Row) (label : String) : Option Nat :=
  (row.indexOfLabel? label).or
    (row.columns.findIdx? fun described => Text.sameName described.name label)

/-- The raw value under a label. -/
def getValue (row : Row) (label : String) : Except Error Value :=
  match row.findColumn? label with
  | some index => row.valueAt index
  | none => .error (.execution (.missingLabel label))

/-- The value under a label, converted; NULL is absent. -/
def getAs {α : Type} (row : Row) (convert : Value → Except ConversionFault α) (label : String) :
    Except Error (Option α) := do
  let value ← row.getValue label
  (value.optional convert).mapError .conversion

/-- The bytes of a BLOB or a TEXT under a label; NULL is absent. -/
def getStream (row : Row) (label : String) : Except Error (Option (List UInt8)) := do
  match ← row.getValue label with
  | .null => return none
  | .blob bytes => return some bytes
  | .text content => return some (Text.Utf8.encode content)
  | other => throw (.conversion (.notStreamable other.kind))

end Row

end SqlMapper
