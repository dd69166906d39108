import SqlMapper.Sql.Token
import SqlMapper.Value.ConversionFault

/-!
# Errors

An error names its cause with the data that the cause involves. There are six classes: a schema or a
graph that is not configured as a binding needs it, a column that a result row holds more than once,
a statement that has no rendering, a write to a read-only property, a value that does not convert,
and a result that is not shaped as it says. The wording of every error is in `Error.message`.
-/

namespace SqlMapper

/-- The name of an entity in its graph: the number of entities created before it. -/
structure EntityId where
  index : Nat
  deriving DecidableEq, Repr

/-- The name as messages write it. -/
def EntityId.text (id : EntityId) : String :=
  s!"#{id.index}"

/-- How a schema or an entity graph falls short of what an operation needs. -/
inductive Misconfiguration where
  /-- A nested binding without any property. -/
  | emptyPath
  | alreadyBound (table column : String)
  | unbound (table column : String)
  | missingColumn (table column : String)
  | noPrimaryKey (table : String)
  /-- The name declared as primary key is no column of the table. -/
  | keyIsNoColumn (key table : String)
  | missingTable (table : String)
  /-- A binding refers to a table that the catalog does not hold. -/
  | tableOutsideCatalog (index : Nat)
  /-- A chain of references from primary key to primary key does not end. -/
  | endlessReferences
  | unknownEntity (id : EntityId)
  /-- A property holds an entity where a value is needed. -/
  | holdsEntity (property : String) (id : EntityId)
  /-- A property holds a value where an entity is needed. -/
  | holdsValue (property : String) (id : EntityId)
  | untypedEntity (id : EntityId)
  /-- The parents of an entity form a cycle in which none has a table. -/
  | endlessParents (id : EntityId)
  deriving DecidableEq

/-- The wording of a misconfiguration. -/
def Misconfiguration.message : Misconfiguration → String
  | .emptyPath => "nested binding needs at least one property name"
  | .alreadyBound table column => s!"column {table}.{column} already has a binding"
  | .unbound table column => s!"column {table}.{column} has no binding"
  | .missingColumn table column => s!"table {table} has no column {column}"
  | .noPrimaryKey table => s!"table {table} has no primary key"
  | .keyIsNoColumn key table => s!"primary key {key} is not a column of table {table}"
  | .missingTable table => s!"table {table} does not exist"
  | .tableOutsideCatalog index => s!"no table has number {index}"
  | .endlessReferences => "references between primary keys do not end"
  | .unknownEntity id => s!"unknown entity {id.text}"
  | .holdsEntity property id =>
      s!"property `{property}` of entity {id.text} holds an entity, not a value"
  | .holdsValue property id =>
      s!"property `{property}` of entity {id.text} holds a value, not an entity"
  | .untypedEntity id => s!"entity {id.text} has no table"
  | .endlessParents id => s!"the parents of entity {id.text} do not end"

/-- A statement shape that has no rendering. -/
inductive Unsupported where
  | insertWithoutColumns (table : String)
  | insertWithoutRows (table : String)
  | insertRowWidth (row values columns : Nat)
  | updateWithoutAssignments (table : String)
  | emptyInList
  | crossJoinCondition
  | missingJoinCondition (kind : JoinKind)
  /-- The dialect does not have this kind of join. -/
  | join (dialect : String) (kind : JoinKind)
  /-- The dialect pages ordered queries only. -/
  | unorderedPage (dialect : String)
  /-- The dialect's page clause does not hold two arguments. -/
  | pageArguments (dialect : String) (count : Nat)
  /-- A page bound above the greatest SQL integer. -/
  | bound (name : String) (count : Nat)
  /-- A dialect's own reason to refuse. -/
  | refused (reason : String)
  deriving DecidableEq

/-- The wording of an unsupported shape. -/
def Unsupported.message : Unsupported → String
  | .insertWithoutColumns table => s!"INSERT INTO {table} names no columns"
  | .insertWithoutRows table => s!"INSERT INTO {table} has no rows"
  | .insertRowWidth row values columns =>
      s!"INSERT row {row} has {values} values for {columns} columns"
  | .updateWithoutAssignments table => s!"UPDATE {table} has no assignments"
  | .emptyInList => "IN with an empty list"
  | .crossJoinCondition => "CROSS JOIN does not take an ON condition"
  | .missingJoinCondition kind => s!"{kind.keywords} requires an ON condition"
  | .join dialect kind => s!"{dialect} does not support {kind.keywords}"
  | .unorderedPage dialect => s!"{dialect} pagination requires an ORDER BY clause"
  | .pageArguments dialect count =>
      s!"{dialect} pagination rendered {count} parameters, expected 2"
  | .bound name count => s!"{name} {count} exceeds the largest SQL integer"
  | .refused reason => reason

/-- A result that is not shaped as it says. -/
inductive ExecutionFault where
  | rowWidth (row values columns : Nat)
  | missingLabel (label : String)
  /-- A row has no value at an index. -/
  | outsideRow (index : Nat)
  deriving DecidableEq

/-- The wording of an execution fault. -/
def ExecutionFault.message : ExecutionFault → String
  | .rowWidth row values columns => s!"row {row} has {values} values for {columns} columns"
  | .missingLabel label => s!"result has no column `{label}`"
  | .outsideRow index => s!"row has no value at index {index}"

/-- What can go wrong. -/
inductive Error where
  | configuration (cause : Misconfiguration)
  /-- More than one result column matches a column of a table. -/
  | ambiguousColumn (column table : String) (matching : Nat)
  | unsupported (shape : Unsupported)
  | readOnlyProperty (property : String)
  | conversion (fault : ConversionFault)
  | execution (fault : ExecutionFault)
  deriving DecidableEq

/-- The name of an error's class. -/
def Error.className : Error → String
  | .configuration _ => "Configuration"
  | .ambiguousColumn .. => "AmbiguousColumn"
  | .unsupported _ => "UnsupportedOperation"
  | .readOnlyProperty _ => "ReadOnlyProperty"
  | .conversion _ => "Conversion"
  | .execution _ => "Execution"

/-- The wording of an error. -/
def Error.message : Error → String
  | .configuration cause => s!"Configuration error: {cause.message}"
  | .ambiguousColumn column table matching =>
      s!"Ambiguous column `{column}` (table `{table}`): {matching} result columns match"
  | .unsupported shape => s!"Unsupported operation: {shape.message}"
  | .readOnlyProperty property => s!"Property `{property}` is read-only"
  | .conversion fault => s!"Conversion error: {fault.message}"
  | .execution fault => s!"Execution error: {fault.message}"

end SqlMapper
