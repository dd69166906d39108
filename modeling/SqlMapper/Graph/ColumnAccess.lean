import SqlMapper.Graph.Basic

/-!
# Columns of entities

A column is read and written along its route: through references to the entities of other tables and
down nested properties to a value. A read that meets a missing entity finds nothing; a write creates
the missing ones, and those it created stay when a later step fails.
-/

namespace SqlMapper

namespace EntityGraph

/-- The entity at the end of nested properties. -/
def descend (graph : EntityGraph) (entity : EntityId) :
    List String → Except Error (Option EntityId)
  | [] => .ok (some entity)
  | step :: steps =>
      match graph.child entity step with
      | .error error => .error error
      | .ok none => .ok none
      | .ok (some next) => graph.descend next steps

/-- The entity nested under a property, created if there is none. -/
def ensureNested (graph : EntityGraph) (entity : EntityId) (name : String) (force : Bool) :
    Outcome EntityId :=
  match graph.child entity name with
  | .error error => ⟨graph, .error error⟩
  | .ok (some child) => ⟨graph, .ok child⟩
  | .ok none =>
      match graph.checkWritable entity name force with
      | .error error => ⟨graph, .error error⟩
      | .ok () =>
          (graph.createChild entity).andThen fun graph child =>
            (graph.attachNested entity name child force).andThen fun graph _ => ⟨graph, .ok child⟩

/-- The entity a property refers to, created as an entity of a table if there is none. -/
def ensureReference (graph : EntityGraph) (entity : EntityId) (name : String) (table : TableId)
    (force : Bool) : Outcome EntityId :=
  match graph.child entity name with
  | .error error => ⟨graph, .error error⟩
  | .ok (some target) => ⟨graph, .ok target⟩
  | .ok none =>
      match graph.checkWritable entity name force with
      | .error error => ⟨graph, .error error⟩
      | .ok () =>
          let (graph, target) := graph.create (some table)
          (graph.attachReference entity name target force).andThen fun graph _ =>
            ⟨graph, .ok target⟩

/-- The entity at the end of nested properties, each created if there is none. -/
def ensurePath (graph : EntityGraph) (entity : EntityId) (force : Bool) :
    List String → Outcome EntityId
  | [] => ⟨graph, .ok entity⟩
  | step :: steps =>
      (graph.ensureNested entity step force).andThen fun graph next =>
        graph.ensurePath next force steps

end EntityGraph

namespace Route

/-- The value at the end of the route. -/
def read (graph : EntityGraph) (entity : EntityId) : Route → Except Error (Option Value)
  | .nested path =>
      match graph.descend entity path.steps with
      | .error error => .error error
      | .ok none => .ok none
      | .ok (some last) => graph.value last path.leaf
  | .through property _ rest =>
      match graph.child entity property with
      | .error error => .error error
      | .ok none => .ok none
      | .ok (some target) => rest.read graph target
  | .blocked cause => .error cause

/-- Writes a value at the end of the route. -/
def write (value : Value) (force : Bool) (graph : EntityGraph) (entity : EntityId) :
    Route → Outcome Unit
  | .nested path =>
      (graph.ensurePath entity force path.steps).andThen fun graph last =>
        graph.setValue last path.leaf value force
  | .through property table rest =>
      (graph.ensureReference entity property table force).andThen fun graph target =>
        rest.write value force graph target
  | .blocked cause => ⟨graph, .error cause⟩

end Route

namespace EntityGraph

/-- More references than a walk through the graph takes without coming back to an entity by the same
table's key. -/
def referenceBound (graph : EntityGraph) (catalog : Catalog) : Nat :=
  (graph.slots.length + 1) * (catalog.tables.length + 1)

/-- The route of a column in the graph. -/
def route (graph : EntityGraph) (catalog : Catalog) (column : Column) : Route :=
  catalog.routeWithin column (graph.referenceBound catalog)

/-- The value an entity has for a column; a missing entity on the way is no value. -/
def readColumn (graph : EntityGraph) (catalog : Catalog) (entity : EntityId) (column : Column) :
    Except Error (Option Value) :=
  (graph.route catalog column).read graph entity

/-- Writes a value where an entity has the column. A forced write also changes read-only
properties. -/
def writeColumn (graph : EntityGraph) (catalog : Catalog) (entity : EntityId) (column : Column)
    (value : Value) (force : Bool) : Outcome Unit :=
  (graph.route catalog column).write value force graph entity

/-- The values an entity has for the bound columns among the given ones. -/
def readColumns (graph : EntityGraph) (catalog : Catalog) (entity : EntityId) :
    List Column → Except Error (List (Column × Value))
  | [] => .ok []
  | column :: rest =>
      if column.binding.isNone then graph.readColumns catalog entity rest
      else do
        let value ← graph.readColumn catalog entity column
        let others ← graph.readColumns catalog entity rest
        return match value with
          | some value => (column, value) :: others
          | none => others

/-- The values an entity has for the bound columns of a table. -/
def columnValues (graph : EntityGraph) (catalog : Catalog) (entity : EntityId) (table : Table) :
    Except Error (List (Column × Value)) :=
  graph.readColumns catalog entity table.columns

end EntityGraph

end SqlMapper
