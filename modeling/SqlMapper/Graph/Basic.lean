import SqlMapper.Error
import SqlMapper.Schema.Catalog
import SqlMapper.Value.Basic

/-!
# Entity graphs

Entities live in the slots of a graph and refer to each other by number. A property holds a value,
an entity nested in it, or a reference to an entity that stands on its own. A nested entity knows
its parent. An operation that changes the graph answers with the graph it leaves behind, whether it
succeeds or not.
-/

namespace SqlMapper

/-- What a property holds. -/
inductive Property where
  | value (value : Value)
  /-- An entity that belongs to the property's entity and is removed with it. -/
  | nested (entity : EntityId)
  /-- An entity that stands on its own. -/
  | reference (entity : EntityId)
  deriving DecidableEq

/-- The entity a property holds or refers to. -/
def Property.entity? : Property → Option EntityId
  | .value _ => none
  | .nested entity | .reference entity => some entity

/-- An entity: perhaps a table it is a row of, perhaps a parent, and properties, of which some may
be read-only. -/
structure Entity where
  table : Option TableId := none
  parent : Option EntityId := none
  properties : List (String × Property) := []
  readOnly : List String := []
  deriving DecidableEq

namespace Entity

/-- What the entity holds under a name. -/
def property? (entity : Entity) (name : String) : Option Property :=
  entity.properties.lookup name

/-- The name is read-only. -/
def isReadOnly (entity : Entity) (name : String) : Bool :=
  entity.readOnly.contains name

/-- The properties with one of them replaced, or added at the end. -/
def putProperty (name : String) (property : Property) :
    List (String × Property) → List (String × Property)
  | [] => [(name, property)]
  | (other, held) :: rest =>
      if other = name then (name, property) :: rest
      else (other, held) :: putProperty name property rest

/-- The entity with a property replaced or added. -/
def put (entity : Entity) (name : String) (property : Property) : Entity :=
  { entity with properties := putProperty name property entity.properties }

/-- The entity without the properties in which another entity is nested. -/
def unlink (entity : Entity) (nested : EntityId) : Entity :=
  { entity with properties := entity.properties.filter fun entry => entry.2 != .nested nested }

/-- The entities nested in the entity. -/
def nestedEntities (entity : Entity) : List EntityId :=
  entity.properties.filterMap fun entry =>
    match entry.2 with
    | .nested child => some child
    | _ => none

/-- The names under which the entity holds or refers to another. -/
def namesOf (entity : Entity) (other : EntityId) : List String :=
  (entity.properties.filter fun entry => entry.2.entity? == some other).map Prod.fst

end Entity

/-- Entities by number; the slot of a removed entity stays empty. -/
structure EntityGraph where
  slots : List (Option Entity) := []
  deriving DecidableEq

/-- What an operation leaves behind and answers. -/
structure Outcome (α : Type) where
  graph : EntityGraph
  result : Except Error α

namespace Outcome

/-- Changes what a success answers. -/
def map {α β : Type} (change : α → β) (outcome : Outcome α) : Outcome β :=
  ⟨outcome.graph, outcome.result.map change⟩

/-- Goes on with another operation after a success; a failure stays. -/
def andThen {α β : Type} (outcome : Outcome α) (next : EntityGraph → α → Outcome β) : Outcome β :=
  match outcome.result with
  | .ok result => next outcome.graph result
  | .error error => ⟨outcome.graph, .error error⟩

end Outcome

namespace EntityGraph

/-- The graph without entities. -/
def empty : EntityGraph := {}

/-- The entity with this number, if it is live. -/
def get? (graph : EntityGraph) (id : EntityId) : Option Entity :=
  graph.slots[id.index]?.join

/-- The entity with this number, which has to be live. -/
def get (graph : EntityGraph) (id : EntityId) : Except Error Entity :=
  match graph.get? id with
  | some entity => .ok entity
  | none => .error (.configuration (.unknownEntity id))

/-- The entity is live. -/
def contains (graph : EntityGraph) (id : EntityId) : Bool :=
  (graph.get? id).isSome

/-- The number of live entities. -/
def liveCount (graph : EntityGraph) : Nat :=
  graph.slots.countP Option.isSome

/-- The graph has no live entity. -/
def isEmpty (graph : EntityGraph) : Bool :=
  graph.liveCount == 0

/-- The live entities with their numbers, in order. -/
def liveEntities (graph : EntityGraph) : List (EntityId × Entity) :=
  graph.slots.zipIdx.filterMap fun (slot, index) => slot.map fun entity => (⟨index⟩, entity)

/-- Enters an entity under the next number. -/
def insert (graph : EntityGraph) (entity : Entity) : EntityGraph × EntityId :=
  (⟨graph.slots ++ [some entity]⟩, ⟨graph.slots.length⟩)

/-- Replaces an entity. -/
def replace (graph : EntityGraph) (id : EntityId) (entity : Entity) : EntityGraph :=
  ⟨graph.slots.set id.index (some entity)⟩

/-- Empties the slot of an entity. -/
def clear (graph : EntityGraph) (id : EntityId) : EntityGraph :=
  ⟨graph.slots.set id.index none⟩

/-- Creates an entity without a parent. -/
def create (graph : EntityGraph) (table : Option TableId) : EntityGraph × EntityId :=
  graph.insert { table }

/-- Changes an entity, which has to be live. -/
def update (graph : EntityGraph) (id : EntityId) (change : Entity → Entity) : Outcome Unit :=
  match graph.get id with
  | .ok entity => ⟨graph.replace id (change entity), .ok ()⟩
  | .error error => ⟨graph, .error error⟩

/-- Creates an entity with a parent, which does not hold it yet. -/
def createChild (graph : EntityGraph) (parent : EntityId) : Outcome EntityId :=
  match graph.get parent with
  | .ok _ =>
      let (graph, id) := graph.insert { parent := some parent }
      ⟨graph, .ok id⟩
  | .error error => ⟨graph, .error error⟩

/-- The parent of an entity. -/
def parent (graph : EntityGraph) (id : EntityId) : Except Error (Option EntityId) := do
  let entity ← graph.get id
  return entity.parent

/-- What an entity holds under a name. -/
def property (graph : EntityGraph) (id : EntityId) (name : String) :
    Except Error (Option Property) := do
  let entity ← graph.get id
  return entity.property? name

/-- The value an entity holds under a name; an entity there is an error. -/
def value (graph : EntityGraph) (id : EntityId) (name : String) : Except Error (Option Value) := do
  match ← graph.property id name with
  | none => return none
  | some (.value value) => return some value
  | some _ => throw (.configuration (.holdsEntity name id))

/-- The entity an entity holds or refers to under a name. NULL counts as absent, any other value is
an error. -/
def child (graph : EntityGraph) (id : EntityId) (name : String) :
    Except Error (Option EntityId) := do
  match ← graph.property id name with
  | none | some (.value .null) => return none
  | some (.nested child) | some (.reference child) => return some child
  | some (.value _) => throw (.configuration (.holdsValue name id))

/-- The name of an entity's property is read-only. -/
def isReadOnly (graph : EntityGraph) (id : EntityId) (name : String) : Except Error Bool := do
  let entity ← graph.get id
  return entity.isReadOnly name

/-- Makes a name read-only: only forced writes change the property from then on. -/
def markReadOnly (graph : EntityGraph) (id : EntityId) (name : String) : Outcome Unit :=
  graph.update id fun entity =>
    if entity.isReadOnly name then entity else { entity with readOnly := entity.readOnly ++ [name] }

/-- A property may be written: it is not read-only, or the write is forced. A forced write does not
ask whether the entity is live. -/
def checkWritable (graph : EntityGraph) (id : EntityId) (name : String) (force : Bool) :
    Except Error Unit :=
  if force then .ok ()
  else
    match graph.get id with
    | .error error => .error error
    | .ok entity => if entity.isReadOnly name then .error (.readOnlyProperty name) else .ok ()

/-- Stores a value; an entity is not overwritten. -/
def setValue (graph : EntityGraph) (id : EntityId) (name : String) (value : Value)
    (force : Bool) : Outcome Unit :=
  match graph.checkWritable id name force with
  | .error error => ⟨graph, .error error⟩
  | .ok () =>
      match graph.value id name with
      | .error error => ⟨graph, .error error⟩
      | .ok _ => graph.update id fun entity => entity.put name (.value value)

/-- Nests an entity in another, which becomes its parent. The child takes its new parent before the
parent takes the child. -/
def attachNested (graph : EntityGraph) (parent : EntityId) (name : String) (child : EntityId)
    (force : Bool) : Outcome Unit :=
  match graph.checkWritable parent name force with
  | .error error => ⟨graph, .error error⟩
  | .ok () =>
      (graph.update child fun entity => { entity with parent := some parent }).andThen
        fun graph _ => graph.update parent fun entity => entity.put name (.nested child)

/-- Refers from an entity to another, which has to be live. -/
def attachReference (graph : EntityGraph) (owner : EntityId) (name : String) (target : EntityId)
    (force : Bool) : Outcome Unit :=
  match graph.checkWritable owner name force with
  | .error error => ⟨graph, .error error⟩
  | .ok () =>
      match graph.get target with
      | .error error => ⟨graph, .error error⟩
      | .ok _ => graph.update owner fun entity => entity.put name (.reference target)

end EntityGraph

end SqlMapper
