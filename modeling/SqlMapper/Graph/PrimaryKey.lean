import SqlMapper.Graph.Basic

/-!
# Which properties are primary keys

The table of an entity is that of the nearest entity, itself included, that has one on the way up
through the parents. A property is the primary key if the key's binding leads to it: for a nested
binding the names under which each parent holds the next entity, followed by the property's name,
are the start of the path. Above a parent that does not hold its child under any name, no names are
compared.
-/

namespace SqlMapper

/-- The nearest entity with a table, and the entities below it on the way, the nearest first. -/
structure Ownership where
  below : List EntityId
  holder : EntityId
  table : TableId
  deriving DecidableEq

namespace EntityGraph

/-- Goes up at most so many parents to an entity with a table. -/
def ownershipWithin (graph : EntityGraph) (start current : EntityId) :
    Nat → Except Error Ownership
  | 0 => .error (.configuration (.endlessParents start))
  | parents + 1 =>
      match graph.get current with
      | .error error => .error error
      | .ok entity =>
          match entity.table, entity.parent with
          | some table, _ => .ok ⟨[], current, table⟩
          | none, none => .error (.configuration (.untypedEntity start))
          | none, some parent =>
              match graph.ownershipWithin start parent parents with
              | .error error => .error error
              | .ok ownership => .ok { ownership with below := current :: ownership.below }

/-- The nearest entity with a table; parents that do not end are an error. -/
def ownership (graph : EntityGraph) (id : EntityId) : Except Error Ownership :=
  graph.ownershipWithin id id (graph.slots.length + 1)

/-- The nearest entity with a table, and that table. -/
def owningTable (graph : EntityGraph) (id : EntityId) : Except Error (EntityId × TableId) := do
  let ownership ← graph.ownership id
  return (ownership.holder, ownership.table)

/-- The names under which the entity above each one holds it, lowest first, up to the first that is
not held. -/
def linkNames (graph : EntityGraph) (holder : EntityId) : List EntityId → List (List String)
  | [] => []
  | child :: above =>
      match (graph.get? (above.headD holder)).map fun parent => parent.namesOf child with
      | none | some [] => []
      | some names => names :: graph.linkNames holder above

/-- Each step of the path is among the names of its level, and no level lies behind the path. -/
def levelsMatch : List (List String) → List String → Bool
  | [], _ => true
  | _ :: _, [] => false
  | names :: levels, step :: steps => names.contains step && levelsMatch levels steps

/-- The property is the primary key of the table that the entity belongs to. -/
def isPrimaryKey (graph : EntityGraph) (catalog : Catalog) (id : EntityId) (name : String) :
    Except Error Bool := do
  let ownership ← graph.ownership id
  let table ← catalog.table ownership.table
  match ← table.primaryKeyBinding with
  | .reference property _ => return property == name
  | .nested path =>
      let levels := (graph.linkNames ownership.holder ownership.below).reverse ++ [[name]]
      return levelsMatch levels path.names

end EntityGraph

end SqlMapper
