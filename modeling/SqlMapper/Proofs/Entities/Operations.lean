import Mathlib.Logic.Relation
import SqlMapper.Graph.Removal
import SqlMapper.Proofs.Entities.Isolation
import SqlMapper.Proofs.Entities.Primitives

/-!
# Operations on entity graphs

Everything that a caller can do to a graph, as data, and the graphs that a run of operations leads
to. Operations may fail; what counts here is the graph that they leave behind.

Operations through bindings create entities only as rows of tables or at the end of a walk that
attaches them at once. Whether they succeed or stop midway, they come down to a few changes of the
graph, which are listed as a relation. What holds in every graph of a run is then shown one change
at a time.
-/

namespace SqlMapper

/-- An operation on an entity graph, with what a caller gives it. -/
inductive Operation where
  | create (table : Option TableId)
  | createChild (parent : EntityId)
  | markReadOnly (entity : EntityId) (name : String)
  | setValue (entity : EntityId) (name : String) (value : Value) (force : Bool)
  | attachNested (parent : EntityId) (name : String) (child : EntityId) (force : Bool)
  | attachReference (owner : EntityId) (name : String) (target : EntityId) (force : Bool)
  | writeColumn (catalog : Catalog) (entity : EntityId) (column : Column) (value : Value)
      (force : Bool)
  | populate (catalog : Catalog) (table : TableId) (row : Row)
  | remove (entity : EntityId)

namespace Operation

/-- The graph that the operation leaves behind, whether it succeeds or not. -/
def apply (graph : EntityGraph) : Operation → EntityGraph
  | create table => (graph.create table).1
  | createChild parent => (graph.createChild parent).graph
  | markReadOnly entity name => (graph.markReadOnly entity name).graph
  | setValue entity name value force => (graph.setValue entity name value force).graph
  | attachNested parent name child force => (graph.attachNested parent name child force).graph
  | attachReference owner name target force =>
      (graph.attachReference owner name target force).graph
  | writeColumn catalog entity column value force =>
      (graph.writeColumn catalog entity column value force).graph
  | populate catalog table row => (graph.populate catalog table row).graph
  | remove entity => (graph.remove entity).graph

/-- The operation attaches no entities by hand. -/
def isThroughBindings : Operation → Bool
  | createChild .. | attachNested .. | attachReference .. => false
  | _ => true

end Operation

namespace EntityGraph

open Relation (ReflTransGen)

variable {graph before after : EntityGraph} {entity last : EntityId}
  {steps : List (String × Link)}

/-- The graph that operations lead to, one after the other. -/
def run (graph : EntityGraph) (operations : List Operation) : EntityGraph :=
  operations.foldl Operation.apply graph

/-- What operations through bindings do to a graph, one step at a time. -/
inductive BindingChange (before : EntityGraph) : EntityGraph → Prop
  | create (table : Option TableId) : BindingChange before (before.create table).1
  | extend {holder : EntityId} {name : String} (link : Link)
      (live : before.contains holder = true) (vacant : before.Vacant holder name) :
      BindingChange before (before.extend holder name link)
  | store {id : EntityId} {name : String} (value : Value) (live : before.contains id = true)
      (free : before.next? id name = none) :
      BindingChange before (before.store id name (.value value))
  | lock (id : EntityId) (name : String) : BindingChange before (before.markReadOnly id name).graph
  | remove (id : EntityId) : BindingChange before (before.remove id).graph

/-- What operations do to a graph, one step at a time. -/
inductive Change (before : EntityGraph) : EntityGraph → Prop
  | binding {after : EntityGraph} (change : BindingChange before after) : Change before after
  | createChild {parent : EntityId} (live : before.contains parent = true) :
      Change before (before.insert (Link.nested.made parent)).1
  | adopt {child : EntityId} (parent : EntityId) (name : String)
      (live : before.contains child = true) :
      Change before ((before.update child fun entity =>
        { entity with parent := some parent }).graph.store parent name (.nested child))
  | refer {target : EntityId} (owner : EntityId) (name : String)
      (live : before.contains target = true) :
      Change before (before.store owner name (.reference target))

theorem Trail.changes (trail : Trail graph entity steps after last) :
    ReflTransGen BindingChange graph after := by
  induction trail with
  | stop graph entity => exact .refl
  | follow link leads rest ih => exact ih
  | @make graph after entity last name link steps live vacant rest ih =>
      exact .head (.extend link live vacant) ih

theorem changes_writeColumn (graph : EntityGraph) (catalog : Catalog) (entity : EntityId)
    (column : Column) (value : Value) (force : Bool) :
    ReflTransGen BindingChange graph
      (graph.writeColumn catalog entity column value force).graph := by
  rw [writeColumn]
  have writes := Route.writes_write graph entity (graph.route catalog column) value force
  generalize Route.write value force graph entity (graph.route catalog column) = outcome at writes
  cases writes with
  | stopped begun trail error => exact trail.changes
  | done trail ends live free => exact trail.changes.tail (.store value live free)

theorem changes_setValue (graph : EntityGraph) (id : EntityId) (name : String) (value : Value)
    (force : Bool) :
    ReflTransGen BindingChange graph (graph.setValue id name value force).graph := by
  rcases setValue_cases graph id name value force with ⟨live, free, stored⟩ | ⟨error, failed⟩
  · rw [stored]
    exact .single (.store value live free)
  · rw [failed]

theorem changes_fill (graph : EntityGraph) (catalog : Catalog) (entity : EntityId) (row : Row)
    (columns : List Column) :
    ReflTransGen BindingChange graph (graph.fill catalog entity row columns).graph := by
  induction columns generalizing graph with
  | nil => exact .refl
  | cons column rest ih =>
      rw [fill]
      split
      · exact .refl
      · exact ih graph
      · next value _ =>
        have written := changes_writeColumn graph catalog entity column value true
        generalize graph.writeColumn catalog entity column value true = outcome at written ⊢
        rcases outcome with ⟨after, _ | _⟩
        · exact written
        · exact written.trans (ih after)

theorem changes_populate (graph : EntityGraph) (catalog : Catalog) (table : TableId) (row : Row) :
    ReflTransGen BindingChange graph (graph.populate catalog table row).graph := by
  cases found : catalog.table table with
  | error error =>
      rw [populate, found]
  | ok described =>
      rw [graph_populate_of_table found]
      exact .head (.create (some table)) (changes_fill _ _ _ _ _)

/-- An operation through bindings comes down to binding changes. -/
theorem bindingChanges_apply (graph : EntityGraph) {operation : Operation}
    (through : operation.isThroughBindings = true) :
    ReflTransGen BindingChange graph (operation.apply graph) := by
  cases operation with
  | create table => exact .single (.create table)
  | markReadOnly id name => exact .single (.lock id name)
  | setValue id name value force => exact changes_setValue graph id name value force
  | writeColumn catalog entity column value force =>
      exact changes_writeColumn graph catalog entity column value force
  | populate catalog table row => exact changes_populate graph catalog table row
  | remove id => exact .single (.remove id)
  | createChild | attachNested | attachReference => cases through

/-- Every operation comes down to changes. -/
theorem changes_apply (graph : EntityGraph) (operation : Operation) :
    ReflTransGen Change graph (operation.apply graph) := by
  cases through : operation.isThroughBindings with
  | true =>
      exact ReflTransGen.mono (fun _ _ change => Change.binding change) _ _
        (bindingChanges_apply graph through)
  | false =>
      cases operation with
      | createChild parent =>
          rcases createChild_cases graph parent with ⟨live, made⟩ | ⟨error, failed⟩
          · rw [Operation.apply, made]
            exact .single (.createChild live)
          · rw [Operation.apply, failed]
      | attachNested parent name child force =>
          rcases attachNested_cases graph parent name child force with
            ⟨_, live, _, nested⟩ | ⟨_, error, failed⟩ | ⟨_, live, gone, stranded⟩
          · rw [Operation.apply, nested]
            exact .single (.adopt parent name live)
          · rw [Operation.apply, failed]
          · rw [Operation.apply, stranded,
              ← store_of_gone (contains_adopt.trans gone) (.nested child)]
            exact .single (.adopt parent name live)
      | attachReference owner name target force =>
          rcases attachReference_cases graph owner name target force with
            ⟨_, live, _, stored⟩ | ⟨error, failed⟩
          · rw [Operation.apply, stored]
            exact .single (.refer owner name live)
          · rw [Operation.apply, failed]
      | create | markReadOnly | setValue | writeColumn | populate | remove => cases through

/-- What holds in a graph and is kept by every binding change holds after every run of operations
through bindings. -/
theorem run_induction_through_bindings {Holds : EntityGraph → Prop} {operations : List Operation}
    (through : ∀ operation ∈ operations, operation.isThroughBindings = true)
    (start : Holds graph)
    (kept : ∀ {before after}, Holds before → BindingChange before after → Holds after) :
    Holds (graph.run operations) := by
  induction operations generalizing graph with
  | nil => exact start
  | cons operation rest ih =>
      rcases List.forall_mem_cons.1 through with ⟨first, others⟩
      refine ih others ?_
      have changes := bindingChanges_apply graph first
      generalize operation.apply graph = after at changes ⊢
      induction changes with
      | refl => exact start
      | tail _ change holds => exact kept holds change

/-- What holds in a graph and is kept by every change holds after every run of operations. -/
theorem run_induction {Holds : EntityGraph → Prop} (operations : List Operation)
    (start : Holds graph)
    (kept : ∀ {before after}, Holds before → Change before after → Holds after) :
    Holds (graph.run operations) := by
  induction operations generalizing graph with
  | nil => exact start
  | cons operation rest ih =>
      refine ih ?_
      have changes := changes_apply graph operation
      generalize operation.apply graph = after at changes ⊢
      induction changes with
      | refl => exact start
      | tail _ change holds => exact kept holds change

end EntityGraph

end SqlMapper
