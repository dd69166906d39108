import SqlMapper.Graph.Population
import SqlMapper.Proofs.Entities.Growth

/-!
# Rows fill new entities only

A row fills an entity that was made for it. Nothing leads from a new entity to an older one: it
holds nothing when it is made, and a walk from it only ever makes further new entities or follows
what it has made before. So the writes of a row, which are all forced, reach no entity that was in
the graph before, whether they succeed or stop midway.
-/

namespace SqlMapper

namespace EntityGraph

/-- The second graph has the entities of the first as they were, and perhaps others behind them,
from which nothing leads back to those. -/
structure Separate (before after : EntityGraph) : Prop where
  length_le : before.slots.length ≤ after.slots.length
  kept : ∀ {id : EntityId}, id.index < before.slots.length → after.get? id = before.get? id
  sealed : ∀ {id next : EntityId} {name : String}, before.slots.length ≤ id.index →
    after.next? id name = some next → before.slots.length ≤ next.index

variable {before graph after : EntityGraph} {entity last id : EntityId} {name : String}
  {steps : List (String × Link)}

namespace Separate

theorem refl (graph : EntityGraph) : Separate graph graph where
  length_le := Nat.le_refl _
  kept _ := rfl
  sealed {id next name} behind leads := by
    rcases contains_iff.1 (contains_of_next? leads) with ⟨_, live⟩
    exact absurd (index_lt_of_get? live) (Nat.not_lt_of_le behind)

theorem insert (separate : Separate before graph) {made : Entity}
    (bare : ∀ name, made.property? name = none) : Separate before (graph.insert made).1 where
  length_le := Nat.le_trans separate.length_le (by simp [EntityGraph.insert])
  kept {id} inside := by
    have old : id ≠ graph.nextId := by
      rintro rfl
      exact absurd separate.length_le (Nat.not_le_of_lt inside)
    rw [get?_insert, if_neg old, separate.kept inside]
  sealed behind leads := by
    rw [next?, held?_insert bare] at leads
    exact separate.sealed behind leads

/-- A property may be stored in a new entity if it leads to a new one, or to none. -/
theorem store (separate : Separate before graph) (new : before.slots.length ≤ id.index)
    (live : graph.contains id = true) {property : Property}
    (leadsBehind : ∀ next, property.entity? = some next → before.slots.length ≤ next.index)
    (name : String) : Separate before (graph.store id name property) where
  length_le := by
    rw [length_store]
    exact separate.length_le
  kept {other} inside := by
    have old : other ≠ id := by
      rintro rfl
      exact absurd new (Nat.not_le_of_lt inside)
    rw [get?_store, if_neg old, separate.kept inside]
  sealed {other next label} behind leads := by
    rw [next?, held?_store live] at leads
    split at leads
    · exact leadsBehind next leads
    · exact separate.sealed behind leads

theorem extend (separate : Separate before graph) (new : before.slots.length ≤ entity.index)
    (live : graph.contains entity = true) (name : String) (link : Link) :
    Separate before (graph.extend entity name link) := by
  refine (separate.insert fun _ => link.property?_made _ _).store new
    ((contains_insert _).2 (Or.inr live)) (fun next leads => ?_) name
  rw [Link.entity?_property] at leads
  cases leads
  exact separate.length_le

/-- A walk from a new entity stays among new entities. -/
theorem trail (separate : Separate before graph) (new : before.slots.length ≤ entity.index)
    (trail : Trail graph entity steps after last) :
    Separate before after ∧ before.slots.length ≤ last.index := by
  induction trail with
  | stop graph entity => exact ⟨separate, new⟩
  | follow link leads rest ih => exact ih separate (separate.sealed new leads)
  | @make graph after entity last name link steps live vacant rest ih =>
      exact ih (separate.extend new live name link) separate.length_le

theorem writeColumn (separate : Separate before graph) (new : before.slots.length ≤ entity.index)
    (catalog : Catalog) (column : Column) (value : Value) (force : Bool) :
    Separate before (graph.writeColumn catalog entity column value force).graph := by
  rw [EntityGraph.writeColumn]
  have writes := Route.writes_write graph entity (graph.route catalog column) value force
  generalize Route.write value force graph entity (graph.route catalog column) = outcome at writes
  cases writes with
  | stopped begun trail error => exact (separate.trail new trail).1
  | done trail ends live free =>
      rcases separate.trail new trail with ⟨walked, lastNew⟩
      exact walked.store lastNew live (fun next leads => by cases leads) _

theorem fill (separate : Separate before graph) (new : before.slots.length ≤ entity.index)
    (catalog : Catalog) (row : Row) (columns : List Column) :
    Separate before (graph.fill catalog entity row columns).graph := by
  induction columns generalizing graph with
  | nil => exact separate
  | cons column rest ih =>
      rw [EntityGraph.fill]
      split
      · exact separate
      · exact ih separate
      · next value _ =>
        have written := separate.writeColumn new catalog column value true
        generalize graph.writeColumn catalog entity column value true = outcome at written ⊢
        rcases outcome with ⟨after, _ | _⟩
        · exact written
        · exact ih written

end Separate

/-- The graph that a population leaves behind is the one in which its row has filled the new
entity. -/
theorem graph_populate_of_table {catalog : Catalog} {table : TableId} {described : Table}
    (found : catalog.table table = .ok described) (row : Row) :
    (graph.populate catalog table row).graph =
      ((graph.create (some table)).1.fill catalog graph.nextId row described.columns).graph := by
  rw [populate, found]
  change (((graph.create (some table)).1.fill catalog graph.nextId row described.columns).andThen
    fun after _ => ⟨after, .ok graph.nextId⟩).graph = _
  rcases (graph.create (some table)).1.fill catalog graph.nextId row described.columns with
    ⟨after, _ | _⟩ <;> rfl

/-- Whether it succeeds or fails, a population leaves the entities that were there as they were. -/
theorem separate_populate (graph : EntityGraph) (catalog : Catalog) (table : TableId) (row : Row) :
    Separate graph (graph.populate catalog table row).graph := by
  cases found : catalog.table table with
  | error error =>
      rw [populate, found]
      exact .refl graph
  | ok described =>
      have created : Separate graph (graph.create (some table)).1 :=
        (Separate.refl graph).insert fun _ => rfl
      rw [graph_populate_of_table found]
      exact created.fill (Nat.le_refl _) catalog row described.columns

end EntityGraph

end SqlMapper
