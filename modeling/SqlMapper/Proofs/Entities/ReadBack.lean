import SqlMapper.Proofs.Entities.Paths

/-!
# Reading what was written

A value that was written through a binding is read back through it, on every graph: entities may be
shared, and nested properties and references may lead back to entities that the walk has passed.

A write ends where its trail ends. It stores the value in a property that leads to no entity, so it
is none of those by which the trail came, and the read goes the same way to the same property.
-/

namespace SqlMapper

namespace EntityGraph

variable {graph : EntityGraph} {entity last : EntityId} {names : List String} {leaf : String}

theorem descend_of_follow (reached : graph.follow entity names = some last) :
    graph.descend entity names = .ok (some last) := by
  induction names generalizing entity with
  | nil => rw [descend, ← Option.some.inj reached]
  | cons name names ih =>
      rcases Option.bind_eq_some_iff.1 reached with ⟨next, leads, rest⟩
      rw [descend, child_of_next? leads]
      exact ih rest

/-- A read finds the value that stands at the end of its route. -/
theorem read_of_follow {route : Route} {value : Value} (ends : route.ending = .ok leaf)
    (reached : graph.follow entity (route.steps.map Prod.fst) = some last)
    (holds : graph.held? last leaf = some (.value value)) :
    route.read graph entity = .ok (some value) := by
  rw [Route.read_eq_descend, descend_of_follow reached, ends]
  exact value_eq_ok.2 ⟨contains_of_held? holds, holds⟩

/-- What stands behind a trail when a value was stored at its end. -/
theorem store_behind_trail {after : EntityGraph} {steps : List (String × Link)}
    (trail : Trail graph entity steps after last) (live : after.contains last = true)
    (free : after.next? last leaf = none) (value : Value) :
    (after.store last leaf (.value value)).follow entity (steps.map Prod.fst) = some last ∧
      (after.store last leaf (.value value)).held? last leaf = some (.value value) := by
  constructor
  · rw [follow_congr (next?_store_value live free value)]
    exact trail.follow_eq
  · rw [held?_store live, if_pos ⟨rfl, rfl⟩]

/-- A value that was written where an entity has a column is read there afterwards. -/
theorem readColumn_writeColumn (graph : EntityGraph) (catalog : Catalog) (entity : EntityId)
    (column : Column) (value : Value) (force : Bool)
    (written : (graph.writeColumn catalog entity column value force).result = .ok ()) :
    (graph.writeColumn catalog entity column value force).graph.readColumn catalog entity column =
      .ok (some value) := by
  rw [writeColumn] at written ⊢
  have writes := Route.writes_write graph entity (graph.route catalog column) value force
  generalize Route.write value force graph entity (graph.route catalog column) = outcome
    at written writes ⊢
  cases writes with
  | stopped begun trail error => cases written
  | @done after last leaf trail ends live free =>
      rcases store_behind_trail trail live free value with ⟨reached, holds⟩
      rw [readColumn, route_of_ending ends]
      exact read_of_follow ends reached holds

/-- An employee whose department's key is looked up at the head of the department, which is the
employee again. -/
def headOfDepartment : Catalog :=
  ⟨[{ name := "department"
      columns := [
        { table := "department", name := "code", type := .text
          binding := some (.nested ⟨["head", "self"], "code"⟩) }]
      primaryKey := some "code" }]⟩

/-- The column by which an employee refers to a department. -/
def departmentOfEmployee : Column :=
  { table := "employee", name := "department", type := .text
    binding := some (.reference "department" ⟨0⟩) }

/-- An employee, the head of the department that it refers to, with a NULL code. -/
def headOfItself : EntityGraph :=
  ⟨[some
      { properties := [("department", .reference ⟨1⟩), ("self", .nested ⟨0⟩),
          ("code", .value .null)]
        readOnly := ["department"] },
    some { table := some ⟨0⟩, properties := [("head", .reference ⟨0⟩)] }]⟩

theorem readColumn_headOfItself :
    (headOfItself.writeColumn headOfDepartment ⟨0⟩ departmentOfEmployee (.text "x") false).result =
        .ok () ∧
      (headOfItself.writeColumn headOfDepartment ⟨0⟩ departmentOfEmployee (.text "x")
        false).graph.readColumn headOfDepartment ⟨0⟩ departmentOfEmployee =
          .ok (some (.text "x")) := by
  have written : (headOfItself.writeColumn headOfDepartment ⟨0⟩ departmentOfEmployee (.text "x")
      false).result = .ok () := by
    decide +kernel
  exact ⟨written, readColumn_writeColumn _ _ _ _ _ _ written⟩

end EntityGraph

end SqlMapper
