import SqlMapper.Proofs.Entities.Ascents
import SqlMapper.Proofs.Entities.Forest

/-!
# The places of primary keys

A walk along a nested key passes the same properties that the test for primary keys accepts, if the
graph was built through bindings. There every link leads on to a later entity, and one without a
table is reached from its parent only, because references lead to rows that stand on their own. So
the names that a walk down takes are the names found on the way up.

For a key that is a reference the test asks for the name alone. It accepts it also below the entity
that holds the reference, where no walk along the key takes a step.
-/

namespace SqlMapper

namespace EntityGraph

variable {graph after : EntityGraph} {holder id parent next : EntityId} {table : TableId}
  {below : List EntityId} {name : String}

/-- In a forest, references lead to entities without a parent that were made after the holder. -/
structure Rooted (graph : EntityGraph) : Prop extends graph.Forest where
  later : ∀ {holder target : EntityId} {name : String},
    graph.held? holder name = some (.reference target) → holder.index < target.index
  root : ∀ {holder target parent : EntityId} {name : String},
    graph.held? holder name = some (.reference target) → ¬ graph.ParentOf parent target

theorem rooted_empty : empty.Rooted where
  toForest := forest_empty
  later holds := by simp at holds
  root holds := by simp at holds

namespace Rooted

/-- A change that adds neither references nor parents keeps references where they lead. -/
theorem of_kept (rooted : graph.Rooted) (forest : after.Forest)
    (references : ∀ {holder target name}, after.held? holder name = some (.reference target) →
      graph.held? holder name = some (.reference target))
    (parents : ∀ {parent id}, after.ParentOf parent id → graph.ParentOf parent id) :
    after.Rooted where
  toForest := forest
  later holds := rooted.later (references holds)
  root holds parented := rooted.root (references holds) (parents parented)

/-- The new entity is not referred to before, and a new row has no parent. -/
theorem extend (rooted : graph.Rooted) (live : graph.contains holder = true)
    (vacant : graph.Vacant holder name) (link : Link) :
    (graph.extend holder name link).Rooted where
  toForest := rooted.toForest.extend live vacant link
  later {place target label} holds := by
    rw [held?_extend live] at holds
    split at holds
    · next here =>
      cases link with
      | nested => cases holds
      | reference table =>
          cases holds
          rcases contains_iff.1 live with ⟨_, found⟩
          rw [here.1]
          exact index_lt_of_get? found
    · exact rooted.later holds
  root {place target above label} holds parented := by
    rw [held?_extend live] at holds
    split at holds
    · cases link with
      | nested => cases holds
      | reference table =>
          cases holds
          rcases parentOf_extend.1 parented with ⟨_, made⟩ | old
          · cases made
          · exact old.ne_nextId rfl
    · rcases parentOf_extend.1 parented with ⟨rfl, _⟩ | old
      · have made := rooted.linked (next?_eq_some.2 (Or.inr holds))
        exact absurd made (Nat.lt_irrefl _)
      · exact rooted.root holds old

theorem remove (rooted : graph.Rooted) (id : EntityId) : (graph.remove id).graph.Rooted := by
  cases found : graph.get? id with
  | none =>
      rw [remove_of_gone found]
      exact rooted
  | some entity =>
      have formed := rooted.toWellFormed
      have forest := rooted.toForest.remove id
      rw [remove_of_live found] at forest ⊢
      refine rooted.of_kept forest (fun holds => ?_) (fun parented => ?_)
      · exact ((formed.held?_unlinkFromParent entity).1 (held?_removeAll_eq_some.1 holds).2).1
      · exact parentOf_unlinkFromParent.1 (parentOf_removeAll.1 parented).2

theorem bindingChange (rooted : graph.Rooted) (change : BindingChange graph after) :
    after.Rooted := by
  have forest := rooted.toForest.bindingChange change
  cases change with
  | create table =>
      exact rooted.of_kept forest (fun holds => held?_create.symm.trans holds) parentOf_create.1
  | extend link live vacant => exact rooted.extend live vacant link
  | store value live free =>
      refine rooted.of_kept forest (fun holds => ?_) parentOf_store.1
      rw [held?_store live] at holds
      split at holds
      · cases holds
      · exact holds
  | lock id name =>
      exact rooted.of_kept forest (fun holds => held?_markReadOnly.symm.trans holds)
        parentOf_markReadOnly.1
  | remove id => exact rooted.remove id

theorem index_lt (rooted : graph.Rooted) (leads : graph.next? holder name = some next) :
    holder.index < next.index := by
  rcases next?_eq_some.1 leads with holds | holds
  · exact rooted.before (rooted.nested holds)
  · exact rooted.later holds

theorem index_le_of_follow (rooted : graph.Rooted) {names : List String}
    (reached : graph.follow holder names = some id) : holder.index ≤ id.index := by
  induction names generalizing holder with
  | nil =>
      cases reached
      exact Nat.le_refl _
  | cons name names ih =>
      rcases Option.bind_eq_some_iff.1 reached with ⟨next, leads, further⟩
      exact Nat.le_of_lt (Nat.lt_of_lt_of_le (rooted.index_lt leads) (ih further))

/-- No walk comes back to where it started. -/
theorem follow_self_iff (rooted : graph.Rooted) {names : List String} :
    graph.follow holder names = some holder ↔ names = [] := by
  constructor
  · intro reached
    rcases names with _ | ⟨name, names⟩
    · rfl
    · rcases Option.bind_eq_some_iff.1 reached with ⟨next, leads, further⟩
      have forth := rooted.index_lt leads
      have back := rooted.index_le_of_follow further
      omega
  · rintro rfl
    rfl

/-- An entity with a parent is reached from that parent only. -/
theorem eq_of_next? (rooted : graph.Rooted) (parented : graph.ParentOf parent id)
    (leads : graph.next? holder name = some id) : holder = parent := by
  rcases next?_eq_some.1 leads with holds | holds
  · exact parented.unique (rooted.nested holds)
  · exact absurd parented (rooted.root holds)

/-- The names that a walk down to an entity takes are those that can be chosen on the way up. -/
theorem follow_eq_some_iff (rooted : graph.Rooted) (ascent : graph.Ascent holder table below id)
    {names : List String} :
    graph.follow holder names = some id ↔
      List.Forall₂ (· ∈ ·) names (graph.linkNames holder below).reverse := by
  have formed := rooted.toWellFormed
  induction ascent generalizing names with
  | top live typed => simp [linkNames, rooted.follow_self_iff]
  | @step below id parent entity live untyped parented rest ih =>
      have parentOf : graph.ParentOf parent id := ⟨entity, live, parented⟩
      rcases rest.exists_live with ⟨above, liveAbove⟩
      rcases rooted.held parentOf with ⟨label, holds⟩
      have member := (formed.mem_namesOf liveAbove).2 (next?_eq_some.2 (Or.inl holds))
      rw [rest.linkNames_step liveAbove member, List.reverse_cons, forall₂_mem_concat]
      constructor
      · intro reached
        rcases List.eq_nil_or_concat names with rfl | ⟨passed, last, rfl⟩
        · -- The entity has no table, so the walk does not end at the top.
          exact absurd (Option.some.inj reached) (rest.ne_holder live untyped)
        · rw [List.concat_eq_append, follow_append] at reached
          rcases Option.bind_eq_some_iff.1 reached with ⟨middle, before, leads⟩
          rw [follow_singleton] at leads
          have same := rooted.eq_of_next? parentOf leads
          subst middle
          exact ⟨passed, last, by rw [List.concat_eq_append], ih.1 before,
            (formed.mem_namesOf liveAbove).2 leads⟩
      · rintro ⟨passed, last, rfl, chosen, held⟩
        rw [follow_append, ih.2 chosen, Option.bind_some, follow_singleton]
        exact (formed.mem_namesOf liveAbove).1 held

end Rooted

theorem rooted_run {operations : List Operation}
    (through : ∀ operation ∈ operations, operation.isThroughBindings = true) :
    (empty.run operations).Rooted :=
  run_induction_through_bindings through rooted_empty fun rooted change =>
    rooted.bindingChange change

/-- A walk along a binding takes a step at this property of this entity. -/
inductive StepAt (graph : EntityGraph) (start : EntityId) : Binding → EntityId → String → Prop
  | nested {path : PropertyPath} {passed : List String} {id : EntityId} {name : String}
      (begun : passed ++ [name] <+: path.names) (reached : graph.follow start passed = some id) :
      StepAt graph start (.nested path) id name
  | reference (property : String) (table : TableId) :
      StepAt graph start (.reference property table) start property

theorem stepAt_nested_iff {path : PropertyPath} :
    graph.StepAt holder (.nested path) id name ↔
      ∃ passed, passed ++ [name] <+: path.names ∧ graph.follow holder passed = some id := by
  constructor
  · rintro (⟨begun, reached⟩ | _)
    exact ⟨_, begun, reached⟩
  · rintro ⟨passed, begun, reached⟩
    exact .nested begun reached

theorem stepAt_reference_iff {property : String} {target : TableId} :
    graph.StepAt holder (.reference property target) id name ↔ id = holder ∧ name = property := by
  constructor
  · rintro (_ | _)
    exact ⟨rfl, rfl⟩
  · rintro ⟨rfl, rfl⟩
    exact .reference _ _

/-- In a graph that operations through bindings lead to, the test for primary keys always answers
below a table with a bound key. A property is the key with a nested path if the walk along the path
from the entity with the table takes a step there. A key that is a reference is known by the name of
its property, at that entity and at those below it alike. -/
theorem isPrimaryKey_run {operations : List Operation} {catalog : Catalog} {described : Table}
    {binding : Binding}
    (through : ∀ operation ∈ operations, operation.isThroughBindings = true)
    (ascent : (empty.run operations).Ascent holder table below id)
    (entered : catalog.table table = .ok described)
    (bound : described.primaryKeyBinding = .ok binding) (name : String) :
    ∃ answer, (empty.run operations).isPrimaryKey catalog id name = .ok answer ∧
      (answer = true ↔
        match binding with
        | .nested _ => (empty.run operations).StepAt holder binding id name
        | .reference property _ => name = property) := by
  have rooted := rooted_run through
  have owned := ascent.ownership_eq
  rcases binding with path | ⟨property, target⟩
  · rcases isPrimaryKey_of_nested owned entered bound name with ⟨answer, asked, chosen⟩
    refine ⟨answer, asked, ?_⟩
    simp only [chosen, stepAt_nested_iff, rooted.follow_eq_some_iff ascent]
  · refine ⟨property == name, isPrimaryKey_of_reference owned entered bound name, ?_⟩
    rw [beq_iff_eq, eq_comm]

/-- The path to the number of a badge's department, in its site. -/
def departmentPath : PropertyPath :=
  ⟨["site", "department"], "id"⟩

/-- The column for the department of a badge. -/
def departmentOfBadge : Column :=
  { table := "badge", name := "department", type := .integer
    binding := some (.nested departmentPath) }

/-- Badges, whose key is their department. -/
def badges : Table :=
  { name := "badge", columns := [departmentOfBadge], primaryKey := some "department" }

/-- The column for the city in the details of a person. -/
def cityOfDetail : Column :=
  { table := "detail", name := "city", type := .text
    binding := some (.nested ⟨["address"], "city"⟩) }

/-- The details of persons, whose key is the person. -/
def details : Table :=
  { name := "detail"
    columns := [
      { table := "detail", name := "person", type := .integer
        binding := some (.reference "person" ⟨0⟩) },
      cityOfDetail]
    primaryKey := some "person" }

/-- Persons, badges and details. -/
def registry : Catalog :=
  ⟨[{ name := "person"
      columns := [
        { table := "person", name := "id", type := .integer, binding := some (.property "id") }]
      primaryKey := some "id" },
    badges, details]⟩

/-- A badge is made and gets its department. -/
def issuedBadge : List Operation :=
  [.create (some ⟨1⟩), .writeColumn registry ⟨0⟩ departmentOfBadge (.integer 5) false]

/-- Details of nobody yet get their city. -/
def detailWithCity : List Operation :=
  [.create (some ⟨2⟩), .writeColumn registry ⟨0⟩ cityOfDetail (.text "Oslo") false]

theorem isPrimaryKey_issuedBadge :
    (∀ operation ∈ issuedBadge, operation.isThroughBindings = true) ∧
      (empty.run issuedBadge).Ascent ⟨0⟩ ⟨1⟩ [⟨2⟩, ⟨1⟩] ⟨2⟩ ∧
      registry.table ⟨1⟩ = .ok badges ∧
      badges.primaryKeyBinding = .ok (.nested departmentPath) ∧
      (empty.run issuedBadge).StepAt ⟨0⟩ (.nested departmentPath) ⟨2⟩ "id" ∧
      (empty.run issuedBadge).isPrimaryKey registry ⟨2⟩ "id" = .ok true := by
  have through : ∀ operation ∈ issuedBadge, operation.isThroughBindings = true := by decide
  have ascent : (empty.run issuedBadge).Ascent ⟨0⟩ ⟨1⟩ [⟨2⟩, ⟨1⟩] ⟨2⟩ :=
    .step rfl rfl rfl (.step rfl rfl rfl (.top rfl rfl))
  have entered : registry.table ⟨1⟩ = .ok badges := rfl
  have bound : badges.primaryKeyBinding = .ok (.nested departmentPath) := rfl
  have step : (empty.run issuedBadge).StepAt ⟨0⟩ (.nested departmentPath) ⟨2⟩ "id" :=
    stepAt_nested_iff.2 ⟨["site", "department"], List.prefix_refl _, rfl⟩
  rcases isPrimaryKey_run through ascent entered bound "id" with ⟨answer, asked, steps⟩
  refine ⟨through, ascent, entered, bound, step, ?_⟩
  rw [asked, steps.2 step]

/-- The property of an address is taken for the key, although the walk along the key takes its only
step at the details that the address belongs to. -/
theorem isPrimaryKey_below_reference :
    (∀ operation ∈ detailWithCity, operation.isThroughBindings = true) ∧
      (empty.run detailWithCity).Ascent ⟨0⟩ ⟨2⟩ [⟨1⟩] ⟨1⟩ ∧
      registry.table ⟨2⟩ = .ok details ∧
      details.primaryKeyBinding = .ok (.reference "person" ⟨0⟩) ∧
      ¬ ((empty.run detailWithCity).isPrimaryKey registry ⟨1⟩ "person" = .ok true ↔
        (empty.run detailWithCity).StepAt ⟨0⟩ (.reference "person" ⟨0⟩) ⟨1⟩ "person") := by
  refine ⟨by decide, .step rfl rfl rfl (.top rfl rfl), rfl, rfl, fun agree => ?_⟩
  have step := agree.1 rfl
  rw [stepAt_reference_iff] at step
  simp at step

end EntityGraph

end SqlMapper
