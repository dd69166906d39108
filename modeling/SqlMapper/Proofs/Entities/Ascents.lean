import Mathlib.Data.List.Forall2
import Mathlib.Data.List.Nodup
import Mathlib.Data.List.Perm.Subperm
import SqlMapper.Graph.PrimaryKey
import SqlMapper.Proofs.Entities.WellFormed

/-!
# The way up to a table

The table that an entity belongs to is found by going up through parents. The way up is a relation:
it ends at the first entity with a table, and keeps the entities that it leaves behind. It comes to
no entity twice, so the search for a table, which may go up as often as there are entities, finds it
in every graph.

A key with a nested path is then compared level by level, and this comes down to names that could be
chosen: one for each level, all of them together at the start of the path.
-/

namespace SqlMapper

theorem Entity.NamesDistinct.mem_namesOf {entity : Entity} {name : String}
    (distinct : entity.NamesDistinct) {other : EntityId} :
    name ∈ entity.namesOf other ↔
      (entity.property? name).bind Property.entity? = some other := by
  simp only [Entity.namesOf, List.mem_map, List.mem_filter, Option.bind_eq_some_iff,
    distinct.property?_eq_some, beq_iff_eq]
  constructor
  · rintro ⟨⟨label, held⟩, ⟨member, leads⟩, rfl⟩
    exact ⟨held, member, leads⟩
  · rintro ⟨held, member, leads⟩
    exact ⟨(name, held), ⟨member, leads⟩, rfl⟩

namespace EntityGraph

variable {graph : EntityGraph} {holder id parent : EntityId} {table : TableId}
  {below : List EntityId} {name : String} {entity : Entity}

theorem WellFormed.mem_namesOf (formed : graph.WellFormed) (live : graph.get? id = some entity)
    {other : EntityId} : name ∈ entity.namesOf other ↔ graph.next? id name = some other := by
  rw [(formed.distinct live).mem_namesOf, next?, held?, live, Option.bind_some]

/-- The way up from an entity over those without a table to the first one that has a table. -/
inductive Ascent (graph : EntityGraph) (holder : EntityId) (table : TableId) :
    List EntityId → EntityId → Prop
  | top {entity : Entity} (live : graph.get? holder = some entity)
      (typed : entity.table = some table) : Ascent graph holder table [] holder
  | step {below : List EntityId} {id parent : EntityId} {entity : Entity}
      (live : graph.get? id = some entity) (untyped : entity.table = none)
      (parented : entity.parent = some parent) (rest : Ascent graph holder table below parent) :
      Ascent graph holder table (id :: below) id

namespace Ascent

theorem exists_live (ascent : graph.Ascent holder table below id) :
    ∃ entity, graph.get? id = some entity := by
  cases ascent with
  | top live typed => exact ⟨_, live⟩
  | step live untyped parented rest => exact ⟨_, live⟩

theorem exists_typed (ascent : graph.Ascent holder table below id) :
    ∃ entity, graph.get? holder = some entity ∧ entity.table = some table := by
  induction ascent with
  | top live typed => exact ⟨_, live, typed⟩
  | step live untyped parented rest ih => exact ih

theorem ne_holder (ascent : graph.Ascent holder table below parent)
    (live : graph.get? id = some entity) (untyped : entity.table = none) : holder ≠ id := by
  rintro rfl
  rcases ascent.exists_typed with ⟨top, liveTop, typed⟩
  rw [live] at liveTop
  cases liveTop
  simp [untyped] at typed

theorem headD_eq (ascent : graph.Ascent holder table below id) : below.headD holder = id := by
  cases ascent <;> rfl

/-- The search finds the way up if it may go that far. -/
theorem ownershipWithin_eq (ascent : graph.Ascent holder table below id) (start : EntityId)
    {parents : Nat} (enough : below.length < parents) :
    graph.ownershipWithin start id parents = .ok ⟨below, holder, table⟩ := by
  induction ascent generalizing parents with
  | top live typed =>
      rcases parents with _ | parents
      · simp at enough
      · simp only [ownershipWithin, get_eq_ok.2 live, typed]
  | step live untyped parented rest ih =>
      rcases parents with _ | parents
      · simp at enough
      · have found := ih (Nat.lt_of_succ_lt_succ enough)
        simp only [ownershipWithin, get_eq_ok.2 live, untyped, parented, found]

/-- There is one way up from an entity. -/
theorem unique {others : List EntityId} (ascent : graph.Ascent holder table below id)
    (again : graph.Ascent holder table others id) : below = others := by
  induction ascent generalizing others with
  | top live typed =>
      cases again with
      | top _ _ => rfl
      | step liveAgain untyped parented rest =>
          rw [live] at liveAgain
          cases liveAgain
          simp [untyped] at typed
  | step live untyped parented rest ih =>
      cases again with
      | top liveAgain typed =>
          rw [live] at liveAgain
          cases liveAgain
          simp [untyped] at typed
      | step liveAgain _ parentedAgain restAgain =>
          rw [live] at liveAgain
          cases liveAgain
          rw [parented] at parentedAgain
          cases parentedAgain
          rw [ih restAgain]

/-- From each entity on the way up the way goes on, and is no longer. -/
theorem exists_of_mem {passed : EntityId} (ascent : graph.Ascent holder table below id)
    (member : passed ∈ below) :
    ∃ others, graph.Ascent holder table others passed ∧ others.length ≤ below.length := by
  induction ascent with
  | top live typed => cases member
  | @step below id parent entity live untyped parented rest ih =>
      rcases List.mem_cons.1 member with rfl | above
      · exact ⟨_, .step live untyped parented rest, Nat.le_refl _⟩
      · rcases ih above with ⟨others, further, le⟩
        exact ⟨others, further, Nat.le_succ_of_le le⟩

/-- The way up comes to no entity twice. -/
theorem nodup (ascent : graph.Ascent holder table below id) : below.Nodup := by
  induction ascent with
  | top live typed => exact List.nodup_nil
  | @step below id parent entity live untyped parented rest ih =>
      refine List.nodup_cons.2 ⟨fun member => ?_, ih⟩
      rcases rest.exists_of_mem member with ⟨others, back, le⟩
      have same := unique (.step live untyped parented rest) back
      rw [← same, List.length_cons] at le
      exact Nat.not_succ_le_self _ le

theorem length_le (ascent : graph.Ascent holder table below id) :
    below.length ≤ graph.slots.length := by
  have injective : Function.Injective EntityId.index := by
    rintro ⟨first⟩ ⟨second⟩ rfl
    rfl
  have distinct : (below.map EntityId.index).Nodup := List.Nodup.map injective ascent.nodup
  have inside : below.map EntityId.index ⊆ List.range graph.slots.length := by
    intro index member
    rcases List.mem_map.1 member with ⟨passed, above, rfl⟩
    rcases ascent.exists_of_mem above with ⟨_, further, _⟩
    rcases further.exists_live with ⟨_, live⟩
    exact List.mem_range.2 (index_lt_of_get? live)
  simpa using (List.subperm_of_subset distinct inside).length_le

/-- The search for a table finds the way up. -/
theorem ownership_eq (ascent : graph.Ascent holder table below id) :
    graph.ownership id = .ok ⟨below, holder, table⟩ :=
  ascent.ownershipWithin_eq id (Nat.lt_succ_of_le ascent.length_le)

/-- A parent that holds the entity adds the names by which it does. -/
theorem linkNames_step (ascent : graph.Ascent holder table below parent)
    (live : graph.get? parent = some entity) (holds : name ∈ entity.namesOf id) :
    graph.linkNames holder (id :: below) =
      entity.namesOf id :: graph.linkNames holder below := by
  rw [linkNames, ascent.headD_eq, live, Option.map_some]
  rcases names : entity.namesOf id with _ | ⟨first, others⟩
  · simp [names] at holds
  · rfl

end Ascent

theorem forall₂_mem_concat {names level : List String} {levels : List (List String)} :
    List.Forall₂ (· ∈ ·) names (levels ++ [level]) ↔
      ∃ passed name, names = passed ++ [name] ∧ List.Forall₂ (· ∈ ·) passed levels ∧
        name ∈ level := by
  rw [← List.forall₂_reverse_iff, List.reverse_append, List.reverse_singleton,
    List.singleton_append, List.forall₂_cons_right_iff]
  constructor
  · rintro ⟨name, rest, member, others, same⟩
    refine ⟨rest.reverse, name, ?_, ?_, member⟩
    · simpa using congrArg List.reverse same
    · simpa using List.forall₂_reverse_iff.2 others
  · rintro ⟨passed, name, rfl, others, member⟩
    refine ⟨name, passed.reverse, member, ?_, ?_⟩
    · exact List.forall₂_reverse_iff.2 others
    · simp

/-- The levels match a path if names out of them, one for each level, are its start. -/
theorem levelsMatch_iff {levels : List (List String)} {path : List String} :
    levelsMatch levels path = true ↔
      ∃ names, List.Forall₂ (· ∈ ·) names levels ∧ names <+: path := by
  induction levels generalizing path with
  | nil => simp [levelsMatch]
  | cons level levels ih =>
      simp only [List.forall₂_cons_right_iff]
      rcases path with _ | ⟨step, steps⟩
      · simp only [levelsMatch, Bool.false_eq_true, false_iff]
        rintro ⟨_, ⟨name, names, _, _, rfl⟩, begun⟩
        simp at begun
      · simp only [levelsMatch, Bool.and_eq_true, List.contains_iff_mem, ih]
        constructor
        · rintro ⟨member, names, others, begun⟩
          exact ⟨step :: names, ⟨step, names, member, others, rfl⟩,
            List.cons_prefix_cons.2 ⟨rfl, begun⟩⟩
        · rintro ⟨_, ⟨name, names, member, others, rfl⟩, begun⟩
          rcases List.cons_prefix_cons.1 begun with ⟨rfl, further⟩
          exact ⟨member, names, others, further⟩

theorem isPrimaryKey_of_reference {catalog : Catalog} {described : Table} {property : String}
    {target : TableId} (owned : graph.ownership id = .ok ⟨below, holder, table⟩)
    (entered : catalog.table table = .ok described)
    (bound : described.primaryKeyBinding = .ok (.reference property target)) (name : String) :
    graph.isPrimaryKey catalog id name = .ok (property == name) := by
  simp only [isPrimaryKey, owned, entered, bound, bind, Except.bind, pure, Except.pure]

/-- A property is the key with a nested path if names can be chosen for the levels above it that
make, together with its own name, the start of the path. -/
theorem isPrimaryKey_of_nested {catalog : Catalog} {described : Table} {path : PropertyPath}
    (owned : graph.ownership id = .ok ⟨below, holder, table⟩)
    (entered : catalog.table table = .ok described)
    (bound : described.primaryKeyBinding = .ok (.nested path)) (name : String) :
    ∃ answer, graph.isPrimaryKey catalog id name = .ok answer ∧
      (answer = true ↔ ∃ passed, passed ++ [name] <+: path.names ∧
        List.Forall₂ (· ∈ ·) passed (graph.linkNames holder below).reverse) := by
  refine ⟨levelsMatch ((graph.linkNames holder below).reverse ++ [[name]]) path.names, ?_, ?_⟩
  · simp only [isPrimaryKey, owned, entered, bound, bind, Except.bind, pure, Except.pure]
  · simp only [levelsMatch_iff, forall₂_mem_concat, List.mem_singleton]
    constructor
    · rintro ⟨_, ⟨passed, _, rfl, chosen, rfl⟩, begun⟩
      exact ⟨passed, begun, chosen⟩
    · rintro ⟨passed, begun, chosen⟩
      exact ⟨_, ⟨passed, name, rfl, chosen, rfl⟩, begun⟩

end EntityGraph

end SqlMapper
