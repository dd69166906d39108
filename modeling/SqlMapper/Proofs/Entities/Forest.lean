import Mathlib.Logic.ExistsUnique
import Mathlib.Order.WellFounded
import SqlMapper.Graph.PrimaryKey
import SqlMapper.Proofs.Entities.Parents

/-!
# Forests of nested entities

Graphs that are built through bindings are forests: what is nested in an entity is live and has it
as its parent, every parent holds its child by one property, and parents are made before their
children. The invariant is shown for each change that an operation may consist of, so it holds also
where an operation has stopped midway.

A removal takes out whole trees. An entity that stays is nested in one that stays, because an entity
that is owned by the removed one is either that one itself, which its parent has dropped, or nested
in another one that goes.

Going up through parents the numbers fall, so the search for a table ends within the bound that it
is given.
-/

namespace SqlMapper

namespace EntityGraph

open Relation (ReflTransGen)

variable {graph : EntityGraph} {id parent holder inner : EntityId} {name label : String}
  {entity : Entity}

/-- Nested entities and their parents know of each other, and parents come first. -/
structure Forest (graph : EntityGraph) : Prop extends graph.WellFormed where
  nested : ∀ {holder inner : EntityId} {name : String},
    graph.held? holder name = some (.nested inner) → graph.ParentOf holder inner
  once : ∀ {holder inner : EntityId} {name label : String},
    graph.held? holder name = some (.nested inner) →
      graph.held? holder label = some (.nested inner) → label = name
  held : ∀ {parent id : EntityId}, graph.ParentOf parent id →
    ∃ name, graph.held? parent name = some (.nested id)
  before : ∀ {parent id : EntityId}, graph.ParentOf parent id → parent.index < id.index

theorem forest_empty : empty.Forest where
  toWellFormed := wellFormed_empty
  nested holds := nestedInParents_empty holds
  once holds := by simp at holds
  held parented := absurd parented not_parentOf_empty
  before parented := absurd parented not_parentOf_empty

namespace Forest

theorem nestedInParents (forest : graph.Forest) : graph.NestedInParents :=
  fun _ _ _ holds => forest.nested holds

theorem create (forest : graph.Forest) (table : Option TableId) :
    (graph.create table).1.Forest := by
  have nested : (graph.create table).1.NestedInParents :=
    forest.nestedInParents.insert fun _ => rfl
  refine ⟨forest.toWellFormed.insert rfl, fun holds => nested holds, fun first second => ?_,
    fun parented => ?_, fun parented => ?_⟩
  · exact forest.once (held?_create ▸ first) (held?_create ▸ second)
  · rcases forest.held (parentOf_create.1 parented) with ⟨name, holds⟩
    exact ⟨name, held?_create.trans holds⟩
  · exact forest.before (parentOf_create.1 parented)

/-- The new entity is nested in its holder alone, because no property held its number before. -/
theorem extend (forest : graph.Forest) (live : graph.contains holder = true)
    (vacant : graph.Vacant holder name) (link : Link) :
    (graph.extend holder name link).Forest := by
  have unheld : ∀ {place label}, graph.held? place label ≠ some (.nested graph.nextId) :=
    fun holds => (forest.nested holds).ne_nextId rfl
  have nested := forest.nestedInParents.extend holder name link
  refine ⟨forest.toWellFormed.extend holder name link, fun holds => nested holds,
    fun {place inner first second} one two => ?_, fun {above id} parented => ?_,
    fun {above id} parented => ?_⟩
  · rw [held?_extend live] at one two
    split at one <;> split at two
    · next here there => exact there.2.trans here.2.symm
    · cases link <;> cases one
      exact absurd two unheld
    · cases link <;> cases two
      exact absurd one unheld
    · exact forest.once one two
  · rcases parentOf_extend.1 parented with ⟨rfl, made⟩ | old
    · cases link with
      | nested =>
          cases made
          exact ⟨name, by rw [held?_extend live, if_pos ⟨rfl, rfl⟩]; rfl⟩
      | reference table => cases made
    · rcases forest.held old with ⟨label, holds⟩
      refine ⟨label, ?_⟩
      rw [held?_extend live, if_neg, holds]
      rintro ⟨rfl, rfl⟩
      rcases vacant with absent | null
      · simp [absent] at holds
      · simp [null] at holds
  · rcases parentOf_extend.1 parented with ⟨rfl, made⟩ | old
    · cases link with
      | nested =>
          cases made
          rcases contains_iff.1 live with ⟨_, found⟩
          exact index_lt_of_get? found
      | reference table => cases made
    · exact forest.before old

theorem store (forest : graph.Forest) (live : graph.contains id = true)
    (free : graph.next? id name = none) (value : Value) :
    (graph.store id name (.value value)).Forest := by
  have kept : ∀ {place label inner},
      (graph.store id name (.value value)).held? place label = some (.nested inner) ↔
        graph.held? place label = some (.nested inner) := by
    intro place label inner
    rw [held?_store live]
    by_cases here : place = id ∧ label = name
    · rcases here with ⟨rfl, rfl⟩
      have scalar : graph.held? place label ≠ some (.nested inner) := fun holds => by
        rw [next?_eq_some.2 (Or.inl holds)] at free
        cases free
      simp [scalar]
    · rw [if_neg here]
  have nested : (graph.store id name (.value value)).NestedInParents :=
    forest.nestedInParents.store (by simp) name
  refine ⟨?_, fun holds => nested holds, fun first second => ?_, fun parented => ?_,
    fun parented => ?_⟩
  · exact forest.toWellFormed.store id name fun next leads => by cases leads
  · exact forest.once (kept.1 first) (kept.1 second)
  · rcases forest.held (parentOf_store.1 parented) with ⟨label, holds⟩
    exact ⟨label, kept.2 holds⟩
  · exact forest.before (parentOf_store.1 parented)

theorem markReadOnly (forest : graph.Forest) (id : EntityId) (name : String) :
    (graph.markReadOnly id name).graph.Forest := by
  have nested := forest.nestedInParents.markReadOnly id name
  refine ⟨forest.toWellFormed.markReadOnly id name, fun holds => nested holds,
    fun first second => ?_, fun parented => ?_, fun parented => ?_⟩
  · exact forest.once (held?_markReadOnly ▸ first) (held?_markReadOnly ▸ second)
  · rcases forest.held (parentOf_markReadOnly.1 parented) with ⟨label, holds⟩
    exact ⟨label, held?_markReadOnly.trans holds⟩
  · exact forest.before (parentOf_markReadOnly.1 parented)

/-- The parent of an entity that is not removed is not removed either, and still holds it. -/
theorem held_of_not_owned (forest : graph.Forest) (entity : Entity)
    (free : ¬ (graph.unlinkFromParent id entity).Owned [id] inner)
    (parented : graph.ParentOf holder inner) :
    ∃ name, (graph.unlinkFromParent id entity).held? holder name = some (.nested inner) ∧
      ¬ (graph.unlinkFromParent id entity).Owned [id] holder := by
  have formed := forest.toWellFormed
  have other : inner ≠ id := fun same => free (.of_mem (List.mem_singleton.2 same))
  rcases forest.held parented with ⟨name, holds⟩
  have stays : (graph.unlinkFromParent id entity).held? holder name = some (.nested inner) := by
    rw [formed.held?_unlinkFromParent, Property.nested.injEq]
    exact ⟨holds, fun dropped => other dropped.2⟩
  refine ⟨name, stays, fun owned => free (owned.child ?_)⟩
  exact (formed.unlinkFromParent id entity).holdsNested_iff.2 ⟨name, stays⟩

theorem remove (forest : graph.Forest) (id : EntityId) : (graph.remove id).graph.Forest := by
  have formed := forest.toWellFormed
  cases found : graph.get? id with
  | none => exact remove_of_gone found ▸ forest
  | some entity =>
      have before : ∀ {place label inner},
          (graph.unlinkFromParent id entity).held? place label = some (.nested inner) →
            graph.held? place label = some (.nested inner) :=
        fun holds => ((formed.held?_unlinkFromParent entity).1 holds).1
      have nested := forest.nestedInParents.remove formed id
      rw [remove_of_live found] at nested ⊢
      refine ⟨(formed.unlinkFromParent id entity).removeAll [id], fun holds => nested holds,
        fun first second => ?_, fun parented => ?_, fun parented => ?_⟩
      · exact forest.once (before (held?_removeAll_eq_some.1 first).2)
          (before (held?_removeAll_eq_some.1 second).2)
      · rcases parentOf_removeAll.1 parented with ⟨free, old⟩
        rcases forest.held_of_not_owned entity free (parentOf_unlinkFromParent.1 old) with
          ⟨name, holds, holderFree⟩
        exact ⟨name, held?_removeAll_eq_some.2 ⟨holderFree, holds⟩⟩
      · exact forest.before (parentOf_unlinkFromParent.1 (parentOf_removeAll.1 parented).2)

theorem bindingChange {after : EntityGraph} (forest : graph.Forest)
    (change : BindingChange graph after) : after.Forest := by
  cases change with
  | create table => exact forest.create table
  | extend link live vacant => exact forest.extend live vacant link
  | store value live free => exact forest.store live free value
  | lock id name => exact forest.markReadOnly id name
  | remove id => exact forest.remove id

theorem wellFounded_parentOf (forest : graph.Forest) : WellFounded graph.ParentOf :=
  Subrelation.wf (fun parented => forest.before parented)
    (InvImage.wf EntityId.index Nat.lt_wfRel.wf)

/-- Where parents come first, the search for a table ends at an entity on the way up. -/
theorem ownershipWithin_cases (forest : graph.Forest) (start : EntityId) {current : EntityId}
    {parents : Nat} (live : graph.contains current = true) (enough : current.index < parents) :
    ∃ holder entity, ReflTransGen graph.ParentOf holder current ∧
      graph.get? holder = some entity ∧
        ((∃ below table, entity.table = some table ∧
            graph.ownershipWithin start current parents = .ok ⟨below, holder, table⟩) ∨
          (entity.table = none ∧ entity.parent = none ∧
            graph.ownershipWithin start current parents =
              .error (.configuration (.untypedEntity start)))) := by
  induction parents generalizing current with
  | zero => exact absurd enough (Nat.not_lt_zero _)
  | succ parents ih =>
      rcases contains_iff.1 live with ⟨entity, found⟩
      have step := get_eq_ok.2 found
      cases typed : entity.table with
      | some table =>
          refine ⟨current, entity, .refl, found, Or.inl ⟨[], table, typed, ?_⟩⟩
          simp only [ownershipWithin, step, typed]
      | none =>
          cases parented : entity.parent with
          | none =>
              refine ⟨current, entity, .refl, found, Or.inr ⟨typed, parented, ?_⟩⟩
              simp only [ownershipWithin, step, typed, parented]
          | some above =>
              have parentOf : graph.ParentOf above current := ⟨entity, found, parented⟩
              rcases forest.held parentOf with ⟨_, holds⟩
              rcases ih (contains_of_held? holds)
                (Nat.lt_of_lt_of_le (forest.before parentOf) (Nat.le_of_lt_succ enough)) with
                ⟨holder, top, path, there,
                  ⟨below, table, typedTop, owns⟩ | ⟨untyped, orphan, fails⟩⟩
              · refine ⟨holder, top, path.tail parentOf, there, Or.inl ⟨current :: below, table,
                  typedTop, ?_⟩⟩
                simp only [ownershipWithin, step, typed, parented, owns]
              · refine ⟨holder, top, path.tail parentOf, there, Or.inr ⟨untyped, orphan, ?_⟩⟩
                simp only [ownershipWithin, step, typed, parented, fails]

theorem owningTable_cases (forest : graph.Forest) (live : graph.contains id = true) :
    ∃ holder entity, ReflTransGen graph.ParentOf holder id ∧ graph.get? holder = some entity ∧
      ((∃ table, entity.table = some table ∧ graph.owningTable id = .ok (holder, table)) ∨
        (entity.table = none ∧ entity.parent = none ∧
          graph.owningTable id = .error (.configuration (.untypedEntity id)))) := by
  rcases contains_iff.1 live with ⟨_, found⟩
  have enough : id.index < graph.slots.length + 1 := Nat.lt_succ_of_lt (index_lt_of_get? found)
  rcases forest.ownershipWithin_cases id live enough with
    ⟨holder, entity, path, there, ⟨below, table, typed, owns⟩ | ⟨untyped, orphan, fails⟩⟩
  · refine ⟨holder, entity, path, there, Or.inl ⟨table, typed, ?_⟩⟩
    rw [owningTable, ownership, owns]
    rfl
  · refine ⟨holder, entity, path, there, Or.inr ⟨untyped, orphan, ?_⟩⟩
    rw [owningTable, ownership, fails]
    rfl

end Forest

theorem forest_run {operations : List Operation}
    (through : ∀ operation ∈ operations, operation.isThroughBindings = true) :
    (empty.run operations).Forest :=
  run_induction_through_bindings through forest_empty fun forest change =>
    forest.bindingChange change

/-- In a graph that operations through bindings lead to, what is nested is live, nested once, and
has its holder as its parent; a parent is live, holds its child by one property, and comes before
it. So parents end, and the search for the table of a live entity ends on the way up. -/
theorem nesting_run (operations : List Operation)
    (through : ∀ operation ∈ operations, operation.isThroughBindings = true) :
    (∀ holder name inner,
        (empty.run operations).held? holder name = some (.nested inner) →
          (empty.run operations).ParentOf holder inner ∧
            ∀ other label, (empty.run operations).held? other label = some (.nested inner) →
              other = holder ∧ label = name) ∧
      (∀ parent id, (empty.run operations).ParentOf parent id →
        (empty.run operations).contains parent = true ∧ parent.index < id.index ∧
          ∃! name, (empty.run operations).held? parent name = some (.nested id)) ∧
      WellFounded (empty.run operations).ParentOf ∧
      ∀ id, (empty.run operations).contains id = true →
        ∃ holder entity, ReflTransGen (empty.run operations).ParentOf holder id ∧
          (empty.run operations).get? holder = some entity ∧
            ((∃ table, entity.table = some table ∧
                (empty.run operations).owningTable id = .ok (holder, table)) ∨
              (entity.table = none ∧ entity.parent = none ∧
                (empty.run operations).owningTable id =
                  .error (.configuration (.untypedEntity id)))) := by
  have forest := forest_run through
  refine ⟨fun holder name inner holds => ⟨forest.nested holds, fun other label again => ?_⟩,
    fun parent id parented => ?_, forest.wellFounded_parentOf,
    fun id live => forest.owningTable_cases live⟩
  · have same := (forest.nested holds).unique (forest.nested again)
    subst other
    exact ⟨rfl, forest.once holds again⟩
  · rcases forest.held parented with ⟨name, holds⟩
    exact ⟨contains_of_held? holds, forest.before parented, name, holds,
      fun label again => forest.once holds again⟩

/-- The column for the city of a resident's address. -/
def cityOfResident : Column :=
  { table := "resident", name := "city", type := .text
    binding := some (.nested ⟨["address", "city"], "name"⟩) }

/-- The city of a resident is removed; a write that finds the address locked makes no new one, and a
forced write does. -/
def movingResident : List Operation :=
  [.create (some ⟨0⟩),
    .writeColumn .empty ⟨0⟩ cityOfResident (.text "Turin") false,
    .markReadOnly ⟨1⟩ "city",
    .remove ⟨2⟩,
    .writeColumn .empty ⟨0⟩ cityOfResident (.text "Milan") false,
    .writeColumn .empty ⟨0⟩ cityOfResident (.text "Milan") true]

/-- The resident whose address has lost its city. -/
def vacatedResident : EntityGraph :=
  ⟨[some { table := some ⟨0⟩, properties := [("address", .nested ⟨1⟩)] },
    some { parent := some ⟨0⟩, readOnly := ["city"] }, none]⟩

theorem run_movingResident :
    empty.run movingResident = vacatedResident.run (movingResident.drop 4) := by
  have vacated : ((empty.run (movingResident.take 3)).remove ⟨2⟩).graph = vacatedResident := by
    rw [remove_of_live rfl]
    change removeAll _ _ = _
    rw [removeAll_singleton rfl rfl]
    decide +kernel
  rw [← vacated]
  rfl

theorem nesting_run_movingResident :
    (∀ operation ∈ movingResident, operation.isThroughBindings = true) ∧
      (empty.run movingResident).held? ⟨1⟩ "city" = some (.nested ⟨3⟩) ∧
      (∃! name, (empty.run movingResident).held? ⟨1⟩ name = some (.nested ⟨3⟩)) ∧
      ∃ holder entity, ReflTransGen (empty.run movingResident).ParentOf holder ⟨3⟩ ∧
        (empty.run movingResident).get? holder = some entity ∧
          ((∃ table, entity.table = some table ∧
              (empty.run movingResident).owningTable ⟨3⟩ = .ok (holder, table)) ∨
            (entity.table = none ∧ entity.parent = none ∧
              (empty.run movingResident).owningTable ⟨3⟩ =
                .error (.configuration (.untypedEntity ⟨3⟩)))) := by
  have through : ∀ operation ∈ movingResident, operation.isThroughBindings = true := by
    decide
  rcases nesting_run movingResident through with ⟨nested, held, _, owned⟩
  have holds : (empty.run movingResident).held? ⟨1⟩ "city" = some (.nested ⟨3⟩) := by
    rw [run_movingResident]
    decide +kernel
  have live : (empty.run movingResident).contains ⟨3⟩ = true := by
    rw [run_movingResident]
    decide +kernel
  exact ⟨through, holds, (held _ _ (nested _ _ _ holds).1).2.2, owned ⟨3⟩ live⟩

end EntityGraph

end SqlMapper
