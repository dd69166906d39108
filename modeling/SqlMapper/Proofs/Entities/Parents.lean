import SqlMapper.Proofs.Entities.WellFormed

/-!
# Parents

An entity that is nested in another is found there from above, by the property that holds it, and
knows from below which entity is its parent. The two agree if what an entity holds nested is live
and has that entity as its parent. This file says what each change of a graph does to parents, and
that it keeps the two in agreement, with the one exception of a new parent for an entity that
another one holds.
-/

namespace SqlMapper

namespace EntityGraph

variable {graph : EntityGraph} {id parent child holder inner : EntityId} {name : String}
  {entity : Entity}

/-- The entity is live and has this parent. -/
def ParentOf (graph : EntityGraph) (parent id : EntityId) : Prop :=
  ∃ entity, graph.get? id = some entity ∧ entity.parent = some parent

/-- What is nested in an entity is live and has that entity as its parent. -/
def NestedInParents (graph : EntityGraph) : Prop :=
  ∀ ⦃holder inner : EntityId⦄ ⦃name : String⦄,
    graph.held? holder name = some (.nested inner) → graph.ParentOf holder inner

theorem ParentOf.unique (first : graph.ParentOf parent id) (second : graph.ParentOf holder id) :
    holder = parent := by
  rcases first with ⟨entity, live, parented⟩
  rcases second with ⟨again, liveAgain, parentedAgain⟩
  rw [live] at liveAgain
  cases liveAgain
  rw [parented] at parentedAgain
  exact (Option.some.inj parentedAgain).symm

theorem ParentOf.ne_nextId (parented : graph.ParentOf parent id) : id ≠ graph.nextId := by
  rcases parented with ⟨_, live, _⟩
  exact ne_nextId_of_get? live

theorem ParentOf.contains (parented : graph.ParentOf parent id) : graph.contains id = true := by
  rcases parented with ⟨_, live, _⟩
  exact contains_of_get? live

@[simp]
theorem not_parentOf_empty : ¬ empty.ParentOf parent id := by
  simp [ParentOf]

theorem parentOf_insert {made : Entity} :
    (graph.insert made).1.ParentOf parent id ↔
      (id = graph.nextId ∧ made.parent = some parent) ∨ graph.ParentOf parent id := by
  rw [ParentOf, get?_insert]
  by_cases new : id = graph.nextId
  · subst id
    have unborn : ¬ graph.ParentOf parent graph.nextId := fun parented => parented.ne_nextId rfl
    simp [unborn]
  · simp [new, ParentOf]

theorem parentOf_update {other : EntityId} {change : Entity → Entity}
    (same : ∀ entity, (change entity).parent = entity.parent) :
    (graph.update other change).graph.ParentOf parent id ↔ graph.ParentOf parent id := by
  rw [ParentOf, get?_update, ParentOf]
  by_cases here : id = other
  · subst id
    cases graph.get? other <;> simp [same]
  · simp [here]

theorem parentOf_create {table : Option TableId} :
    (graph.create table).1.ParentOf parent id ↔ graph.ParentOf parent id := by
  simp [create, parentOf_insert]

theorem parentOf_markReadOnly {other : EntityId} :
    (graph.markReadOnly other name).graph.ParentOf parent id ↔ graph.ParentOf parent id :=
  parentOf_update fun entity => by split <;> rfl

theorem parentOf_store {other : EntityId} {property : Property} :
    (graph.store other name property).ParentOf parent id ↔ graph.ParentOf parent id :=
  parentOf_update fun _ => rfl

theorem parentOf_unlinkFromParent {other : EntityId} :
    (graph.unlinkFromParent other entity).ParentOf parent id ↔ graph.ParentOf parent id := by
  rcases orphan : entity.parent with _ | above
  · rw [unlinkFromParent_of_orphan orphan]
  · rw [unlinkFromParent_of_parent orphan]
    exact parentOf_update fun _ => rfl

theorem parentOf_removeAll {pending : List EntityId} :
    (graph.removeAll pending).ParentOf parent id ↔
      ¬ graph.Owned pending id ∧ graph.ParentOf parent id := by
  simp only [ParentOf, get?_removeAll_eq_some, and_assoc, exists_and_left]

theorem parentOf_extend {link : Link} :
    (graph.extend holder name link).ParentOf parent id ↔
      (id = graph.nextId ∧ (link.made holder).parent = some parent) ∨ graph.ParentOf parent id := by
  rw [extend, parentOf_store, parentOf_insert]

theorem parentOf_adopt (live : graph.contains child = true) :
    (graph.adopt parent child).ParentOf holder id ↔
      if id = child then holder = parent else graph.ParentOf holder id := by
  rcases contains_iff.1 live with ⟨entity, found⟩
  rw [ParentOf, get?_adopt]
  by_cases here : id = child
  · simp [here, found, eq_comm]
  · simp [here, ParentOf]

/-- Giving an entity a parent changes nothing only if it has that parent already. -/
theorem adopt_eq_self_iff (live : graph.contains child = true) :
    graph.adopt parent child = graph ↔ graph.ParentOf parent child := by
  constructor
  · intro same
    have parented : (graph.adopt parent child).ParentOf parent child := by
      rw [parentOf_adopt live, if_pos rfl]
    rwa [same] at parented
  · rintro ⟨entity, found, same⟩
    rcases List.getElem?_eq_some_iff.1 (Option.join_eq_some_iff.1 found) with ⟨inside, there⟩
    have unchanged : { entity with parent := some parent } = entity := by rw [← same]
    rw [adopt, update_of_get? found, unchanged, replace, ← there, List.set_getElem_self]

theorem nestedInParents_empty : empty.NestedInParents := by
  intro holder inner name holds
  simp at holds

namespace NestedInParents

theorem insert (nested : graph.NestedInParents) {made : Entity}
    (bare : ∀ name, made.property? name = none) : (graph.insert made).1.NestedInParents := by
  intro holder inner name holds
  rw [held?_insert bare] at holds
  exact parentOf_insert.2 (Or.inr (nested holds))

/-- A stored entity has to be a child of the one that it is stored in. -/
theorem store (nested : graph.NestedInParents) {property : Property}
    (fits : ∀ inner, property = .nested inner → graph.ParentOf id inner) (name : String) :
    (graph.store id name property).NestedInParents := by
  intro holder inner label holds
  rw [parentOf_store]
  cases live : graph.contains id with
  | false =>
      rw [store_of_gone live] at holds
      exact nested holds
  | true =>
      rw [held?_store live] at holds
      split at holds
      · next here =>
        rw [here.1]
        exact fits inner (Option.some.inj holds)
      · exact nested holds

theorem extend (nested : graph.NestedInParents) (holder : EntityId) (name : String) (link : Link) :
    (graph.extend holder name link).NestedInParents := by
  refine (nested.insert fun _ => link.property?_made _ _).store (fun inner same => ?_) name
  cases link with
  | nested =>
      cases same
      exact parentOf_insert.2 (Or.inl ⟨rfl, rfl⟩)
  | reference table => cases same

theorem markReadOnly (nested : graph.NestedInParents) (id : EntityId) (name : String) :
    (graph.markReadOnly id name).graph.NestedInParents := by
  intro holder inner label holds
  rw [held?_markReadOnly] at holds
  exact parentOf_markReadOnly.2 (nested holds)

/-- What is nested in an entity that is not removed is not removed either: the removed entity itself
has been dropped by its parent, and every other one goes with the holder that it has. -/
theorem not_owned (nested : graph.NestedInParents) (formed : graph.WellFormed)
    (live : graph.get? id = some entity)
    (free : ¬ (graph.unlinkFromParent id entity).Owned [id] holder)
    (holds : (graph.unlinkFromParent id entity).held? holder name = some (.nested inner)) :
    ¬ (graph.unlinkFromParent id entity).Owned [id] inner := by
  rcases (formed.held?_unlinkFromParent entity).1 holds with ⟨before, stays⟩
  have parented := nested before
  intro owned
  rcases owned.cases_tail with member | ⟨owner, ownedToo, holdsToo⟩
  · have same := List.mem_singleton.1 member
    subst inner
    rcases parented with ⟨found, again, above⟩
    rw [live] at again
    cases again
    exact stays ⟨above, rfl⟩
  · rcases (formed.unlinkFromParent id entity).holdsNested_iff.1 holdsToo with ⟨label, there⟩
    have owns := nested ((formed.held?_unlinkFromParent entity).1 there).1
    exact free (parented.unique owns ▸ ownedToo)

theorem remove (nested : graph.NestedInParents) (formed : graph.WellFormed) (id : EntityId) :
    (graph.remove id).graph.NestedInParents := by
  intro holder inner name holds
  cases found : graph.get? id with
  | none =>
      rw [remove_of_gone found] at holds ⊢
      exact nested holds
  | some entity =>
      rw [remove_of_live found] at holds ⊢
      rcases held?_removeAll_eq_some.1 holds with ⟨free, there⟩
      have before := ((formed.held?_unlinkFromParent entity).1 there).1
      exact parentOf_removeAll.2 ⟨nested.not_owned formed found free there,
        parentOf_unlinkFromParent.2 (nested before)⟩

theorem bindingChange {after : EntityGraph} (nested : graph.NestedInParents)
    (formed : graph.WellFormed) (change : BindingChange graph after) : after.NestedInParents := by
  cases change with
  | create table => exact nested.insert fun _ => rfl
  | extend link live vacant => exact nested.extend _ _ link
  | store value live free => exact nested.store (by simp) _
  | lock id name => exact nested.markReadOnly id name
  | remove id => exact nested.remove formed id

/-- A new parent fits only a child that no other entity holds. -/
theorem adopt_iff (nested : graph.NestedInParents) (live : graph.contains child = true) :
    (graph.adopt parent child).NestedInParents ↔
      ∀ holder name, graph.held? holder name = some (.nested child) → holder = parent := by
  constructor
  · intro kept holder name holds
    have parented := kept (held?_adopt.trans holds)
    rw [parentOf_adopt live, if_pos rfl] at parented
    exact parented
  · intro alone holder inner name holds
    rw [held?_adopt] at holds
    rw [parentOf_adopt live]
    split
    · next same =>
      subst inner
      exact alone holder name holds
    · exact nested holds

end NestedInParents

end EntityGraph

end SqlMapper
