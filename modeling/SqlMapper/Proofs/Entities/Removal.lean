import Mathlib.Logic.Relation
import SqlMapper.Graph.Removal
import SqlMapper.Proofs.Entities.Holdings

/-!
# What a removal removes

A removal works through a list of pending entities, and adds to it what is nested in each entity
that it takes out. This file says what is gone in the end: what the pending entities own, that is
themselves and what is reached from them through nested properties of live entities. All others are
as they were, apart from the parent of the removed entity, which drops it first.

On the way the graph shrinks, and with it the paths through it. A path from a pending entity either
misses the entity that is taken out, or goes on behind its last visit there from an entity that is
nested in it.
-/

namespace SqlMapper

namespace EntityGraph

variable {graph : EntityGraph} {id other inner : EntityId} {entity : Entity}
  {pending rest : List EntityId}

/-- The holder is live and has the inner entity nested under some name. -/
def HoldsNested (graph : EntityGraph) (holder inner : EntityId) : Prop :=
  ∃ entity, graph.get? holder = some entity ∧ inner ∈ entity.nestedEntities

/-- The entity is reached from one of the given ones through nested properties of live entities. -/
def Owned (graph : EntityGraph) (owners : List EntityId) (id : EntityId) : Prop :=
  ∃ owner ∈ owners, Relation.ReflTransGen graph.HoldsNested owner id

theorem Owned.of_mem (member : id ∈ pending) : graph.Owned pending id :=
  ⟨id, member, .refl⟩

theorem Owned.child (owned : graph.Owned pending id) (nested : graph.HoldsNested id inner) :
    graph.Owned pending inner := by
  rcases owned with ⟨owner, member, path⟩
  exact ⟨owner, member, path.tail nested⟩

/-- An entity that is owned is one of the owners, or nested in an entity that is owned. -/
theorem Owned.cases_tail (owned : graph.Owned pending id) :
    id ∈ pending ∨ ∃ holder, graph.Owned pending holder ∧ graph.HoldsNested holder id := by
  rcases owned with ⟨owner, member, path⟩
  rcases path.cases_tail with same | ⟨holder, before, nested⟩
  · exact Or.inl (same ▸ member)
  · exact Or.inr ⟨holder, ⟨owner, member, before⟩, nested⟩

theorem not_owned_nil : ¬ graph.Owned [] id := by
  rintro ⟨_, member, _⟩
  cases member

theorem holdsNested_clear (other : EntityId) :
    (graph.clear id).HoldsNested other inner ↔ other ≠ id ∧ graph.HoldsNested other inner := by
  simp only [HoldsNested, get?_clear]
  by_cases same : other = id <;> simp [same]

/-- An entity that is not live owns nothing but itself. -/
theorem owned_cons_of_gone (gone : graph.get? id = none) :
    graph.Owned (id :: rest) other ↔ other = id ∨ graph.Owned rest other := by
  constructor
  · rintro ⟨owner, member, path⟩
    rcases List.mem_cons.1 member with rfl | member
    · rcases path.cases_head with same | ⟨_, ⟨_, live, _⟩, _⟩
      · exact Or.inl same.symm
      · rw [gone] at live
        cases live
    · exact Or.inr ⟨owner, member, path⟩
  · rintro (rfl | ⟨owner, member, path⟩)
    · exact .of_mem List.mem_cons_self
    · exact ⟨owner, List.mem_cons_of_mem _ member, path⟩

/-- A live entity owns itself and what the entities nested in it own without it. -/
theorem owned_cons_of_live (live : graph.get? id = some entity) :
    graph.Owned (id :: rest) other ↔
      other = id ∨ (graph.clear id).Owned (entity.nestedEntities ++ rest) other := by
  constructor
  · rintro ⟨owner, member, path⟩
    induction path with
    | refl =>
        rcases List.mem_cons.1 member with same | member
        · exact Or.inl same
        · exact Or.inr (.of_mem (List.mem_append_right _ member))
    | @tail holder other _ nested ih =>
        by_cases same : holder = id
        · -- The path has come back to the entity: it goes on from what is nested in it.
          subst holder
          rcases nested with ⟨_, found, member⟩
          rw [live] at found
          cases found
          exact Or.inr (.of_mem (List.mem_append_left _ member))
        · rcases ih with here | owned
          · exact absurd here same
          · exact Or.inr (owned.child ((holdsNested_clear holder).2 ⟨same, nested⟩))
  · rintro (rfl | ⟨owner, member, path⟩)
    · exact .of_mem List.mem_cons_self
    · have wider : ∀ {first second}, (graph.clear id).HoldsNested first second →
          graph.HoldsNested first second := fun nested => ((holdsNested_clear _).1 nested).2
      have started : graph.Owned (id :: rest) owner := by
        rcases List.mem_append.1 member with nested | member
        · exact Owned.child (.of_mem List.mem_cons_self) ⟨entity, live, nested⟩
        · exact .of_mem (List.mem_cons_of_mem _ member)
      induction path with
      | refl => exact started
      | tail _ nested ih => exact ih.child (wider nested)

/-- Working through pending entities removes what they own and leaves everything else. -/
theorem get?_removeAll (graph : EntityGraph) (pending : List EntityId) (other : EntityId) :
    (graph.Owned pending other → (graph.removeAll pending).get? other = none) ∧
      (¬ graph.Owned pending other →
        (graph.removeAll pending).get? other = graph.get? other) := by
  fun_induction removeAll graph pending with
  | case1 graph => exact ⟨fun owned => absurd owned not_owned_nil, fun _ => rfl⟩
  | case2 graph id rest gone ih =>
      rw [owned_cons_of_gone gone]
      constructor
      · rintro (rfl | owned)
        · by_cases owned : graph.Owned rest other
          · exact ih.1 owned
          · rw [ih.2 owned, gone]
        · exact ih.1 owned
      · intro free
        exact ih.2 fun owned => free (Or.inr owned)
  | case3 graph id rest entity live ih =>
      rw [owned_cons_of_live live]
      constructor
      · rintro (rfl | owned)
        · by_cases owned : (graph.clear other).Owned (entity.nestedEntities ++ rest) other
          · exact ih.1 owned
          · rw [ih.2 owned, get?_clear, if_pos rfl]
        · exact ih.1 owned
      · intro free
        have others : other ≠ id := fun same => free (Or.inl same)
        rw [ih.2 fun owned => free (Or.inr owned), get?_clear, if_neg others]

theorem removeAll_cons_of_live (live : graph.get? id = some entity) (rest : List EntityId) :
    graph.removeAll (id :: rest) =
      (graph.clear id).removeAll (entity.nestedEntities ++ rest) := by
  rw [removeAll]
  split
  · next gone =>
    rw [live] at gone
    cases gone
  · next found =>
    rw [live] at found
    cases found
    rfl

/-- An entity in which nothing is nested goes alone. -/
theorem removeAll_singleton (live : graph.get? id = some entity)
    (bare : entity.nestedEntities = []) : graph.removeAll [id] = graph.clear id := by
  rw [removeAll_cons_of_live live, bare, List.append_nil, removeAll]

theorem length_removeAll (graph : EntityGraph) (pending : List EntityId) :
    (graph.removeAll pending).slots.length = graph.slots.length := by
  fun_induction removeAll graph pending with
  | case1 graph => rfl
  | case2 graph id rest gone ih => exact ih
  | case3 graph id rest entity live ih => simpa [clear] using ih

theorem unlinkFromParent_of_orphan (orphan : entity.parent = none) :
    graph.unlinkFromParent id entity = graph := by
  rw [unlinkFromParent, orphan]

theorem unlinkFromParent_of_parent {parent : EntityId} (child : entity.parent = some parent) :
    graph.unlinkFromParent id entity = (graph.update parent (·.unlink id)).graph := by
  rw [unlinkFromParent, child]
  cases found : graph.get? parent with
  | none => simp [found, update_of_gone found]
  | some holder => simp [found, update_of_get? found]

theorem get?_unlinkFromParent :
    (graph.unlinkFromParent id entity).get? other =
      if entity.parent = some other then (graph.get? other).map (·.unlink id)
      else graph.get? other := by
  cases parented : entity.parent with
  | none => simp [unlinkFromParent_of_orphan parented]
  | some parent =>
      rw [unlinkFromParent_of_parent parented, get?_update]
      by_cases same : other = parent
      · subst other
        simp
      · simp [same, Ne.symm same]

theorem length_unlinkFromParent :
    (graph.unlinkFromParent id entity).slots.length = graph.slots.length := by
  cases parented : entity.parent with
  | none => rw [unlinkFromParent_of_orphan parented]
  | some parent => rw [unlinkFromParent_of_parent parented, length_update]

theorem remove_of_live (live : graph.get? id = some entity) :
    graph.remove id = ⟨(graph.unlinkFromParent id entity).removeAll [id], .ok ()⟩ := by
  rw [remove, get_eq_ok.2 live]

theorem remove_of_gone (gone : graph.get? id = none) :
    graph.remove id = ⟨graph, .error (.configuration (.unknownEntity id))⟩ := by
  rw [remove, get_eq_error.2 ⟨gone, rfl⟩]

/-- The entities that a removal leaves are those that the pending ones do not own. -/
theorem get?_removeAll_eq_some {survivor : Entity} :
    (graph.removeAll pending).get? other = some survivor ↔
      ¬ graph.Owned pending other ∧ graph.get? other = some survivor := by
  by_cases owned : graph.Owned pending other
  · simp [(get?_removeAll graph pending other).1 owned, owned]
  · simp [(get?_removeAll graph pending other).2 owned, owned]

theorem held?_removeAll_eq_some {name : String} {property : Property} :
    (graph.removeAll pending).held? other name = some property ↔
      ¬ graph.Owned pending other ∧ graph.held? other name = some property := by
  by_cases owned : graph.Owned pending other
  · simp [held?, (get?_removeAll graph pending other).1 owned, owned]
  · simp [held?, (get?_removeAll graph pending other).2 owned, owned]

end EntityGraph

end SqlMapper
