import SqlMapper.Proofs.Entities.Walks

/-!
# How graphs grow along a walk

A walk only adds to a graph. Live entities stay, with their tables, parents and read-only names; a
property changes only if it was vacant, and then leads to an entity that the walk made. So the links
that a walk has followed or made are never redirected behind its back, and the finished trail can be
followed again from its start.

An entity is made with a number that no entity had before, and the walk goes on from it. This is why
the walk holds each entity that it makes by one property only, the one that it came by.
-/

namespace SqlMapper

/-- The second entity has the table, the parent, and the read-only names of the first. -/
structure Entity.Keeps (before now : Entity) : Prop where
  table : now.table = before.table
  parent : now.parent = before.parent
  readOnly : now.readOnly = before.readOnly

theorem Entity.Keeps.refl (entity : Entity) : entity.Keeps entity :=
  ⟨rfl, rfl, rfl⟩

theorem Entity.Keeps.trans {before middle after : Entity} (first : before.Keeps middle)
    (second : middle.Keeps after) : before.Keeps after :=
  ⟨second.table.trans first.table, second.parent.trans first.parent,
    second.readOnly.trans first.readOnly⟩

theorem Entity.keeps_put (entity : Entity) (name : String) (property : Property) :
    entity.Keeps (entity.put name property) :=
  ⟨rfl, rfl, rfl⟩

namespace EntityGraph

/-- An entity with this number was made on the way from the first graph to the second. -/
def MadeSince (before after : EntityGraph) (id : EntityId) : Prop :=
  before.slots.length ≤ id.index ∧ id.index < after.slots.length

/-- The second graph is the first with entities added, each in a property that was vacant. -/
structure Grown (before after : EntityGraph) : Prop where
  length_le : before.slots.length ≤ after.slots.length
  keeps : ∀ {id : EntityId} {entity : Entity}, before.get? id = some entity →
    ∃ now, after.get? id = some now ∧ entity.Keeps now
  live : ∀ id, after.contains id = true ↔ before.contains id = true ∨ MadeSince before after id
  held : ∀ id name, after.held? id name = before.held? id name ∨
    (before.Vacant id name ∧
      ∃ made, MadeSince before after made ∧ after.next? id name = some made)
  links : ∀ {id next : EntityId} {name : String}, after.next? id name = some next →
    before.next? id name = some next ∨ MadeSince before after next

variable {before middle after graph : EntityGraph} {holder entity last id next : EntityId}
  {name : String} {link : Link} {steps : List (String × Link)}

theorem MadeSince.of_first (first : MadeSince before middle id)
    (le : middle.slots.length ≤ after.slots.length) : MadeSince before after id :=
  ⟨first.1, Nat.lt_of_lt_of_le first.2 le⟩

theorem MadeSince.of_second (second : MadeSince middle after id)
    (le : before.slots.length ≤ middle.slots.length) : MadeSince before after id :=
  ⟨Nat.le_trans le second.1, second.2⟩

/-- What was made on the way was made on its first part or on its second. -/
theorem MadeSince.first_or_second (made : MadeSince before after id) (middle : EntityGraph) :
    MadeSince before middle id ∨ MadeSince middle after id := by
  rcases Nat.lt_or_ge id.index middle.slots.length with first | second
  · exact Or.inl ⟨made.1, first⟩
  · exact Or.inr ⟨second, made.2⟩

theorem madeSince_extend :
    MadeSince graph (graph.extend holder name link) id ↔ id = graph.nextId := by
  rw [MadeSince, length_extend]
  constructor
  · rintro ⟨lower, upper⟩
    rcases id with ⟨index⟩
    exact congrArg EntityId.mk (Nat.le_antisymm (Nat.le_of_lt_succ upper) lower)
  · rintro rfl
    exact ⟨Nat.le_refl _, Nat.lt_succ_self _⟩

namespace Grown

theorem refl (graph : EntityGraph) : Grown graph graph where
  length_le := Nat.le_refl _
  keeps live := ⟨_, live, .refl _⟩
  live id := by
    have none : ¬ MadeSince graph graph id := fun made =>
      Nat.lt_irrefl _ (Nat.lt_of_le_of_lt made.1 made.2)
    simp [none]
  held _ _ := Or.inl rfl
  links leads := Or.inl leads

/-- A link that was there is still there. -/
theorem next? (grown : Grown before after) (leads : before.next? id name = some next) :
    after.next? id name = some next := by
  rcases grown.held id name with same | ⟨vacant, _⟩
  · rw [EntityGraph.next?, same]
    exact leads
  · rw [vacant.next?_eq_none] at leads
    cases leads

theorem trans (first : Grown before middle) (second : Grown middle after) :
    Grown before after where
  length_le := Nat.le_trans first.length_le second.length_le
  keeps live := by
    rcases first.keeps live with ⟨now, stillLive, kept⟩
    rcases second.keeps stillLive with ⟨later, laterLive, laterKept⟩
    exact ⟨later, laterLive, kept.trans laterKept⟩
  live id := by
    rw [second.live, first.live]
    constructor
    · rintro ((live | made) | made)
      · exact Or.inl live
      · exact Or.inr (made.of_first second.length_le)
      · exact Or.inr (made.of_second first.length_le)
    · rintro (live | made)
      · exact Or.inl (Or.inl live)
      · rcases made.first_or_second middle with made | made
        · exact Or.inl (Or.inr made)
        · exact Or.inr made
  held id name := by
    rcases first.held id name with same | ⟨vacant, made, madeFirst, leads⟩
    · rcases second.held id name with again | ⟨vacant, made, madeSecond, leads⟩
      · exact Or.inl (again.trans same)
      · rw [Vacant, same] at vacant
        exact Or.inr ⟨vacant, made, madeSecond.of_second first.length_le, leads⟩
    · exact Or.inr ⟨vacant, made, madeFirst.of_first second.length_le, second.next? leads⟩
  links leads := by
    rcases second.links leads with old | made
    · rcases first.links old with older | made
      · exact Or.inl older
      · exact Or.inr (made.of_first second.length_le)
    · exact Or.inr (made.of_second first.length_le)

end Grown

theorem grown_extend (live : graph.contains holder = true) (vacant : graph.Vacant holder name) :
    Grown graph (graph.extend holder name link) where
  length_le := by
    rw [length_extend]
    exact Nat.le_succ _
  keeps {id entity} found := by
    rw [get?_extend live, if_neg (ne_nextId_of_get? found)]
    by_cases here : id = holder
    · subst id
      exact ⟨_, by rw [if_pos rfl, found]; rfl, entity.keeps_put _ _⟩
    · exact ⟨entity, by rw [if_neg here, found], .refl entity⟩
  live id := by
    rw [contains_extend, madeSince_extend, or_comm]
  held id label := by
    by_cases here : id = holder ∧ label = name
    · rcases here with ⟨rfl, rfl⟩
      refine Or.inr ⟨vacant, graph.nextId, madeSince_extend.2 rfl, ?_⟩
      rw [next?_extend live, if_pos ⟨rfl, rfl⟩]
    · exact Or.inl (by rw [held?_extend live, if_neg here])
  links {id next label} leads := by
    rw [next?_extend live] at leads
    split at leads
    · cases leads
      exact Or.inr (madeSince_extend.2 rfl)
    · exact Or.inl leads

namespace Trail

theorem grown (trail : Trail graph entity steps after last) : Grown graph after := by
  induction trail with
  | stop graph entity => exact .refl graph
  | follow link leads rest ih => exact ih
  | make live vacant rest ih => exact (grown_extend live vacant).trans ih

/-- The link that a walk makes is there when the walk is over. -/
theorem next?_made (live : graph.contains entity = true)
    (rest : Trail (graph.extend entity name link) graph.nextId steps after last) :
    after.next? entity name = some graph.nextId := by
  refine rest.grown.next? ?_
  rw [next?_extend live, if_pos ⟨rfl, rfl⟩]

/-- A finished trail can be followed again. -/
theorem follow_eq (trail : Trail graph entity steps after last) :
    after.follow entity (steps.map Prod.fst) = some last := by
  induction trail with
  | stop graph entity => rfl
  | follow link leads rest ih =>
      rw [List.map_cons, EntityGraph.follow, rest.grown.next? leads]
      exact ih
  | make live vacant rest ih =>
      rw [List.map_cons, EntityGraph.follow, rest.next?_made live]
      exact ih

/-- An entity that a walk made is held by the property that the walk came by, and by no other one
that did not lead to its number before. -/
theorem held_once (trail : Trail graph entity steps after last) {made : EntityId}
    (new : MadeSince graph after made) :
    ∃ passed name holder, passed ++ [name] <+: steps.map Prod.fst ∧
      after.follow entity passed = some holder ∧ after.next? holder name = some made ∧
      ∀ id label, after.next? id label = some made →
        (id = holder ∧ label = name) ∨ graph.next? id label = some made := by
  induction trail with
  | stop graph entity => exact absurd (Nat.lt_of_le_of_lt new.1 new.2) (Nat.lt_irrefl _)
  | @follow graph after entity next last name link steps leads rest ih =>
      rcases ih new with ⟨passed, label, holder, begun, reached, leadsTo, once⟩
      refine ⟨name :: passed, label, holder, ?_, ?_, leadsTo, once⟩
      · exact (List.cons_prefix_cons).2 ⟨rfl, begun⟩
      · rw [EntityGraph.follow, rest.grown.next? leads]
        exact reached
  | @make graph after entity last name link steps live vacant rest ih =>
      have leads : after.next? entity name = some graph.nextId := rest.next?_made live
      rcases new.first_or_second (graph.extend entity name link) with first | later
      · -- The entity made by this step: what leads to it, leads there since this step.
        rw [madeSince_extend] at first
        subst made
        refine ⟨[], name, entity, ⟨_, rfl⟩, rfl, leads, fun id label leadsTo => ?_⟩
        rcases rest.grown.links leadsTo with old | newer
        · rw [next?_extend live] at old
          by_cases here : id = entity ∧ label = name
          · exact Or.inl here
          · rw [if_neg here] at old
            exact Or.inr old
        · have beyond := newer.1
          rw [length_extend] at beyond
          exact absurd beyond (Nat.not_succ_le_self _)
      · rcases ih later with ⟨passed, label, holder, begun, reached, leadsTo, once⟩
        refine ⟨name :: passed, label, holder, ?_, ?_, leadsTo, fun id other leadsThere => ?_⟩
        · exact (List.cons_prefix_cons).2 ⟨rfl, begun⟩
        · rw [EntityGraph.follow, leads]
          exact reached
        · rcases once id other leadsThere with here | old
          · exact Or.inl here
          · rw [next?_extend live] at old
            split at old
            · cases old
              have beyond := later.1
              rw [length_extend] at beyond
              exact absurd beyond (Nat.not_succ_le_self _)
            · exact Or.inr old

end Trail

theorem next?_store_value (live : graph.contains id = true) (free : graph.next? id name = none)
    (value : Value) (place : EntityId) (label : String) :
    (graph.store id name (.value value)).next? place label = graph.next? place label := by
  rw [next?, held?_store live]
  by_cases here : place = id ∧ label = name
  · rcases here with ⟨rfl, rfl⟩
    rw [free]
    simp [Property.entity?]
  · rw [if_neg here, next?]

theorem follow_congr (same : ∀ id name, after.next? id name = before.next? id name)
    (entity : EntityId) (names : List String) :
    after.follow entity names = before.follow entity names := by
  induction names generalizing entity with
  | nil => rfl
  | cons name names ih =>
      simp only [follow, same]
      cases before.next? entity name with
      | none => rfl
      | some next => exact ih next

end EntityGraph

end SqlMapper
