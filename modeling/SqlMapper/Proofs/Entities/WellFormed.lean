import SqlMapper.Proofs.Entities.Operations
import SqlMapper.Proofs.Entities.Removal

/-!
# Well-formed graphs

Two facts about graphs hold whatever a caller does: no entity has two properties of one name, and
every property that leads to an entity leads to one that was made already, though it may be removed
since. So an entity that is made later is not expected by any property, and what an entity holds can
be read off its list of properties as well as off its names.
-/

namespace SqlMapper

namespace Entity

variable {entity : Entity} {name : String} {property : Property}

/-- No two properties have the same name. -/
def NamesDistinct (entity : Entity) : Prop :=
  (entity.properties.map Prod.fst).Nodup

theorem lookup_eq_some_iff {properties : List (String × Property)}
    (distinct : (properties.map Prod.fst).Nodup) :
    properties.lookup name = some property ↔ (name, property) ∈ properties := by
  induction properties with
  | nil => simp
  | cons entry rest ih =>
      rcases entry with ⟨key, held⟩
      rw [List.map_cons, List.nodup_cons] at distinct
      rw [lookup_cons_eq]
      by_cases same : name = key
      · subst name
        have absent : (key, property) ∉ rest := fun member =>
          distinct.1 (List.mem_map.2 ⟨(key, property), member, rfl⟩)
        simp [absent, eq_comm]
      · simp [same, ih distinct.2]

theorem NamesDistinct.property?_eq_some (distinct : entity.NamesDistinct) :
    entity.property? name = some property ↔ (name, property) ∈ entity.properties :=
  lookup_eq_some_iff distinct

theorem NamesDistinct.mem_nestedEntities (distinct : entity.NamesDistinct) {inner : EntityId} :
    inner ∈ entity.nestedEntities ↔ ∃ name, entity.property? name = some (.nested inner) := by
  simp only [distinct.property?_eq_some, nestedEntities, List.mem_filterMap]
  constructor
  · rintro ⟨⟨name, held⟩, member, same⟩
    cases held with
    | nested other =>
        cases same
        exact ⟨name, member⟩
    | value | reference => cases same
  · rintro ⟨name, member⟩
    exact ⟨(name, .nested inner), member, rfl⟩

theorem NamesDistinct.unlink (distinct : entity.NamesDistinct) (inner : EntityId) :
    (entity.unlink inner).NamesDistinct :=
  List.Nodup.sublist (List.filter_sublist.map Prod.fst) distinct

/-- Unlinking drops the properties in which the entity is nested and no others. -/
theorem NamesDistinct.property?_unlink (distinct : entity.NamesDistinct) (inner : EntityId) :
    (entity.unlink inner).property? name = some property ↔
      entity.property? name = some property ∧ property ≠ .nested inner := by
  rw [(distinct.unlink inner).property?_eq_some, distinct.property?_eq_some, Entity.unlink,
    List.mem_filter]
  simp

theorem mem_names_putProperty {other : String} {properties : List (String × Property)} :
    other ∈ (putProperty name property properties).map Prod.fst ↔
      other = name ∨ other ∈ properties.map Prod.fst := by
  induction properties with
  | nil => simp [putProperty]
  | cons entry rest ih =>
      rcases entry with ⟨key, held⟩
      by_cases here : key = name
      · subst key
        simp [putProperty]
      · rw [putProperty, if_neg here, List.map_cons, List.mem_cons, ih, List.map_cons,
          List.mem_cons]
        exact or_left_comm

theorem nodup_names_putProperty {properties : List (String × Property)} (name : String)
    (property : Property) (distinct : (properties.map Prod.fst).Nodup) :
    ((putProperty name property properties).map Prod.fst).Nodup := by
  induction properties with
  | nil => simp [putProperty]
  | cons entry rest ih =>
      rcases entry with ⟨key, held⟩
      rw [List.map_cons, List.nodup_cons] at distinct
      by_cases here : key = name
      · subst key
        simpa [putProperty] using distinct
      · rw [putProperty, if_neg here, List.map_cons, List.nodup_cons, mem_names_putProperty]
        exact ⟨fun member => member.elim here distinct.1, ih distinct.2⟩

theorem NamesDistinct.put (distinct : entity.NamesDistinct) (name : String)
    (property : Property) : (entity.put name property).NamesDistinct :=
  nodup_names_putProperty name property distinct

end Entity

namespace EntityGraph

variable {graph : EntityGraph} {id other : EntityId} {name : String} {property : Property}

/-- No entity has two properties of one name, and every link leads to an entity that was made. -/
structure WellFormed (graph : EntityGraph) : Prop where
  distinct : ∀ {id : EntityId} {entity : Entity}, graph.get? id = some entity →
    entity.NamesDistinct
  linked : ∀ {id next : EntityId} {name : String}, graph.next? id name = some next →
    next.index < graph.slots.length

theorem wellFormed_empty : empty.WellFormed where
  distinct live := by simp at live
  linked leads := by simp [next?] at leads

namespace WellFormed

theorem insert (formed : graph.WellFormed) {made : Entity} (bare : made.properties = []) :
    (graph.insert made).1.WellFormed where
  distinct {id entity} live := by
    rw [get?_insert] at live
    split at live
    · cases live
      simp [Entity.NamesDistinct, bare]
    · exact formed.distinct live
  linked {id next name} leads := by
    have nothing : ∀ name, made.property? name = none := by simp [Entity.property?, bare]
    rw [next?, held?_insert nothing] at leads
    exact Nat.lt_of_lt_of_le (formed.linked leads) (by simp [EntityGraph.insert])

theorem update (formed : graph.WellFormed) {change : Entity → Entity}
    (same : ∀ entity, (change entity).properties = entity.properties) :
    (graph.update id change).graph.WellFormed where
  distinct {other entity} live := by
    rw [get?_update] at live
    split at live
    · rcases Option.map_eq_some_iff.1 live with ⟨before, found, rfl⟩
      rw [Entity.NamesDistinct, same]
      exact formed.distinct found
    · exact formed.distinct live
  linked {other next name} leads := by
    have unchanged : ∀ entity name, (change entity).property? name = entity.property? name := by
      simp [Entity.property?, same]
    rw [next?, held?_update unchanged] at leads
    rw [length_update]
    exact formed.linked leads

theorem store (formed : graph.WellFormed) (id : EntityId) (name : String)
    (there : ∀ next, property.entity? = some next → next.index < graph.slots.length) :
    (graph.store id name property).WellFormed where
  distinct {other entity} live := by
    rw [get?_store] at live
    split at live
    · rcases Option.map_eq_some_iff.1 live with ⟨before, found, rfl⟩
      exact (formed.distinct found).put name property
    · exact formed.distinct live
  linked {other next label} leads := by
    rw [length_store]
    have live := contains_of_next? leads
    rw [contains_store] at live
    by_cases here : other = id ∧ label = name
    · rcases here with ⟨rfl, rfl⟩
      rw [next?, held?_store live, if_pos ⟨rfl, rfl⟩] at leads
      exact there next leads
    · cases target : graph.contains id with
      | true =>
          rw [next?, held?_store target, if_neg here] at leads
          exact formed.linked leads
      | false =>
          rw [EntityGraph.store, update_of_gone (contains_eq_false.1 target)] at leads
          exact formed.linked leads

theorem extend (formed : graph.WellFormed) (holder : EntityId) (name : String) (link : Link) :
    (graph.extend holder name link).WellFormed := by
  refine (formed.insert (by cases link <;> rfl)).store holder name fun next leads => ?_
  rw [Link.entity?_property] at leads
  cases leads
  simp [nextId, EntityGraph.insert]

theorem holdsNested_iff (formed : graph.WellFormed) {inner : EntityId} :
    graph.HoldsNested id inner ↔ ∃ name, graph.held? id name = some (.nested inner) := by
  rw [HoldsNested]
  constructor
  · rintro ⟨entity, live, member⟩
    rcases (formed.distinct live).mem_nestedEntities.1 member with ⟨name, has⟩
    exact ⟨name, by rw [held?, live]; exact has⟩
  · rintro ⟨name, holds⟩
    rcases Option.bind_eq_some_iff.1 holds with ⟨entity, live, has⟩
    exact ⟨entity, live, (formed.distinct live).mem_nestedEntities.2 ⟨name, has⟩⟩

/-- The parent drops the properties in which the removed entity is nested. -/
theorem held?_unlinkFromParent (formed : graph.WellFormed) (entity : Entity) :
    (graph.unlinkFromParent id entity).held? other name = some property ↔
      graph.held? other name = some property ∧
        ¬ (entity.parent = some other ∧ property = .nested id) := by
  rw [held?, get?_unlinkFromParent]
  by_cases parented : entity.parent = some other
  · rw [if_pos parented, held?]
    cases found : graph.get? other with
    | none => simp
    | some holder => simp [(formed.distinct found).property?_unlink, parented]
  · simp [parented, held?]

theorem unlinkFromParent (formed : graph.WellFormed) (id : EntityId) (entity : Entity) :
    (graph.unlinkFromParent id entity).WellFormed where
  distinct {other survivor} live := by
    rw [get?_unlinkFromParent] at live
    split at live
    · rcases Option.map_eq_some_iff.1 live with ⟨before, found, rfl⟩
      exact (formed.distinct found).unlink id
    · exact formed.distinct live
  linked {other next name} leads := by
    rw [length_unlinkFromParent]
    exact formed.linked
      (next?_of_held? (fun holds => ((formed.held?_unlinkFromParent _).1 holds).1) leads)

theorem removeAll (formed : graph.WellFormed) (pending : List EntityId) :
    (graph.removeAll pending).WellFormed where
  distinct live := formed.distinct (get?_removeAll_eq_some.1 live).2
  linked {other next name} leads := by
    rw [length_removeAll]
    exact formed.linked (next?_of_held? (fun holds => (held?_removeAll_eq_some.1 holds).2) leads)

theorem remove (formed : graph.WellFormed) (id : EntityId) :
    (graph.remove id).graph.WellFormed := by
  cases found : graph.get? id with
  | none => exact remove_of_gone found ▸ formed
  | some entity =>
      rw [remove_of_live found]
      exact (formed.unlinkFromParent id entity).removeAll [id]

theorem markReadOnly (formed : graph.WellFormed) (id : EntityId) (name : String) :
    (graph.markReadOnly id name).graph.WellFormed :=
  formed.update fun entity => by split <;> rfl

theorem bindingChange {after : EntityGraph} (formed : graph.WellFormed)
    (change : BindingChange graph after) : after.WellFormed := by
  cases change with
  | create table => exact formed.insert rfl
  | extend link live vacant => exact formed.extend _ _ link
  | store value live free => exact formed.store _ _ fun next leads => by cases leads
  | lock id name => exact formed.markReadOnly id name
  | remove id => exact formed.remove id

theorem change {after : EntityGraph} (formed : graph.WellFormed) (change : Change graph after) :
    after.WellFormed := by
  cases change with
  | binding change => exact formed.bindingChange change
  | createChild live => exact formed.insert rfl
  | adopt parent name live =>
      rcases contains_iff.1 live with ⟨_, found⟩
      refine (formed.update ?_).store parent name fun next leads => ?_
      · exact fun _ => rfl
      · cases leads
        rw [length_update]
        exact index_lt_of_get? found
  | refer owner name live =>
      rcases contains_iff.1 live with ⟨_, found⟩
      refine formed.store owner name fun next leads => ?_
      cases leads
      exact index_lt_of_get? found

end WellFormed

/-- Every graph that operations lead to is well-formed. -/
theorem wellFormed_run (operations : List Operation) : (empty.run operations).WellFormed :=
  run_induction operations wellFormed_empty fun formed change => formed.change change

end EntityGraph

end SqlMapper
