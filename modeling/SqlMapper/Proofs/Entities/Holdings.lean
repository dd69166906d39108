import SqlMapper.Graph.ColumnAccess

/-!
# What entities hold

The view of a graph that later files reason with: the entity under each number, and what it holds
under each name. Every operation gets one equation for each, and the checked accesses of the graph
are read off the view. From here on no proof looks at the slots or at the list of properties.

A property that holds NULL counts as vacant where an entity is looked for, and is overwritten when
one is made there.
-/

namespace SqlMapper

namespace Entity

theorem lookup_cons_eq (key name : String) (held : Property)
    (properties : List (String × Property)) :
    ((key, held) :: properties).lookup name =
      if name = key then some held else properties.lookup name := by
  by_cases same : name = key
  · simp [same]
  · simp [List.lookup_cons, beq_false_of_ne same, same]

theorem lookup_putProperty (name other : String) (property : Property)
    (properties : List (String × Property)) :
    (putProperty name property properties).lookup other =
      if other = name then some property else properties.lookup other := by
  induction properties with
  | nil => exact lookup_cons_eq name other property []
  | cons entry rest ih =>
      rcases entry with ⟨key, held⟩
      by_cases here : key = name
      · subst key
        by_cases same : other = name <;> simp [putProperty, lookup_cons_eq, same]
      · rw [putProperty, if_neg here, lookup_cons_eq, lookup_cons_eq, ih]
        by_cases same : other = key
        · subst other
          simp [here]
        · simp [same]

@[simp]
theorem property?_put (entity : Entity) (name other : String) (property : Property) :
    (entity.put name property).property? other =
      if other = name then some property else entity.property? other :=
  lookup_putProperty name other property entity.properties

end Entity

namespace EntityGraph

variable {graph : EntityGraph} {id other : EntityId} {name label : String} {entity : Entity}

/-- The number of the next entity. -/
def nextId (graph : EntityGraph) : EntityId := ⟨graph.slots.length⟩

/-- What an entity holds under a name; an entity that is not live holds nothing. -/
def held? (graph : EntityGraph) (id : EntityId) (name : String) : Option Property :=
  (graph.get? id).bind (·.property? name)

/-- The entity that an entity's property leads to, nested or referred to. -/
def next? (graph : EntityGraph) (id : EntityId) (name : String) : Option EntityId :=
  (graph.held? id name).bind Property.entity?

/-- The entity has nothing under the name, or NULL. -/
def Vacant (graph : EntityGraph) (id : EntityId) (name : String) : Prop :=
  graph.held? id name = none ∨ graph.held? id name = some (.value .null)

/-- A live entity with a property replaced or added. -/
def store (graph : EntityGraph) (id : EntityId) (name : String) (property : Property) :
    EntityGraph :=
  (graph.update id (·.put name property)).graph

theorem get?_eq_none_of_le (beyond : graph.slots.length ≤ id.index) : graph.get? id = none := by
  simp [get?, List.getElem?_eq_none beyond]

theorem index_lt_of_get? (live : graph.get? id = some entity) :
    id.index < graph.slots.length := by
  refine Nat.lt_of_not_le fun beyond => ?_
  rw [get?_eq_none_of_le beyond] at live
  cases live

@[simp]
theorem get?_empty : empty.get? id = none :=
  get?_eq_none_of_le (Nat.zero_le _)

theorem contains_iff : graph.contains id = true ↔ ∃ entity, graph.get? id = some entity :=
  Option.isSome_iff_exists

theorem contains_eq_false : graph.contains id = false ↔ graph.get? id = none := by
  simp [contains]

theorem contains_of_get? (live : graph.get? id = some entity) : graph.contains id = true :=
  contains_iff.2 ⟨entity, live⟩

@[simp]
theorem get?_nextId : graph.get? graph.nextId = none :=
  get?_eq_none_of_le (Nat.le_refl _)

theorem ne_nextId_of_get? (live : graph.get? id = some entity) : id ≠ graph.nextId := by
  rintro rfl
  rw [get?_nextId] at live
  cases live

theorem get?_insert (entity : Entity) :
    (graph.insert entity).1.get? id = if id = graph.nextId then some entity else graph.get? id := by
  rcases id with ⟨index⟩
  simp only [get?, insert, nextId, EntityId.mk.injEq]
  rcases Nat.lt_trichotomy index graph.slots.length with before | rfl | behind
  · simp [List.getElem?_append_left before, Nat.ne_of_lt before]
  · simp
  · have beyond : (graph.slots ++ [some entity]).length ≤ index := by
      simpa using Nat.succ_le_of_lt behind
    simp [List.getElem?_eq_none beyond, List.getElem?_eq_none (Nat.le_of_lt behind),
      Nat.ne_of_gt behind]

theorem get?_replace (live : graph.contains id = true) (entity : Entity) :
    (graph.replace id entity).get? other =
      if other = id then some entity else graph.get? other := by
  rcases contains_iff.1 live with ⟨_, found⟩
  have inside := index_lt_of_get? found
  rcases id with ⟨index⟩
  rcases other with ⟨place⟩
  by_cases same : place = index
  · subst place
    simp [get?, replace, inside]
  · simp [get?, replace, same, List.getElem?_set_ne (Ne.symm same)]

theorem get?_clear :
    (graph.clear id).get? other = if other = id then none else graph.get? other := by
  rcases id with ⟨index⟩
  rcases other with ⟨place⟩
  by_cases same : place = index
  · subst place
    by_cases inside : index < graph.slots.length <;> simp [get?, clear, inside]
  · simp [get?, clear, same, List.getElem?_set_ne (Ne.symm same)]

theorem get_eq_ok : graph.get id = .ok entity ↔ graph.get? id = some entity := by
  rw [get]
  cases graph.get? id <;> simp

theorem get_eq_error {error : Error} :
    graph.get id = .error error ↔
      graph.get? id = none ∧ error = .configuration (.unknownEntity id) := by
  rw [get]
  cases graph.get? id <;> simp [eq_comm]

theorem update_of_get? (live : graph.get? id = some entity) (change : Entity → Entity) :
    graph.update id change = ⟨graph.replace id (change entity), .ok ()⟩ := by
  rw [update, get_eq_ok.2 live]

theorem update_of_gone (gone : graph.get? id = none) (change : Entity → Entity) :
    graph.update id change = ⟨graph, .error (.configuration (.unknownEntity id))⟩ := by
  rw [update, get_eq_error.2 ⟨gone, rfl⟩]

theorem get?_update (change : Entity → Entity) :
    (graph.update id change).graph.get? other =
      if other = id then (graph.get? id).map change else graph.get? other := by
  cases found : graph.get? id with
  | none =>
      rw [update_of_gone found]
      by_cases same : other = id
      · subst other
        simp [found]
      · simp [same]
  | some entity =>
      rw [update_of_get? found, get?_replace (contains_of_get? found)]
      rfl

theorem length_update (change : Entity → Entity) :
    (graph.update id change).graph.slots.length = graph.slots.length := by
  rw [update]
  split <;> simp [replace]

theorem get?_store (property : Property) :
    (graph.store id name property).get? other =
      if other = id then (graph.get? id).map (·.put name property) else graph.get? other :=
  get?_update _

@[simp]
theorem contains_store (property : Property) :
    (graph.store id name property).contains other = graph.contains other := by
  rw [contains, get?_store, contains]
  by_cases same : other = id
  · subst other
    simp
  · simp [same]

@[simp]
theorem length_store (property : Property) :
    (graph.store id name property).slots.length = graph.slots.length :=
  length_update _

theorem store_of_gone (gone : graph.contains id = false) (property : Property) :
    graph.store id name property = graph := by
  rw [store, update_of_gone (contains_eq_false.1 gone)]

@[simp]
theorem held?_empty : empty.held? id name = none := by
  simp [held?]

theorem contains_of_held? {property : Property} (holds : graph.held? id name = some property) :
    graph.contains id = true := by
  rcases Option.bind_eq_some_iff.1 holds with ⟨entity, live, _⟩
  exact contains_of_get? live

theorem next?_eq_some :
    graph.next? id name = some other ↔
      graph.held? id name = some (.nested other) ∨
        graph.held? id name = some (.reference other) := by
  rw [next?]
  rcases graph.held? id name with _ | ⟨_ | _ | _⟩ <;> simp [Property.entity?]

theorem contains_of_next? (leads : graph.next? id name = some other) :
    graph.contains id = true := by
  rcases next?_eq_some.1 leads with holds | holds
  · exact contains_of_held? holds
  · exact contains_of_held? holds

/-- A link of a graph is one of another graph that holds all that the first one holds. -/
theorem next?_of_held? {after : EntityGraph}
    (kept : ∀ {property}, after.held? id name = some property → graph.held? id name = some property)
    (leads : after.next? id name = some other) : graph.next? id name = some other := by
  rcases Option.bind_eq_some_iff.1 leads with ⟨property, holds, same⟩
  exact Option.bind_eq_some_iff.2 ⟨property, kept holds, same⟩

theorem Vacant.next?_eq_none (vacant : graph.Vacant id name) : graph.next? id name = none := by
  rcases vacant with absent | null
  · simp [next?, absent]
  · simp [next?, null, Property.entity?]

/-- A property is vacant, holds a value other than NULL, or leads to an entity. -/
theorem held?_cases (graph : EntityGraph) (id : EntityId) (name : String) :
    graph.Vacant id name ∨
      (∃ value, value ≠ .null ∧ graph.held? id name = some (.value value)) ∨
        ∃ next, graph.next? id name = some next := by
  rw [Vacant, next?]
  rcases graph.held? id name with _ | ⟨value | _ | _⟩
  · exact Or.inl (Or.inl rfl)
  · by_cases null : value = .null
    · exact Or.inl (Or.inr (by rw [null]))
    · exact Or.inr (Or.inl ⟨value, null, rfl⟩)
  · exact Or.inr (Or.inr ⟨_, rfl⟩)
  · exact Or.inr (Or.inr ⟨_, rfl⟩)

theorem held?_store (live : graph.contains id = true) (property : Property)
    {place : EntityId} {label : String} :
    (graph.store id name property).held? place label =
      if place = id ∧ label = name then some property else graph.held? place label := by
  rcases contains_iff.1 live with ⟨entity, found⟩
  rw [held?, get?_store]
  by_cases same : place = id
  · subst place
    by_cases named : label = name <;> simp [held?, found, named]
  · simp [held?, same]

/-- A change to an entity that leaves its properties as they are changes nothing that is held. -/
theorem held?_update {change : Entity → Entity}
    (same : ∀ entity name, (change entity).property? name = entity.property? name) :
    (graph.update id change).graph.held? other name = graph.held? other name := by
  rw [held?, get?_update, held?]
  by_cases here : other = id
  · subst other
    cases graph.get? id <;> simp [same]
  · rw [if_neg here]

theorem held?_markReadOnly :
    (graph.markReadOnly id name).graph.held? other label = graph.held? other label :=
  held?_update fun entity label => by split <;> rfl

theorem property_eq (graph : EntityGraph) (id : EntityId) (name : String) :
    graph.property id name =
      if graph.contains id then .ok (graph.held? id name)
      else .error (.configuration (.unknownEntity id)) := by
  cases found : graph.get? id <;>
    simp [property, get, held?, contains, found, bind, Except.bind, pure, Except.pure]

theorem child_of_gone (gone : graph.contains id = false) :
    graph.child id name = .error (.configuration (.unknownEntity id)) := by
  rw [child, property_eq, if_neg (by simp [gone])]
  rfl

theorem child_of_live (live : graph.contains id = true) :
    graph.child id name =
      match graph.held? id name with
      | none | some (.value .null) => .ok none
      | some (.nested next) | some (.reference next) => .ok (some next)
      | some (.value _) => .error (.configuration (.holdsValue name id)) := by
  rw [child, property_eq, if_pos live]
  rcases graph.held? id name with _ | ⟨value | _ | _⟩
  · rfl
  · cases value <;> rfl
  · rfl
  · rfl

theorem child_of_next? (leads : graph.next? id name = some other) :
    graph.child id name = .ok (some other) := by
  rw [child_of_live (contains_of_next? leads)]
  rcases next?_eq_some.1 leads with holds | holds <;> rw [holds]

theorem child_of_vacant (live : graph.contains id = true) (vacant : graph.Vacant id name) :
    graph.child id name = .ok none := by
  rw [child_of_live live]
  rcases vacant with absent | null
  · rw [absent]
  · rw [null]

theorem child_of_value {value : Value} (present : value ≠ .null)
    (holds : graph.held? id name = some (.value value)) :
    graph.child id name = .error (.configuration (.holdsValue name id)) := by
  rw [child_of_live (contains_of_held? holds), holds]
  cases value <;> first | rfl | exact absurd rfl present

/-- Looking for an entity under a name finds one, finds the name vacant, or fails; it fails if the
holder is gone or if a value other than NULL is in the way. -/
theorem child_cases (graph : EntityGraph) (id : EntityId) (name : String) :
    (∃ next, graph.next? id name = some next ∧ graph.child id name = .ok (some next)) ∨
      (graph.contains id = true ∧ graph.Vacant id name ∧ graph.child id name = .ok none) ∨
        ((graph.contains id = true → ∃ value, value ≠ .null ∧
            graph.held? id name = some (.value value)) ∧
          ∃ error, graph.child id name = .error error) := by
  cases live : graph.contains id with
  | false => exact Or.inr (Or.inr ⟨by simp, _, child_of_gone live⟩)
  | true =>
      rcases held?_cases graph id name with vacant | ⟨value, present, holds⟩ | ⟨next, leads⟩
      · exact Or.inr (Or.inl ⟨rfl, vacant, child_of_vacant live vacant⟩)
      · exact Or.inr (Or.inr ⟨fun _ => ⟨value, present, holds⟩, _, child_of_value present holds⟩)
      · exact Or.inl ⟨next, leads, child_of_next? leads⟩

/-- Reading a value succeeds on a live entity whose property leads to no entity. -/
theorem value_eq_ok {value? : Option Value} :
    graph.value id name = .ok value? ↔
      graph.contains id = true ∧ graph.held? id name = value?.map .value := by
  rw [value, property_eq]
  cases live : graph.contains id with
  | false => simp [bind, Except.bind]
  | true =>
      rcases graph.held? id name with _ | ⟨_ | _ | _⟩ <;> cases value? <;>
        simp [bind, Except.bind, pure, Except.pure, throw, throwThe, MonadExceptOf.throw]

theorem checkWritable_forced : graph.checkWritable id name true = .ok () := rfl

end EntityGraph

end SqlMapper
