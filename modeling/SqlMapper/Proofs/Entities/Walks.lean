import SqlMapper.Proofs.Entities.Holdings

/-!
# Walks from entity to entity

A route is a list of steps and an ending. Each step follows a property to an entity; where a write
finds the property vacant it makes the entity, nested below its holder or as a row of a table that
stands on its own. This file brings reading and writing along a route into that one form, and says
once what a write can do: it leaves a trail, a walk that made what was missing, and then stores the
value at the end of the trail or fails without touching anything more.

What becomes of graphs under writes is shown in later files by induction on the trail alone.
-/

namespace SqlMapper

/-- How an entity that a walk makes hangs together with the one that it is made for. -/
inductive Link where
  | nested
  /-- The entity is a row of a table and stands on its own. -/
  | reference (table : TableId)

namespace Link

/-- The entity that is made. -/
def made (holder : EntityId) : Link → Entity
  | nested => { parent := some holder }
  | reference table => { table := some table }

/-- What the holder's property then holds. -/
def property (entity : EntityId) : Link → Property
  | nested => .nested entity
  | reference _ => .reference entity

@[simp]
theorem entity?_property (link : Link) (entity : EntityId) :
    (link.property entity).entity? = some entity := by
  cases link <;> rfl

@[simp]
theorem property?_made (link : Link) (holder : EntityId) (name : String) :
    (link.made holder).property? name = none := by
  cases link <;> rfl

end Link

namespace EntityGraph

variable {graph : EntityGraph} {holder entity id : EntityId} {name label : String} {link : Link}

/-- The graph in which an entity is made and put under a name of its holder. -/
def extend (graph : EntityGraph) (holder : EntityId) (name : String) (link : Link) : EntityGraph :=
  (graph.insert (link.made holder)).1.store holder name (link.property graph.nextId)

theorem length_extend : (graph.extend holder name link).slots.length = graph.slots.length + 1 := by
  simp [extend, insert]

theorem contains_insert (made : Entity) :
    (graph.insert made).1.contains id = true ↔ id = graph.nextId ∨ graph.contains id = true := by
  rw [contains, get?_insert]
  by_cases new : id = graph.nextId <;> simp [new, contains]

theorem contains_extend :
    (graph.extend holder name link).contains id = true ↔
      id = graph.nextId ∨ graph.contains id = true := by
  rw [extend, contains_store, contains_insert]

theorem get?_extend (live : graph.contains holder = true) :
    (graph.extend holder name link).get? id =
      if id = graph.nextId then some (link.made holder)
      else if id = holder then (graph.get? holder).map (·.put name (link.property graph.nextId))
      else graph.get? id := by
  rcases contains_iff.1 live with ⟨_, found⟩
  have old := ne_nextId_of_get? found
  rw [extend, get?_store, get?_insert, get?_insert, if_neg old]
  by_cases new : id = graph.nextId
  · subst id
    simp [old.symm]
  · simp [new]

theorem held?_insert {made : Entity} (bare : ∀ name, made.property? name = none) :
    (graph.insert made).1.held? id label = graph.held? id label := by
  rw [held?, get?_insert, held?]
  by_cases new : id = graph.nextId
  · subst id
    simp [bare]
  · simp [new]

theorem held?_create {table : Option TableId} :
    (graph.create table).1.held? id label = graph.held? id label :=
  held?_insert fun _ => rfl

theorem held?_extend (live : graph.contains holder = true) :
    (graph.extend holder name link).held? id label =
      if id = holder ∧ label = name then some (link.property graph.nextId)
      else graph.held? id label := by
  rw [extend, held?_store (contains_insert _ |>.2 (Or.inr live)), held?_insert (by simp)]

theorem next?_extend (live : graph.contains holder = true) :
    (graph.extend holder name link).next? id label =
      if id = holder ∧ label = name then some graph.nextId else graph.next? id label := by
  rw [next?, held?_extend live]
  by_cases here : id = holder ∧ label = name
  · simp [here]
  · simp [here, next?]

theorem held?_extend_nextId (live : graph.contains holder = true) :
    (graph.extend holder name link).held? graph.nextId label = none := by
  rcases contains_iff.1 live with ⟨_, found⟩
  rw [held?_extend live, if_neg fun here => ne_nextId_of_get? found here.1.symm]
  simp [held?]

/-- The entity that a step leads to, made if the step finds its name vacant. -/
def ensure (graph : EntityGraph) (entity : EntityId) (name : String) (force : Bool) :
    Link → Outcome EntityId
  | .nested => graph.ensureNested entity name force
  | .reference table => graph.ensureReference entity name table force

theorem ensure_of_next? {next : EntityId} (leads : graph.next? entity name = some next)
    (force : Bool) : graph.ensure entity name force link = ⟨graph, .ok next⟩ := by
  cases link with
  | nested => rw [ensure, ensureNested, child_of_next? leads]
  | reference table => rw [ensure, ensureReference, child_of_next? leads]

theorem ensure_of_error {error : Error} (failed : graph.child entity name = .error error)
    (force : Bool) : graph.ensure entity name force link = ⟨graph, .error error⟩ := by
  cases link with
  | nested => rw [ensure, ensureNested, failed]
  | reference table => rw [ensure, ensureReference, failed]

theorem ensure_of_locked {force : Bool} {error : Error} (live : graph.contains entity = true)
    (vacant : graph.Vacant entity name)
    (locked : graph.checkWritable entity name force = .error error) :
    graph.ensure entity name force link = ⟨graph, .error error⟩ := by
  cases link with
  | nested => rw [ensure, ensureNested, child_of_vacant live vacant, locked]
  | reference table => rw [ensure, ensureReference, child_of_vacant live vacant, locked]

theorem checkWritable_insert {force : Bool} (live : graph.contains entity = true)
    (writable : graph.checkWritable entity name force = .ok ()) (made : Entity) :
    (graph.insert made).1.checkWritable entity name force = .ok () := by
  rcases contains_iff.1 live with ⟨_, found⟩
  have kept : (graph.insert made).1.get entity = graph.get entity := by
    rw [get, get?_insert, if_neg (ne_nextId_of_get? found), get]
  rw [checkWritable, kept]
  exact writable

theorem update_eq_store (live : graph.contains entity = true) (property : Property) :
    graph.update entity (·.put name property) = ⟨graph.store entity name property, .ok ()⟩ := by
  rcases contains_iff.1 live with ⟨_, found⟩
  rw [store, update_of_get? found]

/-- The child already has the parent that it is given when it is nested. -/
theorem update_made (graph : EntityGraph) (holder : EntityId) :
    (graph.insert (Link.nested.made holder)).1.update graph.nextId
        (fun child => { child with parent := some holder }) =
      ⟨(graph.insert (Link.nested.made holder)).1, .ok ()⟩ := by
  have found : (graph.insert (Link.nested.made holder)).1.get? graph.nextId =
      some (Link.nested.made holder) := by
    rw [get?_insert, if_pos rfl]
  rw [update_of_get? found]
  simp [replace, insert, nextId, Link.made]

theorem ensure_of_vacant {force : Bool} (live : graph.contains entity = true)
    (vacant : graph.Vacant entity name)
    (writable : graph.checkWritable entity name force = .ok ()) :
    graph.ensure entity name force link =
      ⟨graph.extend entity name link, .ok graph.nextId⟩ := by
  have stillWritable := checkWritable_insert live writable (link.made entity)
  have stillLive : (graph.insert (link.made entity)).1.contains entity = true :=
    (contains_insert _).2 (Or.inr live)
  rcases contains_iff.1 live with ⟨_, found⟩
  cases link with
  | nested =>
      have attached : (graph.insert (Link.nested.made entity)).1.attachNested entity name
          graph.nextId force = ⟨graph.extend entity name .nested, .ok ()⟩ := by
        rw [attachNested, stillWritable]
        simp only
        rw [update_made]
        simp only [Outcome.andThen]
        exact update_eq_store stillLive _
      have created : graph.createChild entity =
          ⟨(graph.insert (Link.nested.made entity)).1, .ok graph.nextId⟩ := by
        rw [createChild, get_eq_ok.2 found]
        rfl
      rw [ensure, ensureNested, child_of_vacant live vacant, writable]
      simp only [created, Outcome.andThen, attached]
  | reference table =>
      have target : (graph.insert (Link.made entity (.reference table))).1.get graph.nextId =
          .ok (Link.made entity (.reference table)) := by
        rw [get_eq_ok, get?_insert, if_pos rfl]
      have attached : (graph.insert (Link.made entity (.reference table))).1.attachReference
          entity name graph.nextId force =
            ⟨graph.extend entity name (.reference table), .ok ()⟩ := by
        rw [attachReference, stillWritable]
        simp only [target]
        exact update_eq_store stillLive _
      rw [ensure, ensureReference, child_of_vacant live vacant, writable]
      change ((graph.insert (Link.made entity (.reference table))).1.attachReference
          entity name graph.nextId force).andThen (fun graph' _ => ⟨graph', .ok graph.nextId⟩) = _
      rw [attached]
      rfl

/-- A step follows a property, makes an entity in a vacant one, or fails and changes nothing. -/
theorem ensure_cases (graph : EntityGraph) (entity : EntityId) (name : String) (force : Bool)
    (link : Link) :
    (∃ next, graph.next? entity name = some next ∧
        graph.ensure entity name force link = ⟨graph, .ok next⟩) ∨
      (graph.contains entity = true ∧ graph.Vacant entity name ∧
        graph.ensure entity name force link =
          ⟨graph.extend entity name link, .ok graph.nextId⟩) ∨
        ∃ error, graph.ensure entity name force link = ⟨graph, .error error⟩ := by
  rcases child_cases graph entity name with
    ⟨next, leads, _⟩ | ⟨live, vacant, _⟩ | ⟨_, error, failed⟩
  · exact Or.inl ⟨next, leads, ensure_of_next? leads force⟩
  · cases writable : graph.checkWritable entity name force with
    | ok => exact Or.inr (Or.inl ⟨live, vacant, ensure_of_vacant live vacant writable⟩)
    | error error => exact Or.inr (Or.inr ⟨error, ensure_of_locked live vacant writable⟩)
  · exact Or.inr (Or.inr ⟨error, ensure_of_error failed force⟩)

/-- The entity at the end of steps, each made if it is missing. -/
def walk (graph : EntityGraph) (entity : EntityId) (force : Bool) :
    List (String × Link) → Outcome EntityId
  | [] => ⟨graph, .ok entity⟩
  | (name, link) :: steps =>
      (graph.ensure entity name force link).andThen fun graph next => graph.walk next force steps

/-- The entity at the end of names, each of which leads on to an entity. -/
def follow (graph : EntityGraph) (entity : EntityId) : List String → Option EntityId
  | [] => some entity
  | name :: names => (graph.next? entity name).bind (graph.follow · names)

/-- A walk along steps in a graph leads to an entity, and leaves behind a graph in which what was
missing is made. -/
inductive Trail : EntityGraph → EntityId → List (String × Link) → EntityGraph → EntityId → Prop
  | stop (graph : EntityGraph) (entity : EntityId) : Trail graph entity [] graph entity
  | follow {graph after : EntityGraph} {entity next last : EntityId} {name : String} (link : Link)
      {steps : List (String × Link)} (leads : graph.next? entity name = some next)
      (rest : Trail graph next steps after last) :
      Trail graph entity ((name, link) :: steps) after last
  | make {graph after : EntityGraph} {entity last : EntityId} {name : String} {link : Link}
      {steps : List (String × Link)} (live : graph.contains entity = true)
      (vacant : graph.Vacant entity name)
      (rest : Trail (graph.extend entity name link) graph.nextId steps after last) :
      Trail graph entity ((name, link) :: steps) after last

theorem follow_append (first second : List String) :
    graph.follow entity (first ++ second) =
      (graph.follow entity first).bind (graph.follow · second) := by
  induction first generalizing entity with
  | nil => rfl
  | cons name names ih =>
      simp only [List.cons_append, follow]
      cases graph.next? entity name with
      | none => rfl
      | some next => exact ih

theorem follow_singleton : graph.follow entity [name] = graph.next? entity name := by
  simp only [follow]
  cases graph.next? entity name <;> rfl

/-- A walk succeeds and leaves a trail along all of its steps, or fails behind some of them. -/
theorem walk_cases (graph : EntityGraph) (entity : EntityId) (force : Bool)
    (steps : List (String × Link)) :
    (∃ after last, Trail graph entity steps after last ∧
        graph.walk entity force steps = ⟨after, .ok last⟩) ∨
      ∃ done rest after last error, steps = done ++ rest ∧ Trail graph entity done after last ∧
        graph.walk entity force steps = ⟨after, .error error⟩ := by
  induction steps generalizing graph entity with
  | nil => exact Or.inl ⟨graph, entity, .stop graph entity, rfl⟩
  | cons step steps ih =>
      rcases step with ⟨name, link⟩
      rw [walk]
      rcases ensure_cases graph entity name force link with
        ⟨next, leads, done⟩ | ⟨live, vacant, done⟩ | ⟨error, failed⟩
      · rw [done]
        rcases ih graph next with ⟨after, last, trail, walked⟩ | ⟨done, rest, after, last, error,
          rfl, trail, stopped⟩
        · exact Or.inl ⟨after, last, .follow link leads trail, walked⟩
        · exact Or.inr ⟨(name, link) :: done, rest, after, last, error, rfl,
            .follow link leads trail, stopped⟩
      · rw [done]
        rcases ih (graph.extend entity name link) graph.nextId with
          ⟨after, last, trail, walked⟩ | ⟨done, rest, after, last, error, rfl, trail, stopped⟩
        · exact Or.inl ⟨after, last, .make live vacant trail, walked⟩
        · exact Or.inr ⟨(name, link) :: done, rest, after, last, error, rfl,
            .make live vacant trail, stopped⟩
      · rw [failed]
        exact Or.inr ⟨[], _, graph, entity, error, rfl, .stop graph entity, rfl⟩

/-- A value is stored in a live entity whose property leads to no entity, or not at all. -/
theorem setValue_cases (graph : EntityGraph) (entity : EntityId) (name : String) (value : Value)
    (force : Bool) :
    (graph.contains entity = true ∧ graph.next? entity name = none ∧
        graph.setValue entity name value force =
          ⟨graph.store entity name (.value value), .ok ()⟩) ∨
      ∃ error, graph.setValue entity name value force = ⟨graph, .error error⟩ := by
  rw [setValue]
  cases graph.checkWritable entity name force with
  | error error => exact Or.inr ⟨error, rfl⟩
  | ok =>
      cases read : graph.value entity name with
      | error error => exact Or.inr ⟨error, rfl⟩
      | ok value? =>
          rcases value_eq_ok.1 read with ⟨live, holds⟩
          refine Or.inl ⟨live, ?_, update_eq_store live _⟩
          cases value? <;> simp [next?, holds, Property.entity?]

theorem setValue_forced (live : graph.contains entity = true)
    (free : graph.next? entity name = none) (value : Value) :
    graph.setValue entity name value true =
      ⟨graph.store entity name (.value value), .ok ()⟩ := by
  have read : ∃ value?, graph.value entity name = .ok value? := by
    rw [next?] at free
    rcases holds : graph.held? entity name with _ | property
    · exact ⟨none, value_eq_ok.2 ⟨live, by simpa using holds⟩⟩
    · cases property with
      | value value => exact ⟨some value, value_eq_ok.2 ⟨live, by simpa using holds⟩⟩
      | nested other | reference other => simp [holds, Property.entity?] at free
  rcases read with ⟨value?, read⟩
  rw [setValue, checkWritable_forced]
  simp only [read]
  exact update_eq_store live _

end EntityGraph

namespace Route

open EntityGraph

/-- The steps of a route from entity to entity. -/
def steps : Route → List (String × Link)
  | .nested path => path.steps.map (·, .nested)
  | .through property table rest => (property, .reference table) :: rest.steps
  | .blocked _ => []

/-- What is behind the steps: the name of a scalar, or an obstacle. -/
def ending : Route → Except Error String
  | .nested path => .ok path.leaf
  | .through _ _ rest => rest.ending
  | .blocked cause => .error cause

/-- The names of a route in order; that of the scalar is the last. -/
def names (route : Route) : List String :=
  route.steps.map Prod.fst ++ match route.ending with
    | .ok leaf => [leaf]
    | .error _ => []

theorem names_of_ending {route : Route} {leaf : String} (ends : route.ending = .ok leaf) :
    route.names = route.steps.map Prod.fst ++ [leaf] := by
  rw [names, ends]

theorem ensurePath_eq_walk (graph : EntityGraph) (entity : EntityId) (force : Bool)
    (names : List String) :
    graph.ensurePath entity force names = graph.walk entity force (names.map (·, .nested)) := by
  induction names generalizing graph entity with
  | nil => rfl
  | cons name names ih =>
      simp only [ensurePath, List.map_cons, walk, ensure]
      congr 1
      funext graph next
      exact ih graph next

/-- A write is a walk along the steps, and a write at its end. -/
theorem write_eq_walk (value : Value) (force : Bool) (graph : EntityGraph) (entity : EntityId)
    (route : Route) :
    route.write value force graph entity =
      (graph.walk entity force route.steps).andThen fun graph last =>
        match route.ending with
        | .ok leaf => graph.setValue last leaf value force
        | .error cause => ⟨graph, .error cause⟩ := by
  induction route generalizing graph entity with
  | nested path => rw [write, ensurePath_eq_walk]; rfl
  | through property table rest ih =>
      simp only [write, steps, walk, ensure, ending]
      cases found : (graph.ensureReference entity property table force).result with
      | error error => simp [Outcome.andThen, found]
      | ok target =>
          simp only [Outcome.andThen, found]
          exact ih _ target
  | blocked cause => rfl

/-- A read is a descent along the steps, and a read at its end. -/
theorem read_eq_descend (graph : EntityGraph) (entity : EntityId) (route : Route) :
    route.read graph entity =
      match graph.descend entity (route.steps.map Prod.fst) with
      | .error error => .error error
      | .ok none => .ok none
      | .ok (some last) =>
          match route.ending with
          | .ok leaf => graph.value last leaf
          | .error cause => .error cause := by
  induction route generalizing entity with
  | nested path =>
      have same : (path.steps.map (·, Link.nested)).map Prod.fst = path.steps := by
        simp [Function.comp_def]
      rcases found : graph.descend entity path.steps with _ | _ | _ <;>
        simp only [read, steps, ending, same, found]
  | through property table rest ih =>
      simp only [read, steps, List.map_cons, descend, ending]
      rcases graph.child entity property with _ | _ | target
      · rfl
      · rfl
      · exact ih target
  | blocked cause => rfl

/-- What a write along a route can do. -/
inductive Writes (graph : EntityGraph) (entity : EntityId) (route : Route) (value : Value) :
    Outcome Unit → Prop
  | done {after : EntityGraph} {last : EntityId} {leaf : String}
      (trail : Trail graph entity route.steps after last) (ends : route.ending = .ok leaf)
      (live : after.contains last = true) (free : after.next? last leaf = none) :
      Writes graph entity route value ⟨after.store last leaf (.value value), .ok ()⟩
  | stopped {after : EntityGraph} {last : EntityId} {done rest : List (String × Link)}
      (begun : route.steps = done ++ rest) (trail : Trail graph entity done after last)
      (error : Error) : Writes graph entity route value ⟨after, .error error⟩

theorem writes_write (graph : EntityGraph) (entity : EntityId) (route : Route) (value : Value)
    (force : Bool) : Writes graph entity route value (route.write value force graph entity) := by
  rw [write_eq_walk]
  rcases walk_cases graph entity force route.steps with
    ⟨after, last, trail, walked⟩ | ⟨done, rest, after, last, error, begun, trail, stopped⟩
  · rw [walked]
    simp only [Outcome.andThen]
    cases ends : route.ending with
    | error cause => exact .stopped (List.append_nil _).symm trail cause
    | ok leaf =>
        rcases setValue_cases after last leaf value force with
          ⟨live, free, stored⟩ | ⟨error, failed⟩
        · simp only [stored]
          exact .done trail ends live free
        · simp only [failed]
          exact .stopped (List.append_nil _).symm trail error
  · rw [stopped]
    exact .stopped begun trail error

end Route

end SqlMapper
