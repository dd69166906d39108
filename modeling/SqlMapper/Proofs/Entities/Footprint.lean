import Mathlib.Logic.ExistsUnique
import SqlMapper.Proofs.Entities.Paths
import SqlMapper.Proofs.Entities.WellFormed

/-!
# What a write through a binding may touch

A write may fail anywhere on its way, behind entities that it has made already. Whether it fails or
not, it leaves a footprint: what was live is live and as it was, a property changes only if it was
vacant and leads to a new entity now, and each new entity hangs on the path of the column by the
property that the write came by. Only a write that succeeds changes one property more, the scalar at
the end of the path.

In a graph that operations lead to, no property expects an entity that is not made yet. There the
property that the write came by is the only one that holds the new entity.
-/

namespace SqlMapper

namespace EntityGraph

variable {graph before after : EntityGraph} {entity last id : EntityId} {name leaf : String}
  {path : List String} {route : Route} {value : Value}

/-- The path goes from the entity over links to this name of this entity. -/
def EndsAt (graph : EntityGraph) (entity : EntityId) (path : List String) (id : EntityId)
    (name : String) : Prop :=
  ∃ steps, path = steps ++ [name] ∧ graph.follow entity steps = some id

/-- What a write of a value along a path may touch, whatever it answers. -/
structure Footprint (before : EntityGraph) (outcome : Outcome Unit) (entity : EntityId)
    (path : List String) (value : Value) : Prop where
  /-- Live entities stay. -/
  keeps : ∀ {id : EntityId} {found : Entity}, before.get? id = some found →
    ∃ now, outcome.graph.get? id = some now ∧ found.Keeps now
  live : ∀ id, outcome.graph.contains id = true ↔
    before.contains id = true ∨ MadeSince before outcome.graph id
  /-- A property is as it was, or it was vacant and leads to a new entity, or a write that succeeded
  has changed the scalar at the end. -/
  held : ∀ id name, outcome.graph.held? id name = before.held? id name ∨
    (before.Vacant id name ∧
      ∃ made, MadeSince before outcome.graph made ∧ outcome.graph.next? id name = some made) ∨
    (outcome.result = .ok () ∧ before.next? id name = none ∧
      outcome.graph.EndsAt entity path id name)
  written : outcome.result = .ok () → ∃ id name, outcome.graph.EndsAt entity path id name ∧
    outcome.graph.held? id name = some (.value value)
  /-- A new entity is held on the path, and by no other property that did not expect it before. -/
  made : ∀ made, MadeSince before outcome.graph made → ∃ passed name holder,
    passed ++ [name] <+: path ∧ outcome.graph.follow entity passed = some holder ∧
      outcome.graph.next? holder name = some made ∧
        ∀ id label, outcome.graph.next? id label = some made →
          (id = holder ∧ label = name) ∨ before.next? id label = some made

theorem madeSince_store {property : Property} {made : EntityId} :
    MadeSince before (after.store id name property) made ↔ MadeSince before after made := by
  rw [MadeSince, length_store, MadeSince]

theorem steps_prefix_names (route : Route) : route.steps.map Prod.fst <+: route.names :=
  List.prefix_append _ _

/-- A write that fails has walked part of its way. -/
theorem footprint_of_stopped {done rest : List (String × Link)} (begun : route.steps = done ++ rest)
    (trail : Trail before entity done after last) (error : Error) :
    Footprint before ⟨after, .error error⟩ entity route.names value where
  keeps := trail.grown.keeps
  live := trail.grown.live
  held id name := by
    rcases trail.grown.held id name with same | changed
    · exact Or.inl same
    · exact Or.inr (Or.inl changed)
  written succeeded := by cases succeeded
  made made new := by
    rcases trail.held_once new with ⟨passed, name, holder, passedBy, reached, leads, once⟩
    refine ⟨passed, name, holder, passedBy.trans ?_, reached, leads, once⟩
    refine List.IsPrefix.trans ?_ (steps_prefix_names route)
    rw [begun, List.map_append]
    exact List.prefix_append _ _

/-- A write that succeeds has walked all of its way, and stored the value at the end. -/
theorem footprint_of_done (trail : Trail before entity route.steps after last)
    (ends : route.ending = .ok leaf) (live : after.contains last = true)
    (free : after.next? last leaf = none) (value : Value) :
    Footprint before ⟨after.store last leaf (.value value), .ok ()⟩ entity route.names value := by
  have grown := trail.grown
  have links := next?_store_value live free value
  have same := follow_congr links
  have ending : (after.store last leaf (.value value)).EndsAt entity route.names last leaf :=
    ⟨_, Route.names_of_ending ends, (same _ _).trans trail.follow_eq⟩
  refine ⟨fun {id found} there => ?_, fun id => ?_, fun id name => ?_, fun _ => ?_,
    fun made new => ?_⟩
  · rcases grown.keeps there with ⟨now, stillLive, kept⟩
    by_cases here : id = last
    · subst id
      exact ⟨_, by rw [get?_store, if_pos rfl, stillLive]; rfl, kept.trans (now.keeps_put _ _)⟩
    · exact ⟨now, by rw [get?_store, if_neg here, stillLive], kept⟩
  · rw [contains_store, madeSince_store]
    exact grown.live id
  · rw [held?_store live]
    by_cases here : id = last ∧ name = leaf
    · rcases here with ⟨rfl, rfl⟩
      refine Or.inr (Or.inr ⟨rfl, ?_, ending⟩)
      cases leads : before.next? id name with
      | none => rfl
      | some next => rw [grown.next? leads] at free; cases free
    · rw [if_neg here]
      rcases grown.held id name with unchanged | ⟨vacant, made, new, leads⟩
      · exact Or.inl unchanged
      · exact Or.inr (Or.inl ⟨vacant, made, madeSince_store.2 new, (links id name).trans leads⟩)
  · exact ⟨last, leaf, ending, by rw [held?_store live, if_pos ⟨rfl, rfl⟩]⟩
  · rcases trail.held_once (madeSince_store.1 new) with
      ⟨passed, name, holder, passedBy, reached, leads, once⟩
    refine ⟨passed, name, holder, passedBy.trans (steps_prefix_names route),
      (same _ _).trans reached, (links _ _).trans leads, fun id label leadsThere => ?_⟩
    rw [links] at leadsThere
    exact once id label leadsThere

theorem footprint_write (graph : EntityGraph) (entity : EntityId) (route : Route) (value : Value)
    (force : Bool) :
    Footprint graph (route.write value force graph entity) entity route.names value := by
  have writes := Route.writes_write graph entity route value force
  generalize route.write value force graph entity = outcome at writes
  cases writes with
  | stopped begun trail error => exact footprint_of_stopped begun trail error
  | done trail ends live free => exact footprint_of_done trail ends live free value

end EntityGraph

end SqlMapper
