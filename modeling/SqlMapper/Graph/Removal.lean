import SqlMapper.Graph.Basic

/-!
# Removing entities

Removing an entity removes what is nested in it, and what is nested in that. Each step either
empties a live slot or drops a pending entity that is gone already, so the removal ends on any
graph, cycles included. References are neither followed nor erased.
-/

namespace SqlMapper

namespace EntityGraph

theorem liveCount_clear_lt {graph : EntityGraph} {id : EntityId} {entity : Entity}
    (live : graph.get? id = some entity) : (graph.clear id).liveCount < graph.liveCount := by
  simp only [get?, Option.join_eq_some_iff, List.getElem?_eq_some_iff] at live
  obtain ⟨inside, found⟩ := live
  have positive : 0 < graph.slots.countP Option.isSome :=
    List.countP_pos_iff.mpr ⟨_, List.getElem_mem inside, by simp [found]⟩
  simp only [liveCount, clear, List.countP_set inside, found, Option.isSome_some,
    Option.isSome_none, reduceIte, Bool.false_eq_true, Nat.add_zero]
  exact Nat.sub_lt positive Nat.one_pos

/-- Removes the pending entities and what is nested in them. -/
def removeAll (graph : EntityGraph) (pending : List EntityId) : EntityGraph :=
  match pending with
  | [] => graph
  | id :: rest =>
      match _live : graph.get? id with
      | none => graph.removeAll rest
      | some entity => (graph.clear id).removeAll (entity.nestedEntities ++ rest)
  termination_by (graph.liveCount, pending.length)
  decreasing_by
    · exact Prod.Lex.right _ (by simp)
    · exact Prod.Lex.left _ _ (liveCount_clear_lt _live)

/-- The graph after an entity's recorded parent, if it is live, has dropped the entity. -/
def unlinkFromParent (graph : EntityGraph) (id : EntityId) (entity : Entity) : EntityGraph :=
  match entity.parent with
  | none => graph
  | some parent =>
      match graph.get? parent with
      | none => graph
      | some holder => graph.replace parent (holder.unlink id)

/-- Removes a live entity and everything nested in it. -/
def remove (graph : EntityGraph) (id : EntityId) : Outcome Unit :=
  match graph.get id with
  | .error error => ⟨graph, .error error⟩
  | .ok entity => ⟨(graph.unlinkFromParent id entity).removeAll [id], .ok ()⟩

end EntityGraph

end SqlMapper
