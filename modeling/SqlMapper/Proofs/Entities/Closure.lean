import SqlMapper.Proofs.Entities.Removal

/-!
# The closure that a removal takes

An entity owns what is reached from it through nested properties. Removing it takes exactly that and
leaves everything else, whatever the graph looks like: shared children, cycles and numbers of
entities that are gone are all allowed. Only the parent that the removed entity has recorded is
changed, for it drops the entity first.

The order in which properties are gone through does not matter. To say so, the removal is written
once more as a system of steps that may take any pending entity next. What its end leaves is an
invariant of a step, every run comes to an end, and all ends are the same graph.
-/

namespace SqlMapper

variable {entity : Entity} {inner : EntityId}

theorem Entity.mem_nestedEntities :
    inner ∈ entity.nestedEntities ↔ ∃ name, (name, Property.nested inner) ∈ entity.properties := by
  simp only [nestedEntities, List.mem_filterMap, Prod.exists]
  constructor
  · rintro ⟨name, property, member, holds⟩
    split at holds
    · cases holds
      exact ⟨name, member⟩
    · cases holds
  · rintro ⟨name, member⟩
    exact ⟨name, .nested inner, member, rfl⟩

theorem Entity.mem_nestedEntities_unlink {dropped : EntityId} :
    inner ∈ (entity.unlink dropped).nestedEntities ↔
      inner ∈ entity.nestedEntities ∧ inner ≠ dropped := by
  simp [mem_nestedEntities, unlink, and_comm]

namespace EntityGraph

variable {graph : EntityGraph} {id other : EntityId} {pending rest : List EntityId}

/-- Graphs with the same entities under the same numbers are equal. -/
theorem eq_of_get? {one two : EntityGraph} (lengths : one.slots.length = two.slots.length)
    (same : ∀ id, one.get? id = two.get? id) : one = two := by
  rcases one with ⟨first⟩
  rcases two with ⟨second⟩
  congr 1
  refine List.ext_getElem lengths fun index inFirst inSecond => ?_
  simpa [get?, List.getElem?_eq_getElem, inFirst, inSecond] using same ⟨index⟩

theorem holdsNested_unlinkFromParent (holder : EntityId) (nested : graph.HoldsNested holder inner)
    (others : inner ≠ id) : (graph.unlinkFromParent id entity).HoldsNested holder inner := by
  rcases nested with ⟨found, live, member⟩
  rw [HoldsNested, get?_unlinkFromParent, live]
  split
  · exact ⟨found.unlink id, rfl, Entity.mem_nestedEntities_unlink.2 ⟨member, others⟩⟩
  · exact ⟨found, rfl, member⟩

theorem holdsNested_of_unlinkFromParent {holder : EntityId}
    (nested : (graph.unlinkFromParent id entity).HoldsNested holder inner) :
    graph.HoldsNested holder inner := by
  rcases nested with ⟨found, live, member⟩
  rw [get?_unlinkFromParent] at live
  split at live
  · rcases Option.map_eq_some_iff.1 live with ⟨before, there, rfl⟩
    exact ⟨before, there, (Entity.mem_nestedEntities_unlink.1 member).1⟩
  · exact ⟨found, live, member⟩

/-- What an entity owns is what is reached from it, before and after its parent drops it: a path
that goes through the parent back to the entity starts there anew. -/
theorem owned_unlinkFromParent :
    (graph.unlinkFromParent id entity).Owned [id] other ↔
      Relation.ReflTransGen graph.HoldsNested id other := by
  constructor
  · rintro ⟨owner, member, path⟩
    rw [List.mem_singleton.1 member] at path
    exact path.lift _ fun _ _ nested => holdsNested_of_unlinkFromParent nested
  · intro path
    have start := List.mem_singleton.2 (Eq.refl id)
    induction path with
    | refl => exact .of_mem start
    | @tail holder inner _ nested owned =>
        by_cases back : inner = id
        · rw [back]
          exact .of_mem start
        · exact owned.child (holdsNested_unlinkFromParent holder nested back)

theorem contains_unlinkFromParent : (graph.unlinkFromParent id entity).contains other = true ↔
    graph.contains other = true := by
  rw [contains, contains, get?_unlinkFromParent]
  split
  · rw [Option.isSome_map]
  · rfl

theorem contains_removeAll : (graph.removeAll pending).contains other = true ↔
    graph.contains other = true ∧ ¬graph.Owned pending other := by
  simp only [contains_iff, get?_removeAll_eq_some, exists_and_left, and_comm]

theorem owned_perm (order : pending.Perm rest) : graph.Owned pending other ↔
    graph.Owned rest other := by
  simp only [Owned, order.mem_iff]

end EntityGraph

/-- A removal on its way: the graph as it is, and the entities still to be taken out. -/
structure Removal where
  graph : EntityGraph
  pending : List EntityId

namespace Removal

/-- A step takes any of the pending entities: it drops one that is gone, and empties the slot of a
live one, whose nested entities are pending from then on. -/
inductive Step : Removal → Removal → Prop where
  | drop {graph : EntityGraph} {pending rest : List EntityId} {id : EntityId}
      (order : pending.Perm (id :: rest)) (gone : graph.get? id = none) :
      Step ⟨graph, pending⟩ ⟨graph, rest⟩
  | take {graph : EntityGraph} {pending rest : List EntityId} {id : EntityId} {entity : Entity}
      (order : pending.Perm (id :: rest)) (live : graph.get? id = some entity) :
      Step ⟨graph, pending⟩ ⟨graph.clear id, entity.nestedEntities ++ rest⟩

/-- The entity is live and none of the pending ones owns it. -/
def Spares (removal : Removal) (id : EntityId) (entity : Entity) : Prop :=
  ¬removal.graph.Owned removal.pending id ∧ removal.graph.get? id = some entity

variable {removal next last : Removal} {id : EntityId} {entity : Entity}

theorem Step.spares_iff (step : removal.Step next) :
    next.Spares id entity ↔ removal.Spares id entity := by
  cases step with
  | drop order gone =>
      simp only [Spares, EntityGraph.owned_perm order, EntityGraph.owned_cons_of_gone gone]
      constructor
      · rintro ⟨free, live⟩
        refine ⟨?_, live⟩
        rintro (rfl | owned)
        · rw [gone] at live
          cases live
        · exact free owned
      · rintro ⟨free, live⟩
        exact ⟨fun owned => free (Or.inr owned), live⟩
  | take order live =>
      simp only [Spares, EntityGraph.owned_perm order, EntityGraph.owned_cons_of_live live,
        EntityGraph.get?_clear]
      constructor
      · rintro ⟨free, found⟩
        split at found
        · cases found
        · next others =>
          refine ⟨?_, found⟩
          rintro (same | owned)
          · exact others same
          · exact free owned
      · rintro ⟨free, found⟩
        have others : id ≠ _ := fun same => free (Or.inl same)
        exact ⟨fun owned => free (Or.inr owned), by rw [if_neg others]; exact found⟩

theorem Step.length_eq (step : removal.Step next) :
    next.graph.slots.length = removal.graph.slots.length := by
  cases step with
  | drop => rfl
  | take => simp [EntityGraph.clear]

/-- What a run spares is settled from the start. -/
theorem spares_run (run : Relation.ReflTransGen Step removal last) (id : EntityId)
    (entity : Entity) : last.Spares id entity ↔ removal.Spares id entity := by
  induction run with
  | refl => exact Iff.rfl
  | tail _ step ih => exact step.spares_iff.trans ih

theorem length_run (run : Relation.ReflTransGen Step removal last) :
    last.graph.slots.length = removal.graph.slots.length := by
  induction run with
  | refl => rfl
  | tail _ step ih => exact step.length_eq.trans ih

/-- Each step leaves fewer live entities, or as many and fewer pending ones. -/
theorem wellFounded_step : WellFounded fun next removal : Removal => removal.Step next := by
  refine Subrelation.wf (fun {next removal} (step : removal.Step next) => ?_)
    (InvImage.wf (fun removal : Removal => (removal.graph.liveCount, removal.pending.length))
      (Prod.lex ⟨_, Nat.lt_wfRel.wf⟩ ⟨_, Nat.lt_wfRel.wf⟩).wf)
  cases step with
  | drop order _ => exact Prod.Lex.right _ (order.length_eq ▸ Nat.lt_succ_self _)
  | take _ live => exact Prod.Lex.left _ _ (EntityGraph.liveCount_clear_lt live)

/-- Taking the pending entities one after the other is one of the runs. -/
theorem run_removeAll (graph : EntityGraph) (pending : List EntityId) :
    Relation.ReflTransGen Step ⟨graph, pending⟩ ⟨graph.removeAll pending, []⟩ := by
  fun_induction EntityGraph.removeAll graph pending with
  | case1 graph => exact .refl
  | case2 graph id rest gone ih => exact .head (.drop (.refl _) gone) ih
  | case3 graph id rest entity live ih => exact .head (.take (.refl _) live) ih

/-- All runs that come to an end leave the same graph. -/
theorem graph_eq_removeAll {graph : EntityGraph} {pending : List EntityId}
    (run : Relation.ReflTransGen Step ⟨graph, pending⟩ last) (done : last.pending = []) :
    last.graph = graph.removeAll pending := by
  have other := run_removeAll graph pending
  refine EntityGraph.eq_of_get? ((length_run run).trans (length_run other).symm) fun id => ?_
  refine Option.ext fun entity => ?_
  have same := (spares_run run id entity).trans (spares_run other id entity).symm
  simpa [Spares, done, EntityGraph.not_owned_nil] using same

end Removal

namespace EntityGraph

/-- A removal takes the entity and what it owns, and changes nothing else but the parent that the
entity has recorded, which drops it; and so does every run that goes through the pending entities in
another order. -/
theorem remove_takes_owned (graph : EntityGraph) (id : EntityId) (entity : Entity)
    (live : graph.get? id = some entity) :
    (graph.remove id).result = .ok () ∧
      (∀ other, (graph.remove id).graph.contains other = true ↔
        graph.contains other = true ∧ ¬Relation.ReflTransGen graph.HoldsNested id other) ∧
      (∀ other before after, graph.get? other = some before →
        (graph.remove id).graph.get? other = some after →
          after.table = before.table ∧ after.parent = before.parent ∧
            after.readOnly = before.readOnly ∧
            after.properties =
              if entity.parent = some other then
                before.properties.filter fun entry => entry.2 != .nested id
              else before.properties) ∧
      Acc (fun next removal => removal.Step next)
        (Removal.mk (graph.unlinkFromParent id entity) [id]) ∧
      ∀ last, Relation.ReflTransGen Removal.Step ⟨graph.unlinkFromParent id entity, [id]⟩ last →
        last.pending = [] → last.graph = (graph.remove id).graph := by
  have removed := remove_of_live live
  refine ⟨by rw [removed], fun other => ?_, fun other before after found kept => ?_,
    Removal.wellFounded_step.apply _, fun last run done => ?_⟩
  · rw [removed, contains_removeAll, contains_unlinkFromParent, owned_unlinkFromParent]
  · rw [removed] at kept
    have there := (get?_removeAll_eq_some.1 kept).2
    rw [get?_unlinkFromParent, found] at there
    split at there
    · next parented =>
      cases there
      exact ⟨rfl, rfl, rfl, by rw [if_pos parented]; rfl⟩
    · next others =>
      cases there
      exact ⟨rfl, rfl, rfl, by rw [if_neg others]⟩
  · rw [removed]
    exact Removal.graph_eq_removeAll run done

/-- A squad that its department lists twice, with a member who in turn holds the squad, and a member
who has left. -/
def squad : Entity where
  parent := some ⟨0⟩
  properties := [("lead", .nested ⟨2⟩), ("former", .nested ⟨9⟩)]

/-- A department that refers to the lead of its squad. -/
def department : EntityGraph where
  slots := [
    some { properties := [("squad", .nested ⟨1⟩), ("largest", .nested ⟨1⟩),
      ("deputy", .reference ⟨2⟩)] },
    some squad,
    some { parent := some ⟨1⟩, properties := [("squad", .nested ⟨1⟩)] }]

theorem remove_takes_owned_squad :
    department.get? ⟨1⟩ = some squad ∧ (department.remove ⟨1⟩).result = .ok () ∧
      (department.remove ⟨1⟩).graph.contains ⟨2⟩ = false ∧
      ∀ after, (department.remove ⟨1⟩).graph.get? ⟨0⟩ = some after →
        after.properties = [("deputy", .reference ⟨2⟩)] := by
  have live : department.get? ⟨1⟩ = some squad := rfl
  rcases remove_takes_owned department ⟨1⟩ squad live with ⟨done, gone, kept, _, _⟩
  have leads : department.HoldsNested ⟨1⟩ ⟨2⟩ := ⟨squad, live, by decide⟩
  refine ⟨live, done, Bool.eq_false_iff.2 fun there => ?_, fun after left => ?_⟩
  · exact ((gone ⟨2⟩).1 there).2 (.single leads)
  · exact (kept ⟨0⟩ _ after rfl left).2.2.2

end EntityGraph

end SqlMapper
