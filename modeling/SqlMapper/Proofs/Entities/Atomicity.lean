import SqlMapper.Proofs.Entities.Parents

/-!
# Operations that fail

An operation that works on the graph itself, and not through a binding, checks what it is given
before it changes anything. So a failure leaves the graph as it was, with one exception. A forced
attachment does not ask whether the parent is live, and by the time it looks the parent up it has
given the child its new parent. It fails then, and the child is left with a parent that is not live.

Writes through bindings are not meant to be undone; what they may leave behind when they fail is
their footprint.
-/

namespace SqlMapper

/-- The outcome of an operation on this graph is a success, or the graph is as it was. -/
def Outcome.Atomic {α : Type} (outcome : Outcome α) (before : EntityGraph) : Prop :=
  ∀ error, outcome.result = .error error → outcome.graph = before

namespace Outcome

variable {α β : Type} {graph before : EntityGraph}

theorem atomic_of_ok (result : α) : (⟨graph, .ok result⟩ : Outcome α).Atomic before := by
  intro error failed
  cases failed

theorem atomic_of_error (error : Error) : (⟨graph, .error error⟩ : Outcome α).Atomic graph :=
  fun _ _ => rfl

theorem Atomic.map {outcome : Outcome α} (atomic : outcome.Atomic before) (change : α → β) :
    (outcome.map change).Atomic before := by
  intro error failed
  rcases outcome with ⟨after, result⟩
  cases result with
  | ok result => cases failed
  | error cause => exact atomic cause rfl

end Outcome

namespace Operation

/-- What the operation leaves behind, and whether it fails; the entity that it answers with is left
out. -/
def outcome (graph : EntityGraph) : Operation → Outcome Unit
  | create table => ⟨(graph.create table).1, .ok ()⟩
  | createChild parent => (graph.createChild parent).map fun _ => ()
  | markReadOnly entity name => graph.markReadOnly entity name
  | setValue entity name value force => graph.setValue entity name value force
  | attachNested parent name child force => graph.attachNested parent name child force
  | attachReference owner name target force => graph.attachReference owner name target force
  | writeColumn catalog entity column value force =>
      graph.writeColumn catalog entity column value force
  | populate catalog table row => (graph.populate catalog table row).map fun _ => ()
  | remove entity => graph.remove entity

/-- The operation works on the graph itself, and not through a binding. -/
def isPrimitive : Operation → Bool
  | writeColumn .. | populate .. => false
  | _ => true

/-- The operation forces a live entity on a parent that is not live and that it does not have yet.
-/
def Strands (graph : EntityGraph) : Operation → Prop
  | attachNested parent _ child force =>
      force = true ∧ graph.contains parent = false ∧ graph.contains child = true ∧
        ¬ graph.ParentOf parent child
  | _ => False

end Operation

namespace EntityGraph

variable {graph : EntityGraph} {id parent child : EntityId} {name : String} {force : Bool}

theorem atomic_update (change : Entity → Entity) : (graph.update id change).Atomic graph := by
  cases found : graph.get? id with
  | none =>
      rw [update_of_gone found]
      exact Outcome.atomic_of_error _
  | some entity =>
      rw [update_of_get? found]
      exact Outcome.atomic_of_ok _

theorem atomic_createChild (graph : EntityGraph) (parent : EntityId) :
    (graph.createChild parent).Atomic graph := by
  rw [createChild]
  cases graph.get parent with
  | error error => exact Outcome.atomic_of_error error
  | ok entity => exact Outcome.atomic_of_ok _

theorem atomic_setValue (graph : EntityGraph) (id : EntityId) (name : String) (value : Value)
    (force : Bool) : (graph.setValue id name value force).Atomic graph := by
  rcases setValue_cases graph id name value force with ⟨_, _, stored⟩ | ⟨error, failed⟩
  · rw [stored]
    exact Outcome.atomic_of_ok _
  · rw [failed]
    exact Outcome.atomic_of_error error

theorem atomic_attachReference (graph : EntityGraph) (owner : EntityId) (name : String)
    (target : EntityId) (force : Bool) :
    (graph.attachReference owner name target force).Atomic graph := by
  rcases attachReference_cases graph owner name target force with
    ⟨_, _, _, stored⟩ | ⟨error, failed⟩
  · rw [stored]
    exact Outcome.atomic_of_ok _
  · rw [failed]
    exact Outcome.atomic_of_error error

theorem atomic_remove (graph : EntityGraph) (id : EntityId) : (graph.remove id).Atomic graph := by
  cases found : graph.get? id with
  | none =>
      rw [remove_of_gone found]
      exact Outcome.atomic_of_error _
  | some entity =>
      rw [remove_of_live found]
      exact Outcome.atomic_of_ok _

/-- An attachment that fails changes the graph only if it forces a child on a parent that is not
live and that the child does not have yet. -/
theorem attachNested_failed (graph : EntityGraph) (parent : EntityId) (name : String)
    (child : EntityId) (force : Bool) {error : Error}
    (failed : (graph.attachNested parent name child force).result = .error error) :
    ((graph.attachNested parent name child force).graph = graph ↔
        ¬ (Operation.attachNested parent name child force).Strands graph) ∧
      ((Operation.attachNested parent name child force).Strands graph →
        (graph.attachNested parent name child force).graph = graph.adopt parent child) := by
  simp only [Operation.Strands]
  rcases attachNested_cases graph parent name child force with
    ⟨_, _, _, nested⟩ | ⟨refused, _, same⟩ | ⟨forced, childLive, parentGone, stranded⟩
  · rw [nested] at failed
    cases failed
  · have kept : ¬ (force = true ∧ graph.contains parent = false ∧ graph.contains child = true ∧
        ¬ graph.ParentOf parent child) := by
      rintro ⟨rfl, _, childLive, _⟩
      rcases refused with locked | childGone
      · exact locked rfl
      · rw [childLive] at childGone
        cases childGone
    rw [same]
    exact ⟨iff_of_true rfl kept, fun strands => absurd strands kept⟩
  · rw [stranded]
    refine ⟨?_, fun _ => rfl⟩
    rw [adopt_eq_self_iff childLive]
    simp [forced, childLive, parentGone]

/-- A primitive operation that fails leaves the graph as it was, unless it forces a live entity on a
parent that is not live; then the parent of that entity is all that has changed. -/
theorem primitive_failure_keeps_graph_iff (graph : EntityGraph) (operation : Operation)
    (primitive : operation.isPrimitive = true) (error : Error)
    (failed : (operation.outcome graph).result = .error error) :
    ((operation.outcome graph).graph = graph ↔ ¬ operation.Strands graph) ∧
      (operation.Strands graph → ∃ parent name child,
        operation = .attachNested parent name child true ∧
          (operation.outcome graph).graph = graph.adopt parent child) := by
  have atomic : (operation.outcome graph).Atomic graph → ¬ operation.Strands graph →
      ((operation.outcome graph).graph = graph ↔ ¬ operation.Strands graph) ∧
        (operation.Strands graph → ∃ parent name child,
          operation = .attachNested parent name child true ∧
            (operation.outcome graph).graph = graph.adopt parent child) :=
    fun kept free => ⟨iff_of_true (kept error failed) free, fun strands => absurd strands free⟩
  cases operation with
  | create table => cases failed
  | createChild parent => exact atomic ((atomic_createChild graph parent).map _) id
  | markReadOnly id name => exact atomic (atomic_update _) fun strands => strands
  | setValue id name value force =>
      exact atomic (atomic_setValue graph id name value force) fun strands => strands
  | attachReference owner name target force =>
      exact atomic (atomic_attachReference graph owner name target force) fun strands => strands
  | remove id => exact atomic (atomic_remove graph id) fun strands => strands
  | attachNested parent name child force =>
      rcases attachNested_failed graph parent name child force failed with ⟨kept, changed⟩
      refine ⟨kept, fun strands => ⟨parent, name, child, ?_, changed strands⟩⟩
      rw [strands.1]
  | writeColumn | populate => cases primitive

/-- A project whose lead is read-only, and a person who does not lead it. -/
def lockedLead : EntityGraph :=
  ⟨[some { properties := [("lead", .nested ⟨1⟩)], readOnly := ["lead"] },
    some { parent := some ⟨0⟩ }, some {}]⟩

theorem primitive_failure_keeps_lockedLead :
    ((Operation.attachNested ⟨0⟩ "lead" ⟨2⟩ false).outcome lockedLead).result =
        .error (.readOnlyProperty "lead") ∧
      ((Operation.attachNested ⟨0⟩ "lead" ⟨2⟩ false).outcome lockedLead).graph = lockedLead := by
  have failed : ((Operation.attachNested ⟨0⟩ "lead" ⟨2⟩ false).outcome lockedLead).result =
      .error (.readOnlyProperty "lead") := rfl
  have kept := primitive_failure_keeps_graph_iff lockedLead (.attachNested ⟨0⟩ "lead" ⟨2⟩ false)
    rfl (.readOnlyProperty "lead") failed
  exact ⟨failed, kept.1.2 fun strands => by cases strands.1⟩

/-- An attachment that is forced on a parent that was never made fails, and its child is left with
that parent. -/
theorem forced_attachment_strands_child :
    ((Operation.attachNested ⟨1⟩ "lead" ⟨0⟩ true).outcome (empty.run [.create none])).result =
        .error (.configuration (.unknownEntity ⟨1⟩)) ∧
      (empty.run [.create none]).parent ⟨0⟩ = .ok none ∧
      ((Operation.attachNested ⟨1⟩ "lead" ⟨0⟩ true).outcome
        (empty.run [.create none])).graph.parent ⟨0⟩ = .ok (some ⟨1⟩) :=
  ⟨rfl, rfl, rfl⟩

end EntityGraph

end SqlMapper
