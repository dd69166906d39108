import Mathlib.Data.List.Induction
import Mathlib.Tactic.ByContra
import SqlMapper.Proofs.Entities.Parents

/-!
# Attaching what another entity holds

An attachment gives its child a new parent, but it does not ask who holds the child already. If
another entity does, that one goes on holding it, although it is the child's parent no longer; and
when that one is removed, the child goes with it, although its parent stays.

This is the only way in which holders and parents come apart. In a run of operations what is nested
has its holder as its parent for just as long as no operation attaches what another entity holds.
And as long as they agree, a removal takes an entity only together with its parent.
-/

namespace SqlMapper

/-- The operation gives an entity a new parent while another entity holds it. -/
def Operation.TakesHeld (graph : EntityGraph) : Operation → Prop
  | attachNested parent name child force =>
      graph.checkWritable parent name force = .ok () ∧
        ∃ holder label, graph.held? holder label = some (.nested child) ∧ holder ≠ parent
  | _ => False

namespace EntityGraph

variable {graph : EntityGraph} {id other parent child : EntityId} {name : String} {force : Bool}

namespace NestedInParents

theorem attachNested_iff (nested : graph.NestedInParents) :
    (graph.attachNested parent name child force).graph.NestedInParents ↔
      ¬ (Operation.attachNested parent name child force).TakesHeld graph := by
  rw [Operation.TakesHeld]
  rcases attachNested_cases graph parent name child force with
    ⟨writable, childLive, parentLive, done⟩ | ⟨refused, _, failed⟩ |
      ⟨rfl, childLive, _, stranded⟩
  · rw [done]
    constructor
    · rintro kept ⟨_, holder, label, holds, other⟩
      -- The other holder is not touched, so it still holds the child and has to be its parent.
      have there : ((graph.adopt parent child).store parent name (.nested child)).held? holder
          label = some (.nested child) := by
        rw [held?_store (contains_adopt.trans parentLive), if_neg fun here => other here.1,
          held?_adopt, holds]
      have parented := kept there
      rw [parentOf_store, parentOf_adopt childLive, if_pos rfl] at parented
      exact other parented
    · intro free
      have adopted : (graph.adopt parent child).NestedInParents := by
        refine (nested.adopt_iff childLive).2 fun holder label holds => ?_
        by_contra other
        exact free ⟨writable, holder, label, holds, other⟩
      refine adopted.store (fun inner same => ?_) name
      cases same
      rw [parentOf_adopt childLive, if_pos rfl]
  · rw [failed]
    refine iff_of_true nested ?_
    rintro ⟨writable, holder, label, holds, _⟩
    rcases refused with locked | childGone
    · exact locked writable
    · rw [(nested holds).contains] at childGone
      cases childGone
  · rw [stranded, nested.adopt_iff childLive]
    constructor
    · rintro alone ⟨_, holder, label, holds, other⟩
      exact other (alone holder label holds)
    · intro free holder label holds
      by_contra other
      exact free ⟨checkWritable_forced, holder, label, holds, other⟩

/-- An operation keeps what is nested with its parents, unless it takes what another entity holds.
-/
theorem apply_iff (nested : graph.NestedInParents) (formed : graph.WellFormed)
    (operation : Operation) :
    (operation.apply graph).NestedInParents ↔ ¬ operation.TakesHeld graph := by
  cases through : operation.isThroughBindings with
  | true =>
      have changes := bindingChanges_apply graph through
      have kept : (operation.apply graph).WellFormed ∧
          (operation.apply graph).NestedInParents := by
        generalize operation.apply graph = after at changes ⊢
        induction changes with
        | refl => exact ⟨formed, nested⟩
        | tail _ change ih => exact ⟨ih.1.bindingChange change, ih.2.bindingChange ih.1 change⟩
      refine iff_of_true kept.2 ?_
      cases operation with
      | attachNested => cases through
      | create | createChild | markReadOnly | setValue | attachReference | writeColumn | populate
      | remove => exact fun takes => takes
  | false =>
      cases operation with
      | attachNested parent name child force => exact nested.attachNested_iff
      | createChild parent =>
          refine iff_of_true ?_ fun takes => takes
          rcases createChild_cases graph parent with ⟨_, made⟩ | ⟨error, failed⟩
          · rw [Operation.apply, made]
            exact nested.insert fun _ => rfl
          · rw [Operation.apply, failed]
            exact nested
      | attachReference owner name target force =>
          refine iff_of_true ?_ fun takes => takes
          rcases attachReference_cases graph owner name target force with
            ⟨_, _, _, stored⟩ | ⟨error, failed⟩
          · rw [Operation.apply, stored]
            exact nested.store (by simp) name
          · rw [Operation.apply, failed]
            exact nested
      | create | markReadOnly | setValue | writeColumn | populate | remove => cases through

/-- An entity that goes with a removed one is nested in an entity that goes too. -/
theorem remove_takes_parent (nested : graph.NestedInParents) (formed : graph.WellFormed)
    (parented : graph.ParentOf parent other) (different : other ≠ id)
    (gone : (graph.remove id).graph.contains other = false) :
    (graph.remove id).graph.contains parent = false := by
  cases found : graph.get? id with
  | none =>
      rw [remove_of_gone found, parented.contains] at gone
      cases gone
  | some entity =>
      rw [remove_of_live found, contains_eq_false] at gone ⊢
      have owned : (graph.unlinkFromParent id entity).Owned [id] other := by
        by_contra free
        have still := parentOf_removeAll.2 ⟨free, parentOf_unlinkFromParent.2 parented⟩
        rcases still with ⟨survivor, live, _⟩
        rw [gone] at live
        cases live
      rcases owned.cases_tail with member | ⟨holder, holderOwned, holds⟩
      · exact absurd (List.mem_singleton.1 member) different
      · rcases (formed.unlinkFromParent id entity).holdsNested_iff.1 holds with ⟨label, there⟩
        have owner := nested ((formed.held?_unlinkFromParent entity).1 there).1
        rw [parented.unique owner] at holderOwned
        exact (get?_removeAll _ _ _).1 holderOwned

end NestedInParents

theorem run_append_singleton (operations : List Operation) (next : Operation) :
    graph.run (operations ++ [next]) = next.apply (graph.run operations) :=
  List.foldl_append

/-- What is nested has its holder as its parent all through a run of operations if and only if no
operation of the run attaches what another entity holds. In a graph in which it does, a removal
takes another entity only if it takes the parent of that entity too. -/
theorem nestedInParents_run_iff (operations : List Operation) :
    ((∀ done, done <+: operations → (empty.run done).NestedInParents) ↔
        ∀ done next, done ++ [next] <+: operations → ¬ next.TakesHeld (empty.run done)) ∧
      ((empty.run operations).NestedInParents → ∀ id other parent,
        (empty.run operations).ParentOf parent other → other ≠ id →
          ((empty.run operations).remove id).graph.contains other = false →
            ((empty.run operations).remove id).graph.contains parent = false) := by
  refine ⟨⟨fun kept done next begun => ?_, fun free done begun => ?_⟩,
    fun nested id other parent parented different gone =>
      nested.remove_takes_parent (wellFormed_run operations) parented different gone⟩
  · have before := kept done ((List.prefix_append _ _).trans begun)
    rw [← before.apply_iff (wellFormed_run done), ← run_append_singleton]
    exact kept _ begun
  · induction done using List.reverseRecOn with
    | nil => exact nestedInParents_empty
    | append_singleton done next ih =>
        have before := ih ((List.prefix_append _ _).trans begun)
        rw [run_append_singleton, before.apply_iff (wellFormed_run done)]
        exact free done next begun

/-- A task is attached to one project and then to another. -/
def sharedTask : List Operation :=
  [.create none, .create none, .createChild ⟨0⟩, .attachNested ⟨0⟩ "task" ⟨2⟩ false,
    .attachNested ⟨1⟩ "task" ⟨2⟩ false]

/-- Both projects hold the task, whose parent is the second one; it goes when the first project is
removed, and the second one stays. -/
theorem sharedTask_goes_without_parent :
    (empty.run sharedTask).held? ⟨0⟩ "task" = some (.nested ⟨2⟩) ∧
      (empty.run sharedTask).parent ⟨2⟩ = .ok (some ⟨1⟩) ∧
        ((empty.run sharedTask).remove ⟨0⟩).graph.contains ⟨2⟩ = false ∧
          ((empty.run sharedTask).remove ⟨0⟩).graph.contains ⟨1⟩ = true := by
  have first : (empty.run sharedTask).get? ⟨0⟩ =
      some { properties := [("task", .nested ⟨2⟩)] } := rfl
  have left : ((empty.run sharedTask).remove ⟨0⟩).graph =
      ((empty.run sharedTask).clear ⟨0⟩).clear ⟨2⟩ := by
    rw [remove_of_live first, unlinkFromParent_of_orphan rfl, removeAll_cons_of_live first]
    exact removeAll_singleton rfl rfl
  rw [left]
  exact ⟨rfl, rfl, rfl, rfl⟩

end EntityGraph

end SqlMapper
