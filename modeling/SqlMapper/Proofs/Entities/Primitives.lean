import SqlMapper.Proofs.Entities.Walks

/-!
# Operations on single entities

What an operation that works on the graph itself can do, said once for each: it makes a child,
stores a property, gives an entity another parent, or fails. Later files reason about the cases and
leave the operations closed.
-/

namespace SqlMapper

namespace EntityGraph

variable {graph : EntityGraph} {id parent child : EntityId} {name : String}

theorem contains_of_checkWritable (writable : graph.checkWritable id name false = .ok ()) :
    graph.contains id = true := by
  rw [checkWritable, if_neg Bool.false_ne_true] at writable
  cases found : graph.get? id with
  | none =>
      rw [get_eq_error.2 ⟨found, rfl⟩] at writable
      cases writable
  | some entity => exact contains_of_get? found

theorem createChild_cases (graph : EntityGraph) (parent : EntityId) :
    (graph.contains parent = true ∧
        graph.createChild parent =
          ⟨(graph.insert (Link.nested.made parent)).1, .ok graph.nextId⟩) ∨
      ∃ error, graph.createChild parent = ⟨graph, .error error⟩ := by
  rw [createChild]
  cases found : graph.get parent with
  | error error => exact Or.inr ⟨error, rfl⟩
  | ok entity => exact Or.inl ⟨contains_of_get? (get_eq_ok.1 found), rfl⟩

/-- A reference is stored in a live owner and leads to a live target. -/
theorem attachReference_cases (graph : EntityGraph) (owner : EntityId) (name : String)
    (target : EntityId) (force : Bool) :
    (graph.checkWritable owner name force = .ok () ∧ graph.contains target = true ∧
        graph.contains owner = true ∧
          graph.attachReference owner name target force =
            ⟨graph.store owner name (.reference target), .ok ()⟩) ∨
      ∃ error, graph.attachReference owner name target force = ⟨graph, .error error⟩ := by
  rw [attachReference]
  cases graph.checkWritable owner name force with
  | error error => exact Or.inr ⟨error, rfl⟩
  | ok =>
      cases found : graph.get target with
      | error error => exact Or.inr ⟨error, rfl⟩
      | ok entity =>
          cases live : graph.contains owner with
          | true =>
              have targetLive := contains_of_get? (get_eq_ok.1 found)
              exact Or.inl ⟨rfl, targetLive, rfl, update_eq_store live _⟩
          | false => exact Or.inr ⟨_, update_of_gone (contains_eq_false.1 live) _⟩

/-- The graph in which an entity, if it is live, has another parent. -/
def adopt (graph : EntityGraph) (parent child : EntityId) : EntityGraph :=
  (graph.update child fun entity => { entity with parent := some parent }).graph

theorem get?_adopt :
    (graph.adopt parent child).get? id =
      if id = child then
        (graph.get? child).map fun entity => { entity with parent := some parent }
      else graph.get? id :=
  get?_update _

@[simp]
theorem contains_adopt : (graph.adopt parent child).contains id = graph.contains id := by
  rw [contains, get?_adopt, contains]
  by_cases here : id = child
  · subst id
    simp
  · rw [if_neg here]

theorem held?_adopt :
    (graph.adopt parent child).held? id name = graph.held? id name :=
  held?_update fun _ _ => rfl

/-- An attachment nests a live child in a live parent, or fails and changes nothing, or gives a live
child a parent that is not live and fails. The last happens only by force. -/
theorem attachNested_cases (graph : EntityGraph) (parent : EntityId) (name : String)
    (child : EntityId) (force : Bool) :
    (graph.checkWritable parent name force = .ok () ∧ graph.contains child = true ∧
        graph.contains parent = true ∧
          graph.attachNested parent name child force =
            ⟨(graph.adopt parent child).store parent name (.nested child), .ok ()⟩) ∨
      ((graph.checkWritable parent name force ≠ .ok () ∨ graph.contains child = false) ∧
        ∃ error, graph.attachNested parent name child force = ⟨graph, .error error⟩) ∨
        (force = true ∧ graph.contains child = true ∧ graph.contains parent = false ∧
          graph.attachNested parent name child force =
            ⟨graph.adopt parent child, .error (.configuration (.unknownEntity parent))⟩) := by
  cases writable : graph.checkWritable parent name force with
  | error error =>
      refine Or.inr (Or.inl ⟨Or.inl nofun, error, ?_⟩)
      rw [attachNested, writable]
  | ok =>
      cases found : graph.get? child with
      | none =>
          refine Or.inr (Or.inl ⟨Or.inr (contains_eq_false.2 found),
            .configuration (.unknownEntity child), ?_⟩)
          rw [attachNested, writable]
          simp only [update_of_gone found, Outcome.andThen]
      | some entity =>
          have begun : graph.attachNested parent name child force =
              (graph.adopt parent child).update parent (·.put name (.nested child)) := by
            rw [attachNested, writable, adopt]
            simp only [update_of_get? found, Outcome.andThen]
          have childLive := contains_of_get? found
          cases parentLive : graph.contains parent with
          | true =>
              refine Or.inl ⟨rfl, childLive, rfl, ?_⟩
              rw [begun, update_eq_store (contains_adopt.trans parentLive)]
          | false =>
              have forced : force = true := by
                cases force with
                | true => rfl
                | false =>
                    rw [contains_of_checkWritable writable] at parentLive
                    cases parentLive
              refine Or.inr (Or.inr ⟨forced, childLive, rfl, ?_⟩)
              rw [begun, update_of_gone (contains_eq_false.1 (contains_adopt.trans parentLive))]

end EntityGraph

end SqlMapper
