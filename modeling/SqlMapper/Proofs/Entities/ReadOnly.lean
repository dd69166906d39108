import SqlMapper.Proofs.Entities.WellFormed

/-!
# Read-only properties

A read-only property changes only by force. Every write that is not forced asks whether the property
may be written before it changes anything: by hand, at the end of a route, and where a step of a
route makes an entity. The writes of a row are forced, but they reach new entities only. So over any
run without force a read-only property holds what it held, for as long as its entity is live.

There is one exception. The parent of a removed entity drops it from all its properties, read-only
ones too. What was dropped in this way does not come back, because the property stays read-only.
-/

namespace SqlMapper

/-- The operation forces no write on an entity that is there already. -/
def Operation.isUnforced : Operation → Bool
  | setValue _ _ _ force | attachNested _ _ _ force | attachReference _ _ _ force
  | writeColumn _ _ _ _ force => !force
  | _ => true

/-- The name is read-only in the entity, which holds this under it, and under no name twice. -/
structure Entity.Locks (entity : Entity) (name : String) (held : Option Property) : Prop where
  readOnly : entity.isReadOnly name = true
  holds : entity.property? name = held
  distinct : entity.NamesDistinct

namespace Entity.Locks

variable {entity : Entity} {name label : String} {held : Option Property}

theorem put (locks : entity.Locks name held) (elsewhere : label ≠ name) (property : Property) :
    (entity.put label property).Locks name held where
  readOnly := locks.readOnly
  holds := by rw [property?_put, if_neg elsewhere.symm, locks.holds]
  distinct := locks.distinct.put label property

theorem adopted (locks : entity.Locks name held) (parent : EntityId) :
    { entity with parent := some parent : Entity }.Locks name held :=
  ⟨locks.readOnly, locks.holds, locks.distinct⟩

theorem markReadOnly (locks : entity.Locks name held) (label : String) :
    (if entity.isReadOnly label then entity
      else { entity with readOnly := entity.readOnly ++ [label] }).Locks name held := by
  split
  · exact locks
  · refine ⟨?_, locks.holds, locks.distinct⟩
    have before := locks.readOnly
    simp only [isReadOnly, List.contains_iff_mem, List.mem_append] at before ⊢
    exact Or.inl before

/-- Dropping an entity empties the property if it is what the property holds. -/
theorem unlink (locks : entity.Locks name held) (inner : EntityId) :
    (entity.unlink inner).Locks name held ∨
      (held = some (.nested inner) ∧ (entity.unlink inner).Locks name none) := by
  have distinct := locks.distinct.unlink inner
  by_cases same : held = some (.nested inner)
  · refine Or.inr ⟨same, locks.readOnly, ?_, distinct⟩
    rw [Option.eq_none_iff_forall_ne_some]
    intro property holds
    rcases (locks.distinct.property?_unlink inner).1 holds with ⟨before, other⟩
    rw [locks.holds, same] at before
    exact other (Option.some.inj before).symm
  · refine Or.inl ⟨locks.readOnly, ?_, distinct⟩
    ext property
    rw [locks.distinct.property?_unlink, locks.holds]
    refine ⟨fun holds => holds.1, fun holds => ⟨holds, ?_⟩⟩
    rintro rfl
    exact same holds

end Entity.Locks

namespace EntityGraph

variable {graph after : EntityGraph} {id entity other parent child : EntityId}
  {name label : String} {held : Option Property} {operation : Operation}

/-- The entity is live, and the name is read-only in it and holds this. -/
def Locked (graph : EntityGraph) (id : EntityId) (name : String) (held : Option Property) : Prop :=
  ∃ entity, graph.get? id = some entity ∧ entity.Locks name held

/-- An entity had this number, and is not live any more. -/
def Gone (graph : EntityGraph) (id : EntityId) : Prop :=
  graph.get? id = none ∧ id.index < graph.slots.length

namespace Gone

theorem insert (gone : graph.Gone id) (made : Entity) : (graph.insert made).1.Gone id := by
  have old : id ≠ graph.nextId := by
    rintro rfl
    exact Nat.lt_irrefl _ gone.2
  refine ⟨by rw [get?_insert, if_neg old, gone.1], ?_⟩
  exact Nat.lt_of_lt_of_le gone.2 (by simp [EntityGraph.insert])

theorem update (gone : graph.Gone id) (other : EntityId) (change : Entity → Entity) :
    (graph.update other change).graph.Gone id := by
  refine ⟨?_, by rw [length_update]; exact gone.2⟩
  rw [get?_update]
  split
  · next same => rw [← same, gone.1]; rfl
  · exact gone.1

theorem unlinkFromParent (gone : graph.Gone id) (other : EntityId) (removed : Entity) :
    (graph.unlinkFromParent other removed).Gone id := by
  refine ⟨?_, by rw [length_unlinkFromParent]; exact gone.2⟩
  rw [get?_unlinkFromParent, gone.1]
  split <;> rfl

theorem removeAll (gone : graph.Gone id) (pending : List EntityId) :
    (graph.removeAll pending).Gone id := by
  refine ⟨?_, by rw [length_removeAll]; exact gone.2⟩
  rw [Option.eq_none_iff_forall_ne_some]
  intro survivor live
  have before := (get?_removeAll_eq_some.1 live).2
  rw [gone.1] at before
  cases before

theorem remove (gone : graph.Gone id) (other : EntityId) : (graph.remove other).graph.Gone id := by
  cases found : graph.get? other with
  | none => rwa [remove_of_gone found]
  | some removed =>
      rw [remove_of_live found]
      exact (gone.unlinkFromParent other removed).removeAll [other]

theorem change (gone : graph.Gone id) (change : Change graph after) : after.Gone id := by
  cases change with
  | createChild live => exact gone.insert _
  | adopt parent name live => exact (gone.update _ _).update _ _
  | refer owner name live => exact gone.update _ _
  | binding change =>
      cases change with
      | create table => exact gone.insert _
      | extend link live vacant => exact (gone.insert _).update _ _
      | store value live free => exact gone.update _ _
      | lock other label => exact gone.update _ _
      | remove other => exact gone.remove other

theorem run (gone : graph.Gone id) (operations : List Operation) :
    (graph.run operations).Gone id :=
  @run_induction graph (fun graph => graph.Gone id) operations gone fun gone change =>
    gone.change change

end Gone

namespace Locked

theorem contains (locked : graph.Locked id name held) : graph.contains id = true := by
  rcases locked with ⟨_, live, _⟩
  exact contains_of_get? live

theorem insert (locked : graph.Locked id name held) (made : Entity) :
    (graph.insert made).1.Locked id name held := by
  rcases locked with ⟨found, live, locks⟩
  exact ⟨found, by rw [get?_insert, if_neg (ne_nextId_of_get? live), live], locks⟩

theorem update (locked : graph.Locked id name held) {change : Entity → Entity}
    (keeps : ∀ found : Entity, other = id → found.Locks name held →
      (change found).Locks name held) :
    (graph.update other change).graph.Locked id name held := by
  rcases locked with ⟨found, live, locks⟩
  rw [Locked, get?_update]
  by_cases here : id = other
  · subst other
    exact ⟨change found, by rw [if_pos rfl, live]; rfl, keeps found rfl locks⟩
  · exact ⟨found, by rw [if_neg here, live], locks⟩

theorem store (locked : graph.Locked id name held) (elsewhere : ¬ (other = id ∧ label = name))
    (property : Property) : (graph.store other label property).Locked id name held :=
  locked.update fun _ here locks => locks.put (fun same => elsewhere ⟨here, same⟩) property

theorem extend (locked : graph.Locked id name held) (elsewhere : ¬ (other = id ∧ label = name))
    (link : Link) : (graph.extend other label link).Locked id name held :=
  (locked.insert _).store elsewhere _

theorem adopt (locked : graph.Locked id name held) (parent child : EntityId) :
    (graph.adopt parent child).Locked id name held :=
  locked.update fun _ _ locks => locks.adopted parent

theorem checkWritable (locked : graph.Locked id name held) :
    graph.checkWritable id name false = .error (.readOnlyProperty name) := by
  rcases locked with ⟨found, live, locks⟩
  rw [EntityGraph.checkWritable, get_eq_ok.2 live]
  simp [locks.readOnly]

/-- What may be written is another property than the locked one. -/
theorem elsewhere (locked : graph.Locked id name held)
    (writable : graph.checkWritable other label false = .ok ()) :
    ¬ (other = id ∧ label = name) := by
  rintro ⟨rfl, rfl⟩
  rw [locked.checkWritable] at writable
  cases writable

theorem ensure (locked : graph.Locked id name held) (entity : EntityId) (label : String)
    (link : Link) : (graph.ensure entity label false link).graph.Locked id name held := by
  rcases ensure_cases graph entity label false link with
    ⟨next, _, followed⟩ | ⟨live, vacant, made⟩ | ⟨error, failed⟩
  · rwa [followed]
  · cases writable : graph.checkWritable entity label false with
    | error error => rwa [ensure_of_locked live vacant writable]
    | ok =>
        rw [made]
        exact locked.extend (locked.elsewhere writable) link
  · rwa [failed]

theorem walk (locked : graph.Locked id name held) (entity : EntityId)
    (steps : List (String × Link)) : (graph.walk entity false steps).graph.Locked id name held := by
  induction steps generalizing graph entity with
  | nil => exact locked
  | cons step steps ih =>
      rcases step with ⟨label, link⟩
      have stepped := locked.ensure entity label link
      rw [EntityGraph.walk]
      generalize graph.ensure entity label false link = outcome at stepped ⊢
      rcases outcome with ⟨after, _ | next⟩
      · exact stepped
      · exact ih stepped next

theorem setValue (locked : graph.Locked id name held) (entity : EntityId) (label : String)
    (value : Value) : (graph.setValue entity label value false).graph.Locked id name held := by
  cases writable : graph.checkWritable entity label false with
  | error error => rwa [EntityGraph.setValue, writable]
  | ok =>
      rcases setValue_cases graph entity label value false with
        ⟨_, _, stored⟩ | ⟨error, failed⟩
      · rw [stored]
        exact locked.store (locked.elsewhere writable) _
      · rwa [failed]

theorem writeColumn (locked : graph.Locked id name held) (catalog : Catalog) (entity : EntityId)
    (column : Column) (value : Value) :
    (graph.writeColumn catalog entity column value false).graph.Locked id name held := by
  rw [EntityGraph.writeColumn, Route.write_eq_walk]
  have walked := locked.walk entity (graph.route catalog column).steps
  generalize graph.walk entity false (graph.route catalog column).steps = outcome at walked ⊢
  rcases outcome with ⟨after, _ | last⟩
  · exact walked
  · simp only [Outcome.andThen]
    cases (graph.route catalog column).ending with
    | error cause => exact walked
    | ok leaf => exact walked.setValue last leaf value

theorem attachNested (locked : graph.Locked id name held) (parent : EntityId) (label : String)
    (child : EntityId) :
    (graph.attachNested parent label child false).graph.Locked id name held := by
  rcases attachNested_cases graph parent label child false with
    ⟨writable, _, _, done⟩ | ⟨_, _, failed⟩ | ⟨forced, _⟩
  · rw [done]
    exact (locked.adopt parent child).store (locked.elsewhere writable) _
  · rwa [failed]
  · cases forced

theorem attachReference (locked : graph.Locked id name held) (owner : EntityId) (label : String)
    (target : EntityId) :
    (graph.attachReference owner label target false).graph.Locked id name held := by
  rcases attachReference_cases graph owner label target false with
    ⟨writable, _, _, stored⟩ | ⟨error, failed⟩
  · rw [stored]
    exact locked.store (locked.elsewhere writable) _
  · rwa [failed]

theorem populate (locked : graph.Locked id name held) (catalog : Catalog) (table : TableId)
    (row : Row) : (graph.populate catalog table row).graph.Locked id name held := by
  rcases locked with ⟨found, live, locks⟩
  have kept := (separate_populate graph catalog table row).kept (index_lt_of_get? live)
  exact ⟨found, kept.trans live, locks⟩

/-- A removal takes the entity, or empties the property of what it removes, or leaves it alone. -/
theorem remove (locked : graph.Locked id name held) (inner : EntityId) :
    (graph.remove inner).graph.Locked id name held ∨ (graph.remove inner).graph.Gone id ∨
      (held = some (.nested inner) ∧ (graph.remove inner).graph.Locked id name none) := by
  cases found : graph.get? inner with
  | none =>
      rw [remove_of_gone found]
      exact Or.inl locked
  | some removed =>
      rcases locked with ⟨owner, live, locks⟩
      have old : id.index < (graph.unlinkFromParent inner removed).slots.length := by
        rw [length_unlinkFromParent]
        exact index_lt_of_get? live
      rw [remove_of_live found]
      rcases get?_removeAll (graph.unlinkFromParent inner removed) [inner] id with ⟨taken, spared⟩
      by_cases owned : (graph.unlinkFromParent inner removed).Owned [inner] id
      · exact Or.inr (Or.inl ⟨taken owned, by rw [length_removeAll]; exact old⟩)
      · have stays := spared owned
        rw [get?_unlinkFromParent, live] at stays
        split at stays
        · rcases locks.unlink inner with kept | ⟨same, emptied⟩
          · exact Or.inl ⟨_, stays, kept⟩
          · exact Or.inr (Or.inr ⟨same, _, stays, emptied⟩)
        · exact Or.inl ⟨_, stays, locks⟩

theorem apply (locked : graph.Locked id name held) (unforced : operation.isUnforced = true) :
    (operation.apply graph).Locked id name held ∨ (operation.apply graph).Gone id ∨
      ∃ inner, operation = .remove inner ∧ held = some (.nested inner) ∧
        (operation.apply graph).Locked id name none := by
  cases operation with
  | create table => exact Or.inl (locked.insert _)
  | createChild parent =>
      refine Or.inl ?_
      rcases createChild_cases graph parent with ⟨_, made⟩ | ⟨error, failed⟩
      · rw [Operation.apply, made]
        exact locked.insert _
      · rwa [Operation.apply, failed]
  | markReadOnly other label =>
      exact Or.inl (locked.update fun _ _ locks => locks.markReadOnly label)
  | setValue entity label value force =>
      cases force with
      | true => cases unforced
      | false => exact Or.inl (locked.setValue entity label value)
  | attachNested parent label child force =>
      cases force with
      | true => cases unforced
      | false => exact Or.inl (locked.attachNested parent label child)
  | attachReference owner label target force =>
      cases force with
      | true => cases unforced
      | false => exact Or.inl (locked.attachReference owner label target)
  | writeColumn catalog entity column value force =>
      cases force with
      | true => cases unforced
      | false => exact Or.inl (locked.writeColumn catalog entity column value)
  | populate catalog table row => exact Or.inl (locked.populate catalog table row)
  | remove inner =>
      rcases locked.remove inner with kept | gone | ⟨same, emptied⟩
      · exact Or.inl kept
      · exact Or.inr (Or.inl gone)
      · exact Or.inr (Or.inr ⟨inner, rfl, same, emptied⟩)

/-- Over a run without force a locked property holds what it held, or has lost the nested entity it
held to a removal, or is gone with its entity. -/
theorem run {operations : List Operation} (locked : graph.Locked id name held)
    (unforced : ∀ operation ∈ operations, operation.isUnforced = true) :
    (graph.run operations).Locked id name held ∨ (graph.run operations).Gone id ∨
      ∃ inner, .remove inner ∈ operations ∧ held = some (.nested inner) ∧
        (graph.run operations).Locked id name none := by
  induction operations generalizing graph held with
  | nil => exact Or.inl locked
  | cons operation rest ih =>
      rcases List.forall_mem_cons.1 unforced with ⟨first, others⟩
      rcases locked.apply first with kept | gone | ⟨inner, rfl, same, emptied⟩
      · rcases ih kept others with stays | gone | ⟨inner, member, same, emptied⟩
        · exact Or.inl stays
        · exact Or.inr (Or.inl gone)
        · exact Or.inr (Or.inr ⟨inner, List.mem_cons_of_mem _ member, same, emptied⟩)
      · exact Or.inr (Or.inl (gone.run rest))
      · rcases ih emptied others with stays | gone | ⟨_, _, impossible, _⟩
        · exact Or.inr (Or.inr ⟨inner, List.mem_cons_self, same, stays⟩)
        · exact Or.inr (Or.inl gone)
        · cases impossible

end Locked

/-- A read-only property of an entity that is live before and after a run without force holds what
it held, unless it held an entity nested that the run removes; then it may hold nothing. The entity
has its properties by name, no name twice. -/
theorem readOnly_run (graph : EntityGraph) (id : EntityId) (name : String) (before now : Entity)
    (operations : List Operation) (live : graph.get? id = some before)
    (distinct : before.NamesDistinct) (readOnly : before.isReadOnly name = true)
    (unforced : ∀ operation ∈ operations, operation.isUnforced = true)
    (stays : (graph.run operations).get? id = some now) :
    now.property? name = before.property? name ∨
      ∃ inner, .remove inner ∈ operations ∧ before.property? name = some (.nested inner) ∧
        now.property? name = none := by
  have locked : graph.Locked id name (before.property? name) :=
    ⟨before, live, readOnly, rfl, distinct⟩
  rcases locked.run unforced with ⟨found, there, locks⟩ | gone |
    ⟨inner, member, same, found, there, locks⟩
  · rw [stays] at there
    cases there
    exact Or.inl locks.holds
  · have dead := gone.1
    rw [stays] at dead
    cases dead
  · rw [stays] at there
    cases there
    exact Or.inr ⟨inner, member, same, locks.holds⟩

/-- A project with a read-only lead. -/
def ledProject : EntityGraph :=
  ⟨[some { properties := [("lead", .nested ⟨1⟩), ("code", .value (.text "p"))]
           readOnly := ["lead", "code"] },
    some { parent := some ⟨0⟩ }, some {}]⟩

/-- The lead of a project leaves; neither before nor afterwards can another one take the place. -/
def departure : List Operation :=
  [.attachNested ⟨0⟩ "lead" ⟨2⟩ false, .setValue ⟨0⟩ "code" (.text "q") false, .remove ⟨1⟩,
    .attachReference ⟨0⟩ "lead" ⟨2⟩ false]

theorem readOnly_run_departure :
    (∀ operation ∈ departure, operation.isUnforced = true) ∧
      ∃ now, (ledProject.run departure).get? ⟨0⟩ = some now ∧
        (now.property? "lead" = some (.nested ⟨1⟩) ∨
          ∃ inner, .remove inner ∈ departure ∧
            some (Property.nested ⟨1⟩) = some (.nested inner) ∧ now.property? "lead" = none) := by
  have unforced : ∀ operation ∈ departure, operation.isUnforced = true := by decide
  have stays : (ledProject.run departure).get? ⟨0⟩ =
      some { properties := [("code", .value (.text "p"))], readOnly := ["lead", "code"] } := by
    have lead : ledProject.get? ⟨1⟩ = some { parent := some ⟨0⟩ } := rfl
    have left : (ledProject.remove ⟨1⟩).graph =
        (ledProject.unlinkFromParent ⟨1⟩ { parent := some ⟨0⟩ }).clear ⟨1⟩ := by
      rw [remove_of_live lead, removeAll_singleton rfl rfl]
    show ((ledProject.remove ⟨1⟩).graph.attachReference ⟨0⟩ "lead" ⟨2⟩ false).graph.get? ⟨0⟩ = _
    rw [left]
    rfl
  exact ⟨unforced, _, stays,
    readOnly_run ledProject ⟨0⟩ "lead" _ _ departure rfl
      (by simp [Entity.NamesDistinct]) (by decide) unforced stays⟩

end EntityGraph

end SqlMapper
