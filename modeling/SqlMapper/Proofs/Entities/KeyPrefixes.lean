import Mathlib.Order.Bounds.Basic
import SqlMapper.Proofs.Entities.KeyPlaces

/-!
# Primary keys and names along a chain of parents

In a graph that was put together by hand a child may be stored in its parent under several names,
nested or referred to, or under none. The test for primary keys takes the chain from the entity with
the table down to the one in question, cuts it at the lowest entity that its parent does not store,
and accepts a property if names can be chosen along the rest of the chain that make, with its own
name, the start of the key's path.

This says nothing of the order of properties, and the order makes no difference.
-/

namespace SqlMapper

/-- The second entity is the first with its properties and read-only names in another order. -/
structure Entity.Reordered (first second : Entity) : Prop where
  table : second.table = first.table
  parent : second.parent = first.parent
  properties : second.properties.Perm first.properties
  readOnly : second.readOnly.Perm first.readOnly

namespace EntityGraph

variable {graph other : EntityGraph} {holder id parent top last child : EntityId} {table : TableId}
  {below chain entities : List EntityId} {name : String} {names : List String} {entity : Entity}

/-- The entity stores another one under the name, nested or referred to. -/
def Stores (graph : EntityGraph) (holder : EntityId) (name : String) (child : EntityId) : Prop :=
  ∃ entity property, graph.get? holder = some entity ∧ (name, property) ∈ entity.properties ∧
    property.entity? = some child

/-- The second graph is the first with the properties of its entities in another order. -/
def Reordered (first second : EntityGraph) : Prop :=
  ∀ id, Option.Rel Entity.Reordered (first.get? id) (second.get? id)

theorem mem_namesOf_iff_stores (live : graph.get? holder = some entity) :
    name ∈ entity.namesOf child ↔ graph.Stores holder name child := by
  simp only [Stores, live, Option.some.injEq, Entity.namesOf, List.mem_map, List.mem_filter,
    beq_iff_eq]
  constructor
  · rintro ⟨⟨label, property⟩, ⟨member, leads⟩, rfl⟩
    exact ⟨entity, property, rfl, member, leads⟩
  · rintro ⟨_, property, rfl, member, leads⟩
    exact ⟨(name, property), ⟨member, leads⟩, rfl⟩

/-- The names lead from an entity to each of the others in turn: each is stored in the one before it
under the name at its place. -/
inductive StoredAlong (graph : EntityGraph) : EntityId → List String → List EntityId → Prop
  | here (top : EntityId) : StoredAlong graph top [] []
  | down {top next : EntityId} {name : String} {names : List String} {rest : List EntityId}
      (stored : graph.Stores top name next) (further : StoredAlong graph next names rest) :
      StoredAlong graph top (name :: names) (next :: rest)

theorem storedAlong_nil : graph.StoredAlong top names [] ↔ names = [] := by
  constructor
  · rintro (_ | _)
    rfl
  · rintro rfl
    exact .here top

theorem StoredAlong.of_stores
    (kept : ∀ {holder name child}, graph.Stores holder name child →
      other.Stores holder name child)
    (along : graph.StoredAlong top names entities) : other.StoredAlong top names entities := by
  induction along with
  | here top => exact .here top
  | down stored further ih => exact .down (kept stored) ih

/-- A chain goes one entity further by a name of its last entity. -/
theorem storedAlong_concat (ends : (top :: entities).getLast? = some last) :
    graph.StoredAlong top names (entities ++ [child]) ↔
      ∃ passed name, names = passed ++ [name] ∧ graph.StoredAlong top passed entities ∧
        graph.Stores last name child := by
  induction entities generalizing top names with
  | nil =>
      cases ends
      constructor
      · rintro (_ | ⟨stored, _ | _⟩)
        exact ⟨[], _, rfl, .here top, stored⟩
      · rintro ⟨passed, name, rfl, _ | _, stored⟩
        exact .down stored (.here child)
  | cons next rest ih =>
      rw [List.getLast?_cons_cons] at ends
      constructor
      · rintro (_ | ⟨first, further⟩)
        rcases (ih ends).1 further with ⟨passed, name, rfl, along, stored⟩
        exact ⟨_ :: passed, name, rfl, .down first along, stored⟩
      · rintro ⟨_, name, rfl, _ | ⟨first, along⟩, stored⟩
        exact .down first ((ih ends).2 ⟨_, name, rfl, along, stored⟩)

/-- The places of a chain where an entity stands that the one before it stores under no name, and
the start. -/
def looseAt (graph : EntityGraph) (chain : List EntityId) : Set Nat :=
  {place | place = 0 ∨ ∃ before parent child, place = before + 1 ∧ chain[before]? = some parent ∧
    chain[place]? = some child ∧ ∀ name, ¬ graph.Stores parent name child}

/-- An entity that is stored adds no loose place to a chain. -/
theorem looseAt_concat_of_stored (ends : chain.getLast? = some last)
    (stored : graph.Stores last name child) :
    graph.looseAt (chain ++ [child]) = graph.looseAt chain := by
  ext place
  refine or_congr_right ?_
  constructor
  · rintro ⟨before, parent, next, rfl, above, there, loose⟩
    rcases Nat.lt_trichotomy (before + 1) chain.length with inside | atEnd | beyond
    · rw [List.getElem?_append_left (Nat.lt_of_succ_lt inside)] at above
      rw [List.getElem?_append_left inside] at there
      exact ⟨before, parent, next, rfl, above, there, loose⟩
    · -- The last place is that of the child, and the entity before it stores the child.
      rw [List.getLast?_eq_getElem?, ← atEnd, Nat.add_sub_cancel] at ends
      rw [List.getElem?_append_left (by omega), ends] at above
      rw [atEnd, List.getElem?_concat_length] at there
      cases above
      cases there
      exact absurd stored (loose name)
    · have outside : (chain ++ [child]).length ≤ before + 1 := by
        rw [List.length_append, List.length_singleton]
        exact beyond
      rw [List.getElem?_eq_none outside] at there
      cases there
  · rintro ⟨before, parent, next, rfl, above, there, loose⟩
    have inside := (List.getElem?_eq_some_iff.1 there).1
    refine ⟨before, parent, next, rfl, ?_, ?_, loose⟩
    · rw [List.getElem?_append_left (Nat.lt_of_succ_lt inside), above]
    · rw [List.getElem?_append_left inside, there]

/-- An entity that is not stored is the last loose place of the chain that it ends. -/
theorem isGreatest_looseAt_concat (ends : chain.getLast? = some last)
    (loose : ∀ name, ¬ graph.Stores last name child) :
    IsGreatest (graph.looseAt (chain ++ [child])) chain.length := by
  have nonempty : 0 < chain.length := by
    cases chain with
    | nil => cases ends
    | cons first rest => simp
  constructor
  · refine Or.inr ⟨chain.length - 1, last, child, by omega, ?_, List.getElem?_concat_length, loose⟩
    rw [List.getElem?_append_left (by omega), ← List.getLast?_eq_getElem?, ends]
  · rintro place (rfl | ⟨before, parent, next, rfl, _, there, _⟩)
    · exact Nat.zero_le _
    · have inside := (List.getElem?_eq_some_iff.1 there).1
      rw [List.length_append, List.length_singleton] at inside
      exact Nat.le_of_lt_succ inside

namespace Ascent

theorem getLast?_chain (ascent : graph.Ascent holder table below id) :
    (holder :: below.reverse).getLast? = some id := by
  cases ascent with
  | top live typed => rfl
  | step live untyped parented rest =>
      rw [List.reverse_cons, ← List.cons_append, List.getLast?_concat]

/-- Above an entity that its parent does not store no names are collected. -/
theorem linkNames_loose (ascent : graph.Ascent holder table below parent)
    (loose : ∀ name, ¬ graph.Stores parent name child) :
    graph.linkNames holder (child :: below) = [] := by
  rcases ascent.exists_live with ⟨entity, live⟩
  have nameless : entity.namesOf child = [] :=
    List.eq_nil_iff_forall_not_mem.2 fun name member =>
      loose name ((mem_namesOf_iff_stores live).1 member)
  rw [linkNames, ascent.headD_eq, live, Option.map_some, nameless]

/-- The names that the test collects on the way up are those along the chain below its last loose
place. -/
theorem exists_cut (ascent : graph.Ascent holder table below id) :
    ∃ cut top, IsGreatest (graph.looseAt (holder :: below.reverse)) cut ∧
      (holder :: below.reverse)[cut]? = some top ∧
      ∀ names, graph.StoredAlong top names ((holder :: below.reverse).drop (cut + 1)) ↔
        List.Forall₂ (· ∈ ·) names (graph.linkNames holder below).reverse := by
  induction ascent with
  | top live typed =>
      refine ⟨0, holder, ⟨Or.inl rfl, ?_⟩, rfl, fun names => ?_⟩
      · rintro place (rfl | ⟨before, parent, child, rfl, _, there, _⟩)
        · exact Nat.le_refl _
        · cases there
      · simp [linkNames, storedAlong_nil]
  | @step below id parent entity live untyped parented rest ih =>
      have ends := rest.getLast?_chain
      rw [List.reverse_cons, ← List.cons_append]
      by_cases stored : ∃ name, graph.Stores parent name id
      · rcases stored with ⟨name, stored⟩
        rcases ih with ⟨cut, top, greatest, there, chosen⟩
        rcases rest.exists_live with ⟨above, liveAbove⟩
        have member := (mem_namesOf_iff_stores liveAbove).2 stored
        have inside := (List.getElem?_eq_some_iff.1 there).1
        have endsBelow :
            (top :: (holder :: below.reverse).drop (cut + 1)).getLast? = some parent := by
          rw [← (List.getElem?_eq_some_iff.1 there).2, List.getElem_cons_drop, List.getLast?_drop,
            if_neg (Nat.not_le_of_lt inside), ends]
        refine ⟨cut, top, ?_, ?_, fun names => ?_⟩
        · rwa [looseAt_concat_of_stored ends stored]
        · rw [List.getElem?_append_left inside, there]
        · rw [List.drop_append_of_le_length (Nat.succ_le_of_lt inside),
            storedAlong_concat endsBelow, rest.linkNames_step liveAbove member, List.reverse_cons,
            forall₂_mem_concat]
          simp only [chosen, mem_namesOf_iff_stores liveAbove]
      · have loose : ∀ name, ¬ graph.Stores parent name id := fun name held =>
          stored ⟨name, held⟩
        refine ⟨_, id, isGreatest_looseAt_concat ends loose, List.getElem?_concat_length,
          fun names => ?_⟩
        rw [rest.linkNames_loose loose, List.drop_eq_nil_of_le (by simp), storedAlong_nil]
        simp

end Ascent

namespace Reordered

theorem stores_iff (reordered : graph.Reordered other) :
    other.Stores holder name child ↔ graph.Stores holder name child := by
  have here := reordered holder
  rw [Stores, Stores]
  generalize graph.get? holder = first at here
  generalize other.get? holder = second at here
  cases here with
  | none => simp
  | some same => simp [same.properties.mem_iff]

theorem looseAt_eq (reordered : graph.Reordered other) (chain : List EntityId) :
    other.looseAt chain = graph.looseAt chain := by
  simp only [looseAt, reordered.stores_iff]

theorem storedAlong_iff (reordered : graph.Reordered other) :
    other.StoredAlong top names entities ↔ graph.StoredAlong top names entities :=
  ⟨StoredAlong.of_stores reordered.stores_iff.1, StoredAlong.of_stores reordered.stores_iff.2⟩

theorem ascent (reordered : graph.Reordered other)
    (ascent : graph.Ascent holder table below id) : other.Ascent holder table below id := by
  have still : ∀ {id entity}, graph.get? id = some entity →
      ∃ moved, other.get? id = some moved ∧ entity.Reordered moved := by
    intro id entity live
    have here := reordered id
    rw [live] at here
    generalize other.get? id = second at here
    cases here with
    | some same => exact ⟨_, rfl, same⟩
  induction ascent with
  | top live typed =>
      rcases still live with ⟨moved, there, same⟩
      exact .top there (same.table.trans typed)
  | step live untyped parented rest ih =>
      rcases still live with ⟨moved, there, same⟩
      exact .step there (same.table.trans untyped) (same.parent.trans parented) ih

end Reordered

/-- On the way up from an entity to one with a table and a nested key, whatever stores what, the
test always answers. A property is the key if names can be chosen for the entities below the last
loose place of the chain, each a name under which the one before stores the entity, that make the
start of the key's path together with the name of the property. Another order of the properties
gives the same answer. -/
theorem isPrimaryKey_iff_chosen_prefix {catalog : Catalog} {described : Table} {path : PropertyPath}
    (ascent : graph.Ascent holder table below id) (entered : catalog.table table = .ok described)
    (bound : described.primaryKeyBinding = .ok (.nested path)) (name : String) :
    ∃ cut top answer, IsGreatest (graph.looseAt (holder :: below.reverse)) cut ∧
      (holder :: below.reverse)[cut]? = some top ∧
      graph.isPrimaryKey catalog id name = .ok answer ∧
      (answer = true ↔
        ∃ names, graph.StoredAlong top names ((holder :: below.reverse).drop (cut + 1)) ∧
          names ++ [name] <+: path.names) ∧
      ∀ other, graph.Reordered other → other.isPrimaryKey catalog id name = .ok answer := by
  have answers : ∀ {graph : EntityGraph}, graph.Ascent holder table below id →
      ∃ cut top answer, IsGreatest (graph.looseAt (holder :: below.reverse)) cut ∧
        (holder :: below.reverse)[cut]? = some top ∧
        graph.isPrimaryKey catalog id name = .ok answer ∧
        (answer = true ↔
          ∃ names, graph.StoredAlong top names ((holder :: below.reverse).drop (cut + 1)) ∧
            names ++ [name] <+: path.names) := by
    intro graph ascent
    rcases ascent.exists_cut with ⟨cut, top, greatest, there, chosen⟩
    rcases isPrimaryKey_of_nested ascent.ownership_eq entered bound name with
      ⟨answer, asked, accepted⟩
    refine ⟨cut, top, answer, greatest, there, asked, accepted.trans ?_⟩
    simp only [chosen, and_comm]
  rcases answers ascent with ⟨cut, top, answer, greatest, there, asked, accepted⟩
  refine ⟨cut, top, answer, greatest, there, asked, accepted, fun other reordered => ?_⟩
  rcases answers (reordered.ascent ascent) with
    ⟨otherCut, otherTop, otherAnswer, otherGreatest, otherThere, otherAsked, otherAccepted⟩
  -- The chain is cut at the same place, so both answers ask for the same names.
  rw [reordered.looseAt_eq] at otherGreatest
  cases otherGreatest.unique greatest
  rw [there] at otherThere
  cases otherThere
  simp only [reordered.storedAlong_iff] at otherAccepted
  rw [otherAsked, Bool.eq_iff_iff.2 (otherAccepted.trans accepted.symm)]

/-- A badge with a contact that it does not store; the contact stores a site twice. -/
def badgeOfContact (siteNames : List (String × Property)) : EntityGraph :=
  ⟨[some { table := some ⟨1⟩ }, some { parent := some ⟨0⟩, properties := siteNames },
    some { parent := some ⟨1⟩ }]⟩

/-- The names under which the contact stores its site. -/
def siteOfContact : List (String × Property) :=
  [("branch", .reference ⟨2⟩), ("site", .nested ⟨2⟩)]

theorem isPrimaryKey_badgeOfContact :
    (badgeOfContact siteOfContact).Ascent ⟨0⟩ ⟨1⟩ [⟨2⟩, ⟨1⟩] ⟨2⟩ ∧
      registry.table ⟨1⟩ = .ok badges ∧
      badges.primaryKeyBinding = .ok (.nested departmentPath) ∧
      IsGreatest ((badgeOfContact siteOfContact).looseAt [⟨0⟩, ⟨1⟩, ⟨2⟩]) 1 ∧
      (badgeOfContact siteOfContact).isPrimaryKey registry ⟨2⟩ "department" = .ok true ∧
      (badgeOfContact siteOfContact.reverse).isPrimaryKey registry ⟨2⟩ "department" = .ok true := by
  have ascent : (badgeOfContact siteOfContact).Ascent ⟨0⟩ ⟨1⟩ [⟨2⟩, ⟨1⟩] ⟨2⟩ :=
    .step rfl rfl rfl (.step rfl rfl rfl (.top rfl rfl))
  have entered : registry.table ⟨1⟩ = .ok badges := rfl
  have bound : badges.primaryKeyBinding = .ok (.nested departmentPath) := rfl
  have stored : (badgeOfContact siteOfContact).Stores ⟨1⟩ "site" ⟨2⟩ :=
    ⟨_, .nested ⟨2⟩, rfl, by simp [siteOfContact], rfl⟩
  have loose : ∀ name, ¬ (badgeOfContact siteOfContact).Stores ⟨0⟩ name ⟨1⟩ := by
    rintro name ⟨entity, property, live, member, _⟩
    cases live
    cases member
  have greatest : IsGreatest ((badgeOfContact siteOfContact).looseAt [⟨0⟩, ⟨1⟩, ⟨2⟩]) 1 := by
    have ends : ([⟨0⟩, ⟨1⟩] : List EntityId).getLast? = some ⟨1⟩ := rfl
    have kept : (badgeOfContact siteOfContact).looseAt [⟨0⟩, ⟨1⟩, ⟨2⟩] =
        (badgeOfContact siteOfContact).looseAt [⟨0⟩, ⟨1⟩] := looseAt_concat_of_stored ends stored
    have start : ([⟨0⟩] : List EntityId).getLast? = some ⟨0⟩ := rfl
    rw [kept]
    exact isGreatest_looseAt_concat start loose
  have reordered : (badgeOfContact siteOfContact).Reordered
      (badgeOfContact siteOfContact.reverse) := by
    rintro ⟨_ | _ | _ | index⟩
    · exact .some ⟨rfl, rfl, .refl _, .refl _⟩
    · exact .some ⟨rfl, rfl, List.reverse_perm _, .refl _⟩
    · exact .some ⟨rfl, rfl, .refl _, .refl _⟩
    · exact .none
  rcases isPrimaryKey_iff_chosen_prefix ascent entered bound "department" with
    ⟨cut, top, answer, cutGreatest, there, asked, accepted, sameAnswer⟩
  cases cutGreatest.unique greatest
  cases there
  have chosen : (badgeOfContact siteOfContact).StoredAlong ⟨1⟩ ["site"] [⟨2⟩] :=
    .down stored (.here ⟨2⟩)
  cases accepted.2 ⟨["site"], chosen, ⟨["id"], rfl⟩⟩
  exact ⟨ascent, entered, bound, greatest, asked, sameAnswer _ reordered⟩

end EntityGraph

end SqlMapper
