import Mathlib.Order.Antichain
import SqlMapper.Proofs.Entities.Paths

/-!
# Trees along paths

Writes along several paths into one new entity share the entities where the paths agree, and must
not disturb each other where they part. This file gives the invariant of the graph between such
writes: what is reached from the root is a tree along the paths, and scalars stand at ends of paths
only.

No path may be the start of another. Then a walk along one of the paths never meets a scalar on its
way, not even NULL, nor an entity at its end. So a forced write always gets through, it changes the
value of its own path alone, and a read finds what was written there last.
-/

namespace SqlMapper

/-- The value that a property holds. -/
def Property.value? : Property → Option Value
  | .value scalar => some scalar
  | .nested _ | .reference _ => none

theorem Property.value?_eq_some {property : Property} {scalar : Value} :
    property.value? = some scalar ↔ property = .value scalar := by
  cases property <;> simp [value?]

namespace EntityGraph

variable {graph : EntityGraph} {root id other : EntityId} {name leaf : String}
  {steps others path : List String} {paths : Set (List String)} {value : Value}

/-- The value at the end of a path of names. -/
def scalar? (graph : EntityGraph) (root : EntityId) (path : List String) : Option Value :=
  path.getLast?.bind fun leaf =>
    (graph.follow root path.dropLast).bind fun id => (graph.held? id leaf).bind Property.value?

theorem scalar?_concat :
    graph.scalar? root (steps ++ [leaf]) =
      (graph.follow root steps).bind fun id => (graph.held? id leaf).bind Property.value? := by
  simp [scalar?]

theorem scalar?_concat_eq_some :
    graph.scalar? root (steps ++ [leaf]) = some value ↔
      ∃ id, graph.follow root steps = some id ∧ graph.held? id leaf = some (.value value) := by
  simp only [scalar?_concat, Option.bind_eq_some_iff, Property.value?_eq_some, exists_eq_right]

theorem follow_concat :
    graph.follow root (steps ++ [name]) =
      (graph.follow root steps).bind (graph.next? · name) := by
  simp only [follow_append, follow_singleton]

/-- What is reached from the root is a tree along the paths, with scalars at their ends only. -/
structure TreeAlong (graph : EntityGraph) (root : EntityId) (paths : Set (List String)) : Prop where
  live : ∀ {steps : List String} {id : EntityId}, graph.follow root steps = some id →
    graph.contains id = true
  apart : ∀ {steps others : List String} {id : EntityId}, graph.follow root steps = some id →
    graph.follow root others = some id → steps = others
  within : ∀ {steps : List String} {id : EntityId}, graph.follow root steps = some id →
    steps ≠ [] → ∃ path ∈ paths, steps <+: path ∧ steps ≠ path
  scalars : ∀ {steps : List String} {id : EntityId} {name : String} {value : Value},
    graph.follow root steps = some id → graph.held? id name = some (.value value) →
      steps ++ [name] ∈ paths

/-- Two graphs agree on the values of all paths if they do on those that have a last name. -/
theorem scalar?_congr {before after : EntityGraph}
    (same : ∀ steps leaf value, after.scalar? root (steps ++ [leaf]) = some value ↔
      before.scalar? root (steps ++ [leaf]) = some value) (path : List String) :
    after.scalar? root path = before.scalar? root path := by
  rcases List.eq_nil_or_concat path with rfl | ⟨steps, leaf, rfl⟩
  · rfl
  · rw [List.concat_eq_append]
    exact Option.ext fun value => same steps leaf value

/-- A new entity is a tree that holds no values yet. -/
theorem treeAlong_create (graph : EntityGraph) (table : Option TableId)
    (paths : Set (List String)) :
    (graph.create table).1.TreeAlong graph.nextId paths ∧
      ∀ path, (graph.create table).1.scalar? graph.nextId path = none := by
  have empty : ∀ name, (graph.create table).1.held? graph.nextId name = none := fun name => by
    rw [held?_create, held?, get?_nextId]
    rfl
  have root_only : ∀ {steps id}, (graph.create table).1.follow graph.nextId steps = some id →
      steps = [] ∧ id = graph.nextId := by
    intro steps id reached
    cases steps with
    | nil => exact ⟨rfl, (Option.some.inj reached).symm⟩
    | cons name steps => simp [follow, next?, empty] at reached
  refine ⟨⟨fun reached => ?_, fun first second => ?_, fun reached further => ?_,
    fun reached holds => ?_⟩, fun path => ?_⟩
  · rw [(root_only reached).2]
    exact (contains_insert _).2 (Or.inl rfl)
  · rw [(root_only first).1, (root_only second).1]
  · exact absurd (root_only reached).1 further
  · rw [(root_only reached).2, empty] at holds
    cases holds
  · rw [Option.eq_none_iff_forall_ne_some]
    intro value
    rcases List.eq_nil_or_concat path with rfl | ⟨steps, leaf, rfl⟩
    · simp [scalar?]
    · rw [List.concat_eq_append, Ne, scalar?_concat_eq_some]
      rintro ⟨id, reached, holds⟩
      rw [(root_only reached).2, empty] at holds
      cases holds

namespace TreeAlong

/-- On the way along a path there is an entity, or nothing at all. -/
theorem absent_or_next (tree : graph.TreeAlong root paths)
    (antichain : IsAntichain (· <+: ·) paths) (member : path ∈ paths)
    (reached : graph.follow root steps = some id) (begun : steps ++ [name] <+: path)
    (further : steps ++ [name] ≠ path) :
    graph.held? id name = none ∨ ∃ next, graph.next? id name = some next := by
  rcases holds : graph.held? id name with _ | value | next | next
  · exact Or.inl rfl
  · exact absurd (antichain.eq (tree.scalars reached holds) member begun) further
  · exact Or.inr ⟨next, next?_eq_some.2 (Or.inl holds)⟩
  · exact Or.inr ⟨next, next?_eq_some.2 (Or.inr holds)⟩

/-- At the end of a path there is no entity. -/
theorem next?_eq_none (tree : graph.TreeAlong root paths)
    (antichain : IsAntichain (· <+: ·) paths) (member : steps ++ [leaf] ∈ paths)
    (reached : graph.follow root steps = some id) : graph.next? id leaf = none := by
  cases leads : graph.next? id leaf with
  | none => rfl
  | some next =>
      have beyond : graph.follow root (steps ++ [leaf]) = some next := by
        rw [follow_concat, reached]
        exact leads
      rcases tree.within beyond (by simp) with ⟨path, there, begun, further⟩
      exact absurd (antichain.eq member there begun) further

theorem descend_eq (tree : graph.TreeAlong root paths) (antichain : IsAntichain (· <+: ·) paths)
    (reached : graph.follow root steps = some id) (member : steps ++ others ++ [leaf] ∈ paths) :
    graph.descend id others = .ok (graph.follow id others) := by
  induction others generalizing steps id with
  | nil => rfl
  | cons name others ih =>
      have same : steps ++ name :: others ++ [leaf] = steps ++ [name] ++ others ++ [leaf] := by simp
      rw [same] at member
      rw [descend, EntityGraph.follow]
      have begun : steps ++ [name] <+: steps ++ [name] ++ others ++ [leaf] :=
        ⟨others ++ [leaf], by simp⟩
      rcases tree.absent_or_next antichain member reached begun (by simp) with
        absent | ⟨next, leads⟩
      · rw [child_of_vacant (tree.live reached) (Or.inl absent), next?, absent]
        rfl
      · rw [child_of_next? leads, leads]
        refine ih ?_ member
        rw [follow_concat, reached]
        exact leads

/-- A read along a path finds the value at its end. -/
theorem read_eq (tree : graph.TreeAlong root paths) (antichain : IsAntichain (· <+: ·) paths)
    {route : Route} (ends : route.ending = .ok leaf) (member : route.names ∈ paths) :
    route.read graph root = .ok (graph.scalar? root route.names) := by
  rw [Route.names_of_ending ends] at member ⊢
  have start : graph.follow root [] = some root := rfl
  have descended := tree.descend_eq antichain start member
  rw [Route.read_eq_descend, descended, scalar?_concat]
  cases reached : graph.follow root (route.steps.map Prod.fst) with
  | none => rfl
  | some last =>
      rw [ends]
      refine value_eq_ok.2 ⟨tree.live reached, ?_⟩
      have free := tree.next?_eq_none antichain member reached
      rw [next?] at free
      rcases holds : graph.held? last leaf with _ | value | next | next
      · simp [holds]
      · simp [holds, Property.value?]
      · simp [holds, Property.entity?] at free
      · simp [holds, Property.entity?] at free

theorem follow_extend (tree : graph.TreeAlong root paths)
    (reached : graph.follow root steps = some id) (absent : graph.held? id name = none)
    (link : Link) :
    (graph.extend id name link).follow root others = some other ↔
      graph.follow root others = some other ∨
        (others = steps ++ [name] ∧ other = graph.nextId) := by
  have live := tree.live reached
  induction others using List.reverseRecOn generalizing other with
  | nil => simp [EntityGraph.follow]
  | append_singleton others label ih =>
      simp only [follow_concat, Option.bind_eq_some_iff, ih]
      constructor
      · rintro ⟨place, old | ⟨rfl, rfl⟩, leads⟩
        · rw [next?_extend live] at leads
          split at leads
          · next here =>
            cases leads
            rw [here.1] at old
            exact Or.inr ⟨by rw [tree.apart reached old, here.2], rfl⟩
          · exact Or.inl ⟨place, old, leads⟩
        · rw [next?, held?_extend_nextId live] at leads
          cases leads
      · rintro (⟨place, old, leads⟩ | ⟨same, rfl⟩)
        · refine ⟨place, Or.inl old, ?_⟩
          rw [next?_extend live, if_neg, leads]
          rintro ⟨rfl, rfl⟩
          simp [next?, absent] at leads
        · rcases List.append_inj' same rfl with ⟨rfl, sameName⟩
          cases sameName
          exact ⟨id, Or.inl reached, by rw [next?_extend live, if_pos ⟨rfl, rfl⟩]⟩

/-- A new entity on the way along a path keeps the tree, and no value changes. -/
theorem extend (tree : graph.TreeAlong root paths) (reached : graph.follow root steps = some id)
    (absent : graph.held? id name = none) (member : path ∈ paths)
    (begun : steps ++ [name] <+: path) (further : steps ++ [name] ≠ path) (link : Link) :
    (graph.extend id name link).TreeAlong root paths ∧
      ∀ path, (graph.extend id name link).scalar? root path = graph.scalar? root path := by
  have live := tree.live reached
  have follows : ∀ {others other}, (graph.extend id name link).follow root others = some other ↔
      graph.follow root others = some other ∨
        (others = steps ++ [name] ∧ other = graph.nextId) :=
    tree.follow_extend reached absent link
  have unborn : ∀ {others}, graph.follow root others ≠ some graph.nextId := fun old => by
    rcases contains_iff.1 (tree.live old) with ⟨_, found⟩
    exact ne_nextId_of_get? found rfl
  -- A value stands in the new graph where it stood before.
  have values : ∀ {place label value},
      (graph.extend id name link).held? place label = some (.value value) ↔
        graph.held? place label = some (.value value) := by
    intro place label value
    rw [held?_extend live]
    by_cases here : place = id ∧ label = name
    · rcases here with ⟨rfl, rfl⟩
      cases link <;> simp [Link.property, absent]
    · rw [if_neg here]
  refine ⟨⟨fun there => ?_, fun first second => ?_, fun there moved => ?_,
    fun there holds => ?_⟩, scalar?_congr fun others label value => ?_⟩
  · rcases follows.1 there with old | ⟨_, rfl⟩
    · exact contains_extend.2 (Or.inr (tree.live old))
    · exact contains_extend.2 (Or.inl rfl)
  · rcases follows.1 first with old | ⟨rfl, rfl⟩
    · rcases follows.1 second with again | ⟨rfl, rfl⟩
      · exact tree.apart old again
      · exact absurd old unborn
    · rcases follows.1 second with again | ⟨rfl, _⟩
      · exact absurd again unborn
      · rfl
  · rcases follows.1 there with old | ⟨rfl, rfl⟩
    · exact tree.within old moved
    · exact ⟨path, member, begun, further⟩
  · rcases follows.1 there with old | ⟨rfl, rfl⟩
    · exact tree.scalars old (values.1 holds)
    · rw [held?_extend_nextId live] at holds
      cases holds
  · simp only [scalar?_concat_eq_some, values, follows]
    constructor
    · rintro ⟨place, old | ⟨_, rfl⟩, holds⟩
      · exact ⟨place, old, holds⟩
      · simp [held?] at holds
    · rintro ⟨place, old, holds⟩
      exact ⟨place, Or.inl old, holds⟩

/-- A value stored at the end of a path keeps the tree, and no other value changes. -/
theorem store (tree : graph.TreeAlong root paths) (reached : graph.follow root steps = some id)
    (free : graph.next? id leaf = none) (member : steps ++ [leaf] ∈ paths) (value : Value) :
    (graph.store id leaf (.value value)).TreeAlong root paths ∧
      ∀ path, (graph.store id leaf (.value value)).scalar? root path =
        if path = steps ++ [leaf] then some value else graph.scalar? root path := by
  have live := tree.live reached
  have follows := follow_congr (next?_store_value live free value) root
  refine ⟨⟨fun there => ?_, fun first second => ?_, fun there moved => ?_,
    fun {others place label found} there holds => ?_⟩, fun path => ?_⟩
  · rw [contains_store]
    exact tree.live (follows _ ▸ there)
  · exact tree.apart (follows _ ▸ first) (follows _ ▸ second)
  · exact tree.within (follows _ ▸ there) moved
  · rw [follows] at there
    rw [held?_store live] at holds
    split at holds
    · next here =>
      rw [here.1] at there
      rw [tree.apart there reached, here.2]
      exact member
    · exact tree.scalars there holds
  · by_cases here : path = steps ++ [leaf]
    · rw [if_pos here, here, scalar?_concat_eq_some]
      exact ⟨id, (follows _).trans reached, by rw [held?_store live, if_pos ⟨rfl, rfl⟩]⟩
    · rw [if_neg here]
      rcases List.eq_nil_or_concat path with rfl | ⟨others, label, rfl⟩
      · rfl
      · rw [List.concat_eq_append] at here ⊢
        rw [scalar?_concat, scalar?_concat, follows]
        cases there : graph.follow root others with
        | none => rfl
        | some place =>
            have elsewhere : ¬ (place = id ∧ label = leaf) := by
              rintro ⟨rfl, rfl⟩
              exact here (by rw [tree.apart there reached])
            simp [held?_store live, elsewhere]

/-- A forced walk along a path gets through, keeps the tree, and changes no value. -/
theorem walk (tree : graph.TreeAlong root paths) (antichain : IsAntichain (· <+: ·) paths)
    (links : List (String × Link)) (reached : graph.follow root steps = some id)
    (member : steps ++ links.map Prod.fst ++ [leaf] ∈ paths) :
    ∃ after last, graph.walk id true links = ⟨after, .ok last⟩ ∧ after.TreeAlong root paths ∧
      after.follow root (steps ++ links.map Prod.fst) = some last ∧
        ∀ path, after.scalar? root path = graph.scalar? root path := by
  induction links generalizing graph steps id with
  | nil => exact ⟨graph, id, rfl, tree, by simpa using reached, fun _ => rfl⟩
  | cons link links ih =>
      rcases link with ⟨name, link⟩
      have same : steps ++ ((name, link) :: links).map Prod.fst =
          steps ++ [name] ++ links.map Prod.fst := by simp
      rw [same] at member ⊢
      have begun : steps ++ [name] <+: steps ++ [name] ++ links.map Prod.fst ++ [leaf] :=
        ⟨links.map Prod.fst ++ [leaf], by simp⟩
      have further : steps ++ [name] ≠ steps ++ [name] ++ links.map Prod.fst ++ [leaf] := by simp
      rw [EntityGraph.walk]
      rcases tree.absent_or_next antichain member reached begun further with absent | ⟨next, leads⟩
      · rcases tree.extend reached absent member begun further link with ⟨grown, unchanged⟩
        have made : (graph.extend id name link).follow root (steps ++ [name]) =
            some graph.nextId := (tree.follow_extend reached absent link).2 (Or.inr ⟨rfl, rfl⟩)
        rcases ih grown made member with ⟨after, last, walked, treeAfter, there, kept⟩
        rw [ensure_of_vacant (tree.live reached) (Or.inl absent) checkWritable_forced]
        exact ⟨after, last, walked, treeAfter, there, fun path =>
          (kept path).trans (unchanged path)⟩
      · have onward : graph.follow root (steps ++ [name]) = some next := by
          rw [follow_concat, reached]
          exact leads
        rw [ensure_of_next? leads]
        exact ih tree onward member

/-- A forced write along a path gets through, keeps the tree, and changes the value of its own path
alone. -/
theorem write (tree : graph.TreeAlong root paths) (antichain : IsAntichain (· <+: ·) paths)
    {route : Route} (ends : route.ending = .ok leaf) (member : route.names ∈ paths)
    (value : Value) :
    ∃ after, route.write value true graph root = ⟨after, .ok ()⟩ ∧ after.TreeAlong root paths ∧
      ∀ path, after.scalar? root path =
        if path = route.names then some value else graph.scalar? root path := by
  rw [Route.names_of_ending ends] at member ⊢
  have start : graph.follow root [] = some root := rfl
  rcases tree.walk antichain route.steps start member with
    ⟨middle, last, walked, grown, there, unchanged⟩
  rw [List.nil_append] at there
  have free := grown.next?_eq_none antichain member there
  rcases grown.store there free member value with ⟨treeAfter, changed⟩
  refine ⟨middle.store last leaf (.value value), ?_, treeAfter, fun path => ?_⟩
  · rw [Route.write_eq_walk, walked, ends]
    exact setValue_forced (grown.live there) free value
  · rw [changed, unchanged]

variable {catalog : Catalog} {column : Column}

theorem readColumn_eq (tree : graph.TreeAlong root paths)
    (antichain : IsAntichain (· <+: ·) paths) (member : path ∈ paths)
    (full : catalog.FullPath column path) :
    graph.readColumn catalog root column = .ok (graph.scalar? root path) := by
  rcases route_of_fullPath graph full with ⟨leaf, ends, rfl⟩
  exact tree.read_eq antichain ends member

theorem writeColumn (tree : graph.TreeAlong root paths)
    (antichain : IsAntichain (· <+: ·) paths) (member : path ∈ paths)
    (full : catalog.FullPath column path) (value : Value) :
    ∃ after, graph.writeColumn catalog root column value true = ⟨after, .ok ()⟩ ∧
      after.TreeAlong root paths ∧
        ∀ other, after.scalar? root other =
          if other = path then some value else graph.scalar? root other := by
  rcases route_of_fullPath graph full with ⟨leaf, ends, rfl⟩
  exact tree.write antichain ends member value

end TreeAlong

end EntityGraph

end SqlMapper
