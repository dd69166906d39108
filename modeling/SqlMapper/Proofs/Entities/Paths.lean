import Mathlib.Data.Finset.Card
import SqlMapper.Proofs.Entities.Growth

/-!
# Full paths of columns

The whole route of a column goes from binding to binding through the primary keys of the tables, as
far as these lead. A column with a whole route has a finite chain of references. The full path of a
bound column is its nested path, or, for a reference, the property followed by the full path of the
primary key that it refers to.

Graphs follow routes over a bounded number of references. The bound never cuts off a whole route: a
chain that comes back to a table would come back to its key with a shorter route, and a column has
only one. So a column that was written once is read along the same route when the graph has grown.
-/

namespace SqlMapper

namespace Catalog

variable {catalog : Catalog} {column key : Column} {table : TableId} {path other : List String}
  {route : Route}

/-- The route of a column over as many references as it takes. -/
inductive WholeRoute (catalog : Catalog) : Column → Route → Prop
  | unbound {column : Column} (free : column.binding = none) :
      WholeRoute catalog column (.blocked (.configuration (.unbound column.table column.name)))
  | nested {column : Column} {path : PropertyPath} (bound : column.binding = some (.nested path)) :
      WholeRoute catalog column (.nested path)
  | unkeyed {column : Column} {property : String} {table : TableId} {cause : Error}
      (bound : column.binding = some (.reference property table))
      (keyless : catalog.boundKey table = .error cause) : WholeRoute catalog column (.blocked cause)
  | reference {column key : Column} {property : String} {table : TableId} {rest : Route}
      (bound : column.binding = some (.reference property table))
      (keyed : catalog.boundKey table = .ok key) (tail : WholeRoute catalog key rest) :
      WholeRoute catalog column (.through property table rest)

/-- The property names from an entity to the scalar that a column is bound to. -/
inductive FullPath (catalog : Catalog) : Column → List String → Prop
  | nested {column : Column} {path : PropertyPath} (bound : column.binding = some (.nested path)) :
      FullPath catalog column path.names
  | reference {column key : Column} {property : String} {table : TableId} {rest : List String}
      (bound : column.binding = some (.reference property table))
      (keyed : catalog.boundKey table = .ok key) (tail : FullPath catalog key rest) :
      FullPath catalog column (property :: rest)

theorem WholeRoute.unique {again : Route} (first : catalog.WholeRoute column route)
    (second : catalog.WholeRoute column again) : route = again := by
  induction first generalizing again with
  | unbound free =>
      cases second with
      | unbound => rfl
      | nested bound | unkeyed bound | reference bound => simp [free] at bound
  | nested bound =>
      cases second with
      | unbound free => simp [bound] at free
      | nested again =>
          rw [bound] at again
          cases again
          rfl
      | unkeyed again | reference again => simp [bound] at again
  | unkeyed bound keyless =>
      cases second with
      | unbound free => simp [bound] at free
      | nested again => simp [bound] at again
      | unkeyed again keylessAgain =>
          rw [bound] at again
          cases again
          rw [keyless] at keylessAgain
          cases keylessAgain
          rfl
      | reference again keyed _ =>
          rw [bound] at again
          cases again
          rw [keyless] at keyed
          cases keyed
  | reference bound keyed _ ih =>
      cases second with
      | unbound free => simp [bound] at free
      | nested again => simp [bound] at again
      | unkeyed again keyless =>
          rw [bound] at again
          cases again
          rw [keyed] at keyless
          cases keyless
      | reference again keyedAgain tail =>
          rw [bound] at again
          cases again
          rw [keyed] at keyedAgain
          cases keyedAgain
          rw [ih tail]

theorem routeWithin_nested {path : PropertyPath} (bound : column.binding = some (.nested path))
    (references : Nat) : catalog.routeWithin column references = .nested path := by
  unfold routeWithin
  rw [bound]

theorem routeWithin_reference {property : String}
    (bound : column.binding = some (.reference property table))
    (keyed : catalog.boundKey table = .ok key) (references : Nat) :
    catalog.routeWithin column (references + 1) =
      .through property table (catalog.routeWithin key references) := by
  rw [routeWithin]
  simp only [bound, keyed]

/-- A route that ends at a scalar is whole, whatever the bound. -/
theorem wholeRoute_of_ending {references : Nat} {leaf : String}
    (ends : (catalog.routeWithin column references).ending = .ok leaf) :
    catalog.WholeRoute column (catalog.routeWithin column references) := by
  induction references generalizing column with
  | zero =>
      unfold routeWithin at ends ⊢
      rcases bound : column.binding with _ | path | ⟨property, table⟩
      · simp [bound, Route.ending] at ends
      · exact .nested bound
      · rcases keyed : catalog.boundKey table with cause | key <;>
          simp [bound, keyed, Route.ending] at ends
  | succ references ih =>
      rcases bound : column.binding with _ | path | ⟨property, table⟩
      · simp [routeWithin, bound, Route.ending] at ends
      · rw [routeWithin_nested bound]
        exact .nested bound
      · rcases keyed : catalog.boundKey table with cause | key
        · simp [routeWithin, bound, keyed, Route.ending] at ends
        · rw [routeWithin_reference bound keyed] at ends ⊢
          exact .reference bound keyed (ih ends)

theorem index_lt_of_boundKey (keyed : catalog.boundKey table = .ok key) :
    table.index < catalog.tables.length := by
  refine Nat.lt_of_not_le fun beyond => ?_
  rw [boundKey, Catalog.table, table?, List.getElem?_eq_none beyond] at keyed
  cases keyed

open Classical in
/-- The numbers of the tables whose primary keys have whole routes of fewer steps. -/
noncomputable def nearerKeys (catalog : Catalog) (steps : Nat) : Finset Nat :=
  (Finset.range catalog.tables.length).filter fun index =>
    ∃ key route, catalog.boundKey ⟨index⟩ = .ok key ∧ catalog.WholeRoute key route ∧
      route.steps.length < steps

theorem mem_nearerKeys {steps index : Nat} :
    index ∈ catalog.nearerKeys steps ↔
      index < catalog.tables.length ∧
        ∃ key route, catalog.boundKey ⟨index⟩ = .ok key ∧ catalog.WholeRoute key route ∧
          route.steps.length < steps := by
  simp [nearerKeys]

theorem card_nearerKeys_le (steps : Nat) :
    (catalog.nearerKeys steps).card ≤ catalog.tables.length := by
  have subset : catalog.nearerKeys steps ⊆ Finset.range catalog.tables.length := by
    intro index member
    exact Finset.mem_range.2 (mem_nearerKeys.1 member).1
  simpa using Finset.card_le_card subset

/-- The table of a reference is not among those with nearer keys, but among the next ones. -/
theorem card_nearerKeys_lt (keyed : catalog.boundKey table = .ok key)
    (whole : catalog.WholeRoute key route) :
    (catalog.nearerKeys route.steps.length).card <
      (catalog.nearerKeys (route.steps.length + 1)).card := by
  refine Finset.card_lt_card ⟨fun index member => ?_, fun subset => ?_⟩
  · rcases mem_nearerKeys.1 member with ⟨inside, otherKey, nearer, otherKeyed, otherWhole, fewer⟩
    exact mem_nearerKeys.2
      ⟨inside, otherKey, nearer, otherKeyed, otherWhole, Nat.lt_succ_of_lt fewer⟩
  · have member : table.index ∈ catalog.nearerKeys (route.steps.length + 1) :=
      mem_nearerKeys.2 ⟨index_lt_of_boundKey keyed, key, route, keyed, whole, Nat.lt_succ_self _⟩
    rcases mem_nearerKeys.1 (subset member) with ⟨_, again, nearer, keyedAgain, wholeAgain, lt⟩
    rw [keyed] at keyedAgain
    cases keyedAgain
    rw [whole.unique wholeAgain] at lt
    exact Nat.lt_irrefl _ lt

theorem WholeRoute.routeWithin_eq {references : Nat} (whole : catalog.WholeRoute column route)
    (enough : (catalog.nearerKeys route.steps.length).card ≤ references) :
    catalog.routeWithin column references = route := by
  induction whole generalizing references with
  | unbound free =>
      unfold routeWithin
      rw [free]
  | nested bound => exact routeWithin_nested bound references
  | unkeyed bound keyless =>
      unfold routeWithin
      simp only [bound, keyless]
  | reference bound keyed tail ih =>
      rw [Route.steps, List.length_cons] at enough
      have fewer := Nat.lt_of_lt_of_le (card_nearerKeys_lt keyed tail) enough
      cases references with
      | zero => exact absurd fewer (Nat.not_lt_zero _)
      | succ references =>
          rw [routeWithin_reference bound keyed, ih (Nat.le_of_lt_succ fewer)]

namespace FullPath

theorem names_nested (path : PropertyPath) : (Route.nested path).names = path.names := by
  simp [Route.names, Route.steps, Route.ending, PropertyPath.names, Function.comp_def]

/-- A full path has the names of a whole route that ends. -/
theorem exists_wholeRoute (full : catalog.FullPath column path) :
    ∃ route leaf, catalog.WholeRoute column route ∧ route.ending = .ok leaf ∧
      route.names = path := by
  induction full with
  | @nested column path bound =>
      exact ⟨.nested path, path.leaf, .nested bound, rfl, names_nested path⟩
  | @reference column key property table rest bound keyed tail ih =>
      rcases ih with ⟨route, leaf, whole, ends, same⟩
      refine ⟨.through property table route, leaf, .reference bound keyed whole, ends, ?_⟩
      rw [← same]
      rfl

theorem of_wholeRoute {leaf : String} (whole : catalog.WholeRoute column route)
    (ends : route.ending = .ok leaf) : catalog.FullPath column route.names := by
  induction whole with
  | unbound | unkeyed => cases ends
  | nested bound => exact names_nested _ ▸ .nested bound
  | reference bound keyed tail ih => exact .reference bound keyed (ih ends)

theorem unique (first : catalog.FullPath column path) (second : catalog.FullPath column other) :
    path = other := by
  rcases first.exists_wholeRoute with ⟨route, _, whole, _, rfl⟩
  rcases second.exists_wholeRoute with ⟨again, _, wholeAgain, _, rfl⟩
  rw [whole.unique wholeAgain]

end FullPath

/-- The full path of a column, computed from its route. -/
def fullPath? (catalog : Catalog) (column : Column) : Option (List String) :=
  match (catalog.routeWithin column catalog.tables.length).ending with
  | .ok _ => some (catalog.routeWithin column catalog.tables.length).names
  | .error _ => none

theorem fullPath_iff : catalog.FullPath column path ↔ catalog.fullPath? column = some path := by
  constructor
  · intro full
    rcases full.exists_wholeRoute with ⟨route, leaf, whole, ends, same⟩
    rw [fullPath?, whole.routeWithin_eq (card_nearerKeys_le _), ends, same]
  · intro computed
    rw [fullPath?] at computed
    split at computed
    · next ends =>
      cases computed
      exact .of_wholeRoute (wholeRoute_of_ending ends) ends
    · cases computed

end Catalog

namespace EntityGraph

variable {catalog : Catalog} {column : Column}

/-- In every graph the route of a column is its whole route, if it has one. -/
theorem route_eq {route : Route} (graph : EntityGraph) (whole : catalog.WholeRoute column route) :
    graph.route catalog column = route := by
  refine whole.routeWithin_eq ?_
  have le : catalog.tables.length ≤ graph.referenceBound catalog :=
    Nat.le_trans (Nat.le_succ _) (Nat.le_mul_of_pos_left _ (Nat.succ_pos _))
  exact Nat.le_trans (Catalog.card_nearerKeys_le _) le

/-- The route of a column with a full path goes along it, in every graph. -/
theorem route_of_fullPath {path : List String} (graph : EntityGraph)
    (full : catalog.FullPath column path) :
    ∃ leaf, (graph.route catalog column).ending = .ok leaf ∧
      (graph.route catalog column).names = path := by
  rcases full.exists_wholeRoute with ⟨route, leaf, whole, ends, same⟩
  rw [route_eq graph whole]
  exact ⟨leaf, ends, same⟩

/-- A route that ends is the same in every graph. -/
theorem route_of_ending {before : EntityGraph} {leaf : String}
    (ends : (before.route catalog column).ending = .ok leaf) (after : EntityGraph) :
    after.route catalog column = before.route catalog column :=
  route_eq after (Catalog.wholeRoute_of_ending ends)

/-- Routes to a scalar along the same names are read alike, whichever of their links are nested and
which refer. -/
theorem read_congr {first second : Route} {leaf other : String} (ends : first.ending = .ok leaf)
    (endsToo : second.ending = .ok other) (same : first.names = second.names)
    (graph : EntityGraph) (entity : EntityId) :
    first.read graph entity = second.read graph entity := by
  rw [Route.names_of_ending ends, Route.names_of_ending endsToo] at same
  rcases List.append_inj' same rfl with ⟨steps, leaves⟩
  cases leaves
  simp only [Route.read_eq_descend, steps, ends, endsToo]

/-- A column with a full path is read as one that is bound to the path itself: on any graph, from
any entity, whether a value is found, none, or a fault. -/
theorem readColumn_eq_of_fullPath {column flat : Column} {path : PropertyPath}
    (full : catalog.FullPath column path.names) (flattened : flat.binding = some (.nested path))
    (graph : EntityGraph) (entity : EntityId) :
    graph.readColumn catalog entity column = graph.readColumn catalog entity flat := by
  rcases route_of_fullPath graph full with ⟨leaf, ends, names⟩
  rcases route_of_fullPath graph (.nested flattened) with ⟨other, endsToo, namesToo⟩
  exact read_congr ends endsToo (names.trans namesToo.symm) graph entity

/-- A customer is known by an account, and an account by the number of its holder. -/
def accountsOfCustomers : Catalog :=
  ⟨[{ name := "customer"
      columns := [
        { table := "customer", name := "account", type := .integer
          binding := some (.reference "account" ⟨1⟩) }]
      primaryKey := some "account" },
    { name := "account"
      columns := [
        { table := "account", name := "number", type := .integer
          binding := some (.nested ⟨["holder"], "number"⟩) }]
      primaryKey := some "number" }]⟩

/-- The column by which an order refers to a customer. -/
def customerOfOrder : Column :=
  { table := "order", name := "customer", type := .integer
    binding := some (.reference "customer" ⟨0⟩) }

/-- The column with the references flattened. -/
def holderOfOrder : Column :=
  { customerOfOrder with
    binding := some (.nested ⟨["customer", "account", "holder"], "number"⟩) }

/-- An order of a customer whose account is gone. -/
def orderWithoutAccount : EntityGraph :=
  ⟨[some { properties := [("customer", .reference ⟨1⟩)] },
    some { table := some ⟨0⟩, properties := [("account", .reference ⟨2⟩)] }, none]⟩

theorem readColumn_orderWithoutAccount :
    accountsOfCustomers.FullPath customerOfOrder ["customer", "account", "holder", "number"] ∧
      orderWithoutAccount.readColumn accountsOfCustomers ⟨0⟩ customerOfOrder =
        orderWithoutAccount.readColumn accountsOfCustomers ⟨0⟩ holderOfOrder ∧
      orderWithoutAccount.readColumn accountsOfCustomers ⟨0⟩ customerOfOrder =
        .error (.configuration (.unknownEntity ⟨2⟩)) := by
  have full : accountsOfCustomers.FullPath customerOfOrder
      ["customer", "account", "holder", "number"] :=
    Catalog.fullPath_iff.2 rfl
  have alike : orderWithoutAccount.readColumn accountsOfCustomers ⟨0⟩ customerOfOrder =
      orderWithoutAccount.readColumn accountsOfCustomers ⟨0⟩ holderOfOrder :=
    readColumn_eq_of_fullPath full rfl orderWithoutAccount ⟨0⟩
  refine ⟨full, alike, ?_⟩
  rw [alike]
  rfl

end EntityGraph

end SqlMapper
