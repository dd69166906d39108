import SqlMapper.Proofs.Entities.Footprint

/-!
# What a failed population leaves behind

A population that fails midway is not undone. It stops at the first column that cannot be read from
the row or written to the entity, and what it made until then stays: the new row of the table, and
what the writes made for it. All of this hangs on the new row, by links that later writes never
redirect. Nothing that was in the graph before is touched, because the writes of a row reach new
entities only.
-/

namespace SqlMapper

namespace EntityGraph

variable {graph before after : EntityGraph} {root entity id last : EntityId} {made : Entity}
  {names path : List String} {value : Value} {error : Error}

theorem follow_of_links
    (kept : ∀ {id name next}, before.next? id name = some next → after.next? id name = some next)
    (reached : before.follow entity names = some last) :
    after.follow entity names = some last := by
  induction names generalizing entity with
  | nil => exact reached
  | cons name names ih =>
      rcases Option.bind_eq_some_iff.1 reached with ⟨next, leads, further⟩
      rw [follow, kept leads]
      exact ih further

/-- A write redirects no link. -/
theorem Footprint.next?_of_next? {outcome : Outcome Unit} {name : String}
    (footprint : Footprint before outcome entity path value)
    (leads : before.next? id name = some last) : outcome.graph.next? id name = some last := by
  rcases footprint.held id name with same | ⟨vacant, _⟩ | ⟨_, free, _⟩
  · rw [next?, same]
    exact leads
  · rw [vacant.next?_eq_none] at leads
    cases leads
  · rw [free] at leads
    cases leads

/-- The root is live and as it was made, but for its properties, and everything made since a graph
is live and reached from the root. -/
structure HangsOn (before : EntityGraph) (root : EntityId) (made : Entity) (after : EntityGraph) :
    Prop where
  keeps : ∃ now, after.get? root = some now ∧ made.Keeps now
  live : ∀ {id : EntityId}, MadeSince before after id → after.contains id = true
  reached : ∀ {id : EntityId}, MadeSince before after id →
    ∃ names, after.follow root names = some id

theorem hangsOn_create (graph : EntityGraph) (table : Option TableId) :
    HangsOn graph graph.nextId { table } (graph.create table).1 := by
  have only : ∀ {id}, MadeSince graph (graph.create table).1 id → id = graph.nextId := by
    rintro ⟨index⟩ ⟨lower, upper⟩
    rw [create, insert, List.length_append, List.length_singleton] at upper
    exact congrArg EntityId.mk (Nat.le_antisymm (Nat.le_of_lt_succ upper) lower)
  refine ⟨⟨_, by rw [create, get?_insert, if_pos rfl], .refl _⟩, fun new => ?_, fun new => ?_⟩
  · exact (contains_insert _).2 (Or.inl (only new))
  · exact ⟨[], congrArg some (only new).symm⟩

namespace HangsOn

/-- What a write along a path makes hangs on the root that the write starts from. -/
theorem footprint (hangs : HangsOn before root made graph) {outcome : Outcome Unit}
    (footprint : Footprint graph outcome root path value) :
    HangsOn before root made outcome.graph where
  keeps := by
    rcases hangs.keeps with ⟨found, live, kept⟩
    rcases footprint.keeps live with ⟨now, stillLive, keptNow⟩
    exact ⟨now, stillLive, kept.trans keptNow⟩
  live {id} new := by
    refine (footprint.live id).2 ?_
    rcases new.first_or_second graph with older | newer
    · exact Or.inl (hangs.live older)
    · exact Or.inr newer
  reached {id} new := by
    rcases new.first_or_second graph with older | newer
    · rcases hangs.reached older with ⟨names, reached⟩
      exact ⟨names, follow_of_links footprint.next?_of_next? reached⟩
    · rcases footprint.made id newer with ⟨passed, name, holder, _, reached, leads, _⟩
      refine ⟨passed ++ [name], ?_⟩
      rw [follow_append, reached, Option.bind_some, follow_singleton, leads]

theorem fill (hangs : HangsOn before root made graph) (catalog : Catalog) (row : Row)
    (columns : List Column) :
    HangsOn before root made (graph.fill catalog root row columns).graph := by
  induction columns generalizing graph with
  | nil => exact hangs
  | cons column rest ih =>
      rw [EntityGraph.fill]
      split
      · exact hangs
      · exact ih hangs
      · next value _ =>
        have written := hangs.footprint
          (footprint_write graph root (graph.route catalog column) value true)
        rw [writeColumn]
        generalize (graph.route catalog column).write value true graph root = outcome at written ⊢
        rcases outcome with ⟨after, _ | _⟩
        · exact written
        · exact ih written

end HangsOn

/-- The column stops a population of the entity: the row has no readable value for it, or the value
cannot be written. -/
inductive Stops (catalog : Catalog) (entity : EntityId) (row : Row) (column : Column)
    (graph : EntityGraph) (error : Error) : EntityGraph → Prop
  | unread (refused : populationValue row column = .error error) :
      Stops catalog entity row column graph error graph
  | unwritten {value : Value} {after : EntityGraph}
      (read : populationValue row column = .ok (some value))
      (refused : graph.writeColumn catalog entity column value true = ⟨after, .error error⟩) :
      Stops catalog entity row column graph error after

/-- A row that fails to fill an entity fills it with some columns and stops at the next. -/
theorem exists_stop {catalog : Catalog} {row : Row} {columns : List Column}
    (failed : graph.fill catalog entity row columns = ⟨after, .error error⟩) :
    ∃ done column rest filled, columns = done ++ column :: rest ∧
      graph.fill catalog entity row done = ⟨filled, .ok ()⟩ ∧
        Stops catalog entity row column filled error after := by
  induction columns generalizing graph with
  | nil => cases failed
  | cons column rest ih =>
      rw [fill] at failed
      split at failed
      · next refused =>
        cases failed
        exact ⟨[], column, rest, _, rfl, rfl, .unread refused⟩
      · next nothing =>
        rcases ih failed with ⟨done, stop, others, filled, rfl, partly, stops⟩
        refine ⟨column :: done, stop, others, filled, rfl, ?_, stops⟩
        rw [fill, nothing]
        exact partly
      · next value read =>
        rcases written : graph.writeColumn catalog entity column value true with ⟨middle, _ | _⟩
        · rw [written] at failed
          cases failed
          exact ⟨[], column, rest, graph, rfl, rfl, .unwritten read written⟩
        · rw [written] at failed
          rcases ih failed with ⟨done, stop, others, filled, rfl, partly, stops⟩
          refine ⟨column :: done, stop, others, filled, rfl, ?_, stops⟩
          rw [fill, read]
          simp only [written]
          exact partly

/-- A population that fails leaves every number that was taken as it was, live or removed. It leaves
the row that it made for the table, and everything else that it made is live and reached from that
row. It has filled the row with the columns before the first that cannot be read or written. -/
theorem populate_failed_leaves_new_row (graph : EntityGraph) (catalog : Catalog) (table : TableId)
    (described : Table) (row : Row) (error : Error) (entered : catalog.table table = .ok described)
    (failed : (graph.populate catalog table row).result = .error error) :
    (∀ id, id.index < graph.slots.length →
        (graph.populate catalog table row).graph.get? id = graph.get? id) ∧
      HangsOn graph graph.nextId { table := some table } (graph.populate catalog table row).graph ∧
      ∃ done column rest filled, described.columns = done ++ column :: rest ∧
        (graph.create (some table)).1.fill catalog graph.nextId row done = ⟨filled, .ok ()⟩ ∧
          Stops catalog graph.nextId row column filled error
            (graph.populate catalog table row).graph := by
  have created := hangsOn_create graph (some table)
  have hangs := created.fill catalog row described.columns
  rw [← graph_populate_of_table entered] at hangs
  have stopped : (graph.create (some table)).1.fill catalog graph.nextId row described.columns =
      ⟨(graph.populate catalog table row).graph, .error error⟩ := by
    rw [graph_populate_of_table entered]
    rw [populate, entered] at failed
    change (((graph.create (some table)).1.fill catalog graph.nextId row
      described.columns).andThen _).result = _ at failed
    generalize (graph.create (some table)).1.fill catalog graph.nextId row described.columns =
      outcome at failed ⊢
    rcases outcome with ⟨after, _ | _⟩
    · cases failed
      rfl
    · cases failed
  exact ⟨fun id taken => (separate_populate graph catalog table row).kept taken, hangs,
    exists_stop stopped⟩

/-- A column of the table of guests. -/
def guestColumn (name : String) (type : SqlType) (binding : Binding) : Column :=
  { table := "guest", name, type, binding := some binding }

/-- Guests with their city and their age. -/
def guests : Table :=
  { name := "guest"
    columns := [
      guestColumn "id" .integer (.property "id"),
      guestColumn "city" .text (.nested ⟨["address"], "city"⟩),
      guestColumn "age" .integer (.property "age")]
    primaryKey := some "id" }

/-- A guest whose age is no number. -/
def agelessRow : Row where
  set :=
    { rows :=
        { columns := [.named "id", .named "city", .named "age"]
          rows := [[.integer 7, .text "Oslo", .text "old"]]
          length_row := by decide }
      mode := .wildcard }
  index := 0
  values := [.integer 7, .text "Oslo", .text "old"]
  isRow := rfl

/-- A guest, and one who has left. -/
def guestBook : EntityGraph :=
  ⟨[some { table := some ⟨0⟩, properties := [("id", .value (.integer 1))] }, none]⟩

theorem populate_failed_guestBook :
    (Catalog.mk [guests]).table ⟨0⟩ = .ok guests ∧
      (guestBook.populate ⟨[guests]⟩ ⟨0⟩ agelessRow).result =
        .error (.conversion (.invalidInteger "old" .invalidDigit)) ∧
      (guestBook.populate ⟨[guests]⟩ ⟨0⟩ agelessRow).graph.get? ⟨0⟩ = guestBook.get? ⟨0⟩ ∧
      (guestBook.populate ⟨[guests]⟩ ⟨0⟩ agelessRow).graph.get? ⟨1⟩ = none ∧
      (∃ now, (guestBook.populate ⟨[guests]⟩ ⟨0⟩ agelessRow).graph.get? ⟨2⟩ = some now ∧
        now.table = some ⟨0⟩ ∧ now.parent = none) ∧
      (∃ names, (guestBook.populate ⟨[guests]⟩ ⟨0⟩ agelessRow).graph.follow ⟨2⟩ names =
        some ⟨3⟩) ∧
      ∃ done column rest filled, guests.columns = done ++ column :: rest ∧
        (guestBook.create (some ⟨0⟩)).1.fill ⟨[guests]⟩ ⟨2⟩ agelessRow done = ⟨filled, .ok ()⟩ ∧
          Stops ⟨[guests]⟩ ⟨2⟩ agelessRow column filled
            (.conversion (.invalidInteger "old" .invalidDigit))
            (guestBook.populate ⟨[guests]⟩ ⟨0⟩ agelessRow).graph := by
  have failed : (guestBook.populate ⟨[guests]⟩ ⟨0⟩ agelessRow).result =
      .error (.conversion (.invalidInteger "old" .invalidDigit)) := by
    decide +kernel
  rcases populate_failed_leaves_new_row guestBook ⟨[guests]⟩ ⟨0⟩ guests agelessRow _ rfl failed with
    ⟨kept, hangs, stopped⟩
  rcases hangs.keeps with ⟨now, live, same⟩
  have address : MadeSince guestBook (guestBook.populate ⟨[guests]⟩ ⟨0⟩ agelessRow).graph ⟨3⟩ :=
    ⟨by decide, by decide +kernel⟩
  exact ⟨rfl, failed, kept ⟨0⟩ (by decide), kept ⟨1⟩ (by decide),
    ⟨now, live, same.table, same.parent⟩, hangs.reached address, stopped⟩

/-- The row does not fit, and the guest that was made for it stays with the number and the city. -/
theorem populate_failed_leaves_guest :
    (empty.populate ⟨[guests]⟩ ⟨0⟩ agelessRow).result =
        .error (.conversion (.invalidInteger "old" .invalidDigit)) ∧
      empty.liveEntities = [] ∧
      (empty.populate ⟨[guests]⟩ ⟨0⟩ agelessRow).graph.liveEntities = [
        (⟨0⟩, { table := some ⟨0⟩
                properties := [("id", .value (.integer 7)), ("address", .nested ⟨1⟩)] }),
        (⟨1⟩, { parent := some ⟨0⟩, properties := [("city", .value (.text "Oslo"))] })] := by
  decide +kernel

end EntityGraph

end SqlMapper
