import Mathlib.Data.List.Pairwise
import SqlMapper.Graph.Population
import SqlMapper.Proofs.Entities.Contents
import SqlMapper.Proofs.Rendering.Insertions
import SqlMapper.Proofs.Rows.Reading
import SqlMapper.Proofs.Steps

/-!
# From a row to an entity and back

A row that fills a new entity is found again in the entity: the columns of the table have the values
that the row had for them, and the `INSERT` made of the entity binds these values. What is lost is
only what stands for nothing, NULL in a column that refers to another entity.

The columns are written one after the other into one graph. The invariant of that loop is that the
new entity is a tree along the full paths of the columns; each write changes the value of its own
column alone.
-/

namespace SqlMapper

open EntityGraph

variable {catalog : Catalog} {row : Row} {column : Column} {columns : List Column}
  {path : List String} {value : Value} {value? : Option Value}

namespace Row

/-- The row's value for a bound column, decoded. NULL refers to no entity. -/
def given? (row : Row) (column : Column) : Option Value :=
  match column.binding, row.get column with
  | some (.nested _), .ok value? => value?
  | some (.reference ..), .ok (some value) => if value.isNull then none else some value
  | _, _ => none

/-- The bound columns among the given ones for which the row has a value, with their values. -/
def entries (row : Row) (columns : List Column) : List (Column × Value) :=
  columns.filterMap fun column => (row.given? column).map (column, ·)

theorem given?_of_unbound (unbound : column.binding = none) : row.given? column = none := by
  simp [given?, unbound]

/-- A row has a column exactly if reading the column finds a value. -/
theorem hasColumn_of_get (reads : row.get column = .ok value?) :
    row.hasColumn column = value?.isSome := by
  cases row.reading column with
  | absent lacks _ unread =>
      rw [unread] at reads
      cases reads
      exact lacks
  | single index _ has _ decodes =>
      rw [decodes, map_eq_ok] at reads
      rcases reads with ⟨decoded, _, rfl⟩
      exact has
  | several _ _ _ _ fails =>
      rw [fails] at reads
      cases reads

theorem decode_of_given? (given : row.given? column = some value) :
    ∃ raw, column.type.decode raw = .ok value := by
  have reads : row.get column = .ok (some value) := by
    rw [given?] at given
    split at given
    · next reads => rw [reads, given]
    · next found reads =>
      split at given
      · cases given
      · rw [reads, given]
    · cases given
  cases row.reading column with
  | absent _ _ unread =>
      rw [unread] at reads
      cases reads
  | single index inside _ _ decodes =>
      rw [decodes, map_eq_ok] at reads
      rcases reads with ⟨decoded, read, same⟩
      cases same
      exact ⟨row.values[index], read⟩
  | several _ _ _ _ fails =>
      rw [fails] at reads
      cases reads

theorem isSome_binding_of_given? (given : row.given? column = some value) :
    column.binding.isSome = true := by
  cases unbound : column.binding with
  | none =>
      rw [given?_of_unbound unbound] at given
      cases given
  | some binding => rfl

/-- Filling an entity takes from the row what the row has for the column. -/
theorem populationValue_eq
    (readable : column.binding.isSome = true → ∃ value?, row.get column = .ok value?) :
    populationValue row column = .ok (row.given? column) := by
  rw [populationValue]
  cases bound : column.binding with
  | none => rw [given?_of_unbound bound]
  | some binding =>
      rcases readable (by rw [bound]; rfl) with ⟨value?, reads⟩
      have present := hasColumn_of_get reads
      rw [given?, reads, bound]
      cases value? with
      | none => cases binding <;> simp [present]
      | some value =>
          cases binding <;> cases value <;>
            simp [present, bind, Except.bind, pure, Except.pure, Value.isNull]

end Row

namespace SqlType

variable {type : SqlType} {raw : Value}

/-- A value in the canonical kind of a type stays as it is. -/
theorem convert_convert (converted : type.convert raw = .ok value) :
    type.convert value = .ok value := by
  cases type with
  | any => rfl
  | _ =>
      rcases map_eq_ok.1 converted with ⟨content, _, rfl⟩
      rfl

/-- What was decoded encodes as itself. -/
theorem coerce_coerce (coerced : type.coerce raw = .ok value) : type.coerce value = .ok value := by
  by_cases null : value = .null
  · rw [null, coerce_null]
  · have present : ¬ value.isNull = true := by
      cases value <;> simp [Value.isNull] at null ⊢
    rw [coerce] at coerced
    split at coerced
    · cases coerced
      exact absurd rfl null
    · rw [coerce, if_neg present, convert_convert (mapError_eq_ok.1 coerced)]
      rfl

end SqlType

/-- Neither of the columns has a full path that the other's starts with. -/
def Catalog.Apart (catalog : Catalog) (first second : Column) : Prop :=
  ∀ path other, catalog.FullPath first path → catalog.FullPath second other →
    ¬ path <+: other ∧ ¬ other <+: path

instance : Std.Symm catalog.Apart :=
  ⟨fun _ _ apart path other full otherFull => (apart other path otherFull full).symm⟩

/-- The bound columns have full paths, and none of these is the start of another. -/
structure Catalog.BindsApart (catalog : Catalog) (columns : List Column) : Prop where
  full : ∀ column ∈ columns, column.binding.isSome = true → ∃ path, catalog.FullPath column path
  apart : columns.Pairwise catalog.Apart

theorem Catalog.apart_iff {first second : Column} :
    catalog.Apart first second ↔ ∀ path ∈ catalog.fullPath? first,
      ∀ other ∈ catalog.fullPath? second, ¬ path <+: other ∧ ¬ other <+: path := by
  simp only [Apart, fullPath_iff, Option.mem_def]
  exact ⟨fun apart path full other => apart path other full,
    fun apart path other full => apart path full other⟩

theorem Catalog.bindsApart_iff :
    catalog.BindsApart columns ↔
      (∀ column ∈ columns, column.binding.isSome = true →
        (catalog.fullPath? column).isSome = true) ∧
      columns.Pairwise fun first second => ∀ path ∈ catalog.fullPath? first,
        ∀ other ∈ catalog.fullPath? second, ¬ path <+: other ∧ ¬ other <+: path := by
  have full : ∀ column, (∃ path, catalog.FullPath column path) ↔
      (catalog.fullPath? column).isSome = true := fun column => by
    simp only [fullPath_iff, Option.isSome_iff_exists]
  simp only [← apart_iff, ← full]
  exact ⟨fun bindsApart => ⟨bindsApart.full, bindsApart.apart⟩, fun ⟨full, apart⟩ => ⟨full, apart⟩⟩

instance : Decidable (catalog.BindsApart columns) :=
  decidable_of_iff _ Catalog.bindsApart_iff.symm

/-- The full paths of columns. -/
def Catalog.fullPaths (catalog : Catalog) (columns : List Column) : Set (List String) :=
  { path | ∃ column ∈ columns, catalog.FullPath column path }

theorem Catalog.BindsApart.antichain (bindsApart : catalog.BindsApart columns) :
    IsAntichain (· <+: ·) (catalog.fullPaths columns) := by
  rintro path ⟨first, firstMember, full⟩ other ⟨second, secondMember, otherFull⟩ different begun
  by_cases same : first = second
  · subst second
    exact different (full.unique otherFull)
  · have apart := bindsApart.apart.forall firstMember secondMember same
    exact (apart path other full otherFull).1 begun

namespace EntityGraph

variable {graph : EntityGraph} {root : EntityId} {paths : Set (List String)}

/-- Filling an entity along paths that are apart gets through. Each column has the value that the
row has for it, or the one from before if the row has none. -/
theorem TreeAlong.fill (tree : graph.TreeAlong root paths) (antichain : IsAntichain (· <+: ·) paths)
    (full : ∀ column ∈ columns, column.binding.isSome = true →
      ∃ path ∈ paths, catalog.FullPath column path)
    (apart : columns.Pairwise catalog.Apart)
    (readable : ∀ column ∈ columns, column.binding.isSome = true →
      ∃ value?, row.get column = .ok value?) :
    ∃ after, graph.fill catalog root row columns = ⟨after, .ok ()⟩ ∧ after.TreeAlong root paths ∧
      (∀ column ∈ columns, ∀ path, catalog.FullPath column path →
        after.scalar? root path = (row.given? column).or (graph.scalar? root path)) ∧
      ∀ path, (∀ column ∈ columns, ¬ catalog.FullPath column path) →
        after.scalar? root path = graph.scalar? root path := by
  induction columns generalizing graph with
  | nil => exact ⟨graph, rfl, tree, by simp, fun _ _ => rfl⟩
  | cons column rest ih =>
      rcases List.forall_mem_cons.1 full with ⟨columnFull, restFull⟩
      rcases List.forall_mem_cons.1 readable with ⟨columnReadable, restReadable⟩
      rcases List.pairwise_cons.1 apart with ⟨columnApart, restApart⟩
      -- The other columns end elsewhere, so they leave the value of this one alone.
      have elsewhere : ∀ path, catalog.FullPath column path →
          ∀ other ∈ rest, ¬ catalog.FullPath other path := fun path here other member there =>
        (columnApart other member path path here there).1 (List.prefix_refl path)
      rw [EntityGraph.fill, Row.populationValue_eq columnReadable]
      cases given : row.given? column with
      | none =>
          rcases ih tree restFull restApart restReadable with
            ⟨after, filled, treeAfter, changed, unchanged⟩
          refine ⟨after, filled, treeAfter, List.forall_mem_cons.2 ⟨fun path here => ?_, changed⟩,
            fun path free => unchanged path (List.forall_mem_cons.1 free).2⟩
          rw [unchanged path (elsewhere path here), given, Option.none_or]
      | some value =>
          rcases columnFull (Row.isSome_binding_of_given? given) with ⟨path, member, here⟩
          rcases tree.writeColumn antichain member here value with
            ⟨middle, written, treeMiddle, stored⟩
          rcases ih treeMiddle restFull restApart restReadable with
            ⟨after, filled, treeAfter, changed, unchanged⟩
          refine ⟨after, ?_, treeAfter, List.forall_mem_cons.2 ⟨fun other there => ?_,
            fun other otherMember otherPath there => ?_⟩, fun other free => ?_⟩
          · simp only [written, Outcome.andThen]
            exact filled
          · rw [unchanged other (elsewhere other there), given, stored,
              if_pos (there.unique here), Option.some_or]
          · have different : otherPath ≠ path := by
              rintro rfl
              exact elsewhere otherPath here other otherMember there
            rw [changed other otherMember otherPath there, stored, if_neg different]
          · rcases List.forall_mem_cons.1 free with ⟨notColumn, notRest⟩
            have different : other ≠ path := by
              rintro rfl
              exact notColumn here
            rw [unchanged other notRest, stored, if_neg different]

/-- The columns of an entity are read one by one. -/
theorem TreeAlong.readColumns_eq (tree : graph.TreeAlong root paths)
    (antichain : IsAntichain (· <+: ·) paths)
    (holds : ∀ column ∈ columns, column.binding.isSome = true →
      ∃ path ∈ paths, catalog.FullPath column path ∧
        graph.scalar? root path = row.given? column) :
    graph.readColumns catalog root columns = .ok (row.entries columns) := by
  induction columns with
  | nil => rfl
  | cons column rest ih =>
      rcases List.forall_mem_cons.1 holds with ⟨columnHolds, restHolds⟩
      have entries : row.entries (column :: rest) =
          ((row.given? column).map (column, ·)).toList ++ row.entries rest := by
        rw [Row.entries, List.filterMap_cons]
        cases row.given? column <;> rfl
      rw [readColumns, ih restHolds, entries]
      cases bound : column.binding with
      | none => simp [Row.given?_of_unbound bound]
      | some binding =>
          rcases columnHolds (by rw [bound]; rfl) with ⟨path, member, here, found⟩
          rw [tree.readColumn_eq antichain member here, found]
          cases row.given? column <;> rfl

end EntityGraph

theorem Insert.ofEntity_eq (graph : EntityGraph) (catalog : Catalog) (entity : EntityId)
    (table : Table) :
    Insert.ofEntity graph catalog entity table =
      (graph.columnValues catalog entity table).map (Insert.ofEntries table) := by
  rw [Insert.ofEntity]
  cases graph.columnValues catalog entity table <;> rfl

theorem Row.encode_of_mem_entries {entry : Column × Value} (member : entry ∈ row.entries columns) :
    entry.1.type.encode entry.2 = .ok entry.2 := by
  rcases List.mem_filterMap.1 member with ⟨column, _, given⟩
  rcases Option.map_eq_some_iff.1 given with ⟨value, found, rfl⟩
  rcases Row.decode_of_given? found with ⟨raw, decoded⟩
  exact SqlType.coerce_coerce decoded

namespace EntityGraph

/-- A row whose columns can be read fills a new entity, from which the columns read what the row has
for them; and the insertion made of the entity names these columns and binds these values. -/
theorem columnValues_populate (graph : EntityGraph) (catalog : Catalog) (table : TableId)
    (described : Table) (row : Row) (known : catalog.table table = .ok described)
    (bindsApart : catalog.BindsApart described.columns)
    (readable : ∀ column ∈ described.columns, column.binding.isSome = true →
      ∃ value?, row.get column = .ok value?) :
    ∃ after, graph.populate catalog table row = ⟨after, .ok graph.nextId⟩ ∧
      after.columnValues catalog graph.nextId described = .ok (row.entries described.columns) ∧
      (row.entries described.columns ≠ [] → ∀ dialect layout, ∃ insertion compiled,
        Insert.ofEntity after catalog graph.nextId described = .ok insertion ∧
          (Formatter.mk dialect.rules layout).format (.insert insertion) = .ok compiled ∧
          compiled.arguments =
            (row.entries described.columns).map (fun (column, value) => ⟨value, column.type⟩) ∧
          Lexeme.tokenize dialect.quotes compiled.sql.toList =
            some (Lexeme.insertion dialect described.name
              ((row.entries described.columns).map (·.1.name)))) := by
  have antichain := bindsApart.antichain
  have full : ∀ column ∈ described.columns, column.binding.isSome = true →
      ∃ path ∈ catalog.fullPaths described.columns, catalog.FullPath column path := by
    intro column member bound
    rcases bindsApart.full column member bound with ⟨path, here⟩
    exact ⟨path, ⟨column, member, here⟩, here⟩
  rcases treeAlong_create graph (some table) (catalog.fullPaths described.columns) with
    ⟨created, bare⟩
  rcases created.fill antichain full bindsApart.apart readable with
    ⟨after, filled, tree, changed, _⟩
  have read : after.columnValues catalog graph.nextId described =
      .ok (row.entries described.columns) := by
    refine tree.readColumns_eq antichain fun column member bound => ?_
    rcases full column member bound with ⟨path, there, here⟩
    refine ⟨path, there, here, ?_⟩
    rw [changed column member path here, bare, Option.or_none]
  refine ⟨after, ?_, read, fun some dialect layout => ?_⟩
  · rw [populate, known]
    change ((graph.create (Option.some table)).1.fill catalog graph.nextId row
      described.columns).andThen _ = _
    rw [filled]
    rfl
  · rcases Insert.exists_format_ofEntries described some
      (fun entry member => Row.encode_of_mem_entries member) dialect layout with
      ⟨compiled, formatted, bound, written⟩
    exact ⟨_, compiled, by rw [Insert.ofEntity_eq, read]; rfl, formatted, bound, written⟩

/-- A column of the table of employees. -/
def employeeColumn (name : String) (type : SqlType) (binding : Option Binding) : Column :=
  { table := "employee", name, type, binding }

/-- Employees name their department twice: it is referred to by its code, and its title is a
property nested in it. -/
def employees : Table :=
  { name := "employee"
    columns := [
      employeeColumn "id" .integer (some (.property "id")),
      employeeColumn "title" .text (some (.nested ⟨["department"], "title"⟩)),
      employeeColumn "note" .text none,
      employeeColumn "department" .text (some (.reference "department" ⟨0⟩)),
      employeeColumn "head" .integer (some (.reference "head" ⟨1⟩)),
      employeeColumn "city" .text (some (.nested ⟨["address"], "city"⟩)),
      employeeColumn "since" .date (some (.property "since"))]
    primaryKey := some "id" }

/-- Departments, whose key is their code, and employees. -/
def offices : Catalog :=
  ⟨[{ name := "department"
      columns := [
        { table := "department", name := "code", type := .text
          binding := some (.property "code") }]
      primaryKey := some "code" },
    employees]⟩

/-- An employee without a head and in no known city; when it came is not told. -/
def employeeRow : Row where
  set :=
    { rows :=
        { columns := [.named "ID", .named "title", .named "department", .named "head",
            .named "city"]
          rows := [[.text "7", .text "Research", .text "rd", .null, .null]]
          length_row := by decide }
      mode := .wildcard }
  index := 0
  values := [.text "7", .text "Research", .text "rd", .null, .null]
  isRow := rfl

/-- A graph in which a property expects an entity that is not made yet. -/
def expectant : EntityGraph :=
  ⟨[some { properties := [("next", .reference ⟨1⟩)] }]⟩

theorem columnValues_populate_employeeRow :
    offices.table ⟨1⟩ = .ok employees ∧ offices.BindsApart employees.columns ∧
      (∀ column ∈ employees.columns, column.binding.isSome = true →
        ∃ value?, employeeRow.get column = .ok value?) ∧
      ∃ after, expectant.populate offices ⟨1⟩ employeeRow = ⟨after, .ok ⟨1⟩⟩ ∧
        after.columnValues offices ⟨1⟩ employees = .ok [
          (employeeColumn "id" .integer (some (.property "id")), .integer 7),
          (employeeColumn "title" .text (some (.nested ⟨["department"], "title"⟩)),
            .text "Research"),
          (employeeColumn "department" .text (some (.reference "department" ⟨0⟩)), .text "rd"),
          (employeeColumn "city" .text (some (.nested ⟨["address"], "city"⟩)), .null)] ∧
        ∃ insertion compiled, Insert.ofEntity after offices ⟨1⟩ employees = .ok insertion ∧
          (Formatter.mk Dialect.postgresql.rules .compact).format (.insert insertion) =
            .ok compiled ∧
          compiled.arguments = [⟨.integer 7, .integer⟩, ⟨.text "Research", .text⟩,
            ⟨.text "rd", .text⟩, ⟨.null, .text⟩] ∧
          Lexeme.tokenize Dialect.postgresql.quotes compiled.sql.toList = some [
            .word "INSERT", .word "INTO", .name "employee", .sign "(", .name "id", .sign ",",
            .name "title", .sign ",", .name "department", .sign ",", .name "city", .sign ")",
            .word "VALUES", .sign "(", .placeholder (some 1), .sign ",", .placeholder (some 2),
            .sign ",", .placeholder (some 3), .sign ",", .placeholder (some 4), .sign ")"] := by
  have apart : offices.BindsApart employees.columns := by decide +kernel
  have readable : ∀ column ∈ employees.columns, column.binding.isSome = true →
      ∃ value?, employeeRow.get column = .ok value? := by
    have reads : ∀ column ∈ employees.columns, (employeeRow.get column).isOk = true := by
      decide +kernel
    intro column member _
    have success := reads column member
    cases found : employeeRow.get column with
    | ok value? => exact ⟨value?, rfl⟩
    | error error => simp [found, Except.isOk, Except.toBool] at success
  have entries : employeeRow.entries employees.columns = [
      (employeeColumn "id" .integer (some (.property "id")), .integer 7),
      (employeeColumn "title" .text (some (.nested ⟨["department"], "title"⟩)),
        .text "Research"),
      (employeeColumn "department" .text (some (.reference "department" ⟨0⟩)), .text "rd"),
      (employeeColumn "city" .text (some (.nested ⟨["address"], "city"⟩)), .null)] := by
    decide +kernel
  rcases columnValues_populate expectant offices ⟨1⟩ employees employeeRow rfl apart readable with
    ⟨after, populated, read, inserted⟩
  rw [entries] at read inserted
  exact ⟨rfl, apart, readable, after, populated, read, inserted (by simp) .postgresql .compact⟩

end EntityGraph

end SqlMapper
