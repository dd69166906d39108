import Mathlib.Data.List.Pairwise
import Mathlib.Tactic.ByContra
import SqlMapper.Proofs.Rows.Reading
import SqlMapper.Proofs.Schema.Homes
import SqlMapper.Sqlite.Storage

/-!
# Looking up the columns of joined tables

A query without a select list gives all columns of its tables, each with its name and the name that
the query refers to its table by. A column is looked for under two names of its table, the one the
query refers to it by and the base name, for a result may tell either. So of tables that are
referred to by different names each column is found at its own place, unless the base name of an
aliased table refers to another table of the query, as in a self-join in which one copy has no
alias: the columns of the aliased copy that the other one has too are then found twice.

The proof counts. The result columns that answer to one name of a table and one name of a column
are at most one, since no two agree in both, and the count for a column adds up those for the two
names of its table.
-/

namespace SqlMapper

/-- Of things that never satisfy a property in pairs one that does is the only one. -/
theorem countP_eq_one_of_pairwise {α : Type} {holds : α → Bool} {things : List α} {thing : α}
    (apart : things.Pairwise fun one other => ¬(holds one = true ∧ holds other = true))
    (member : thing ∈ things) (satisfies : holds thing = true) : things.countP holds = 1 := by
  induction things with
  | nil => cases member
  | cons first rest ih =>
      rcases List.pairwise_cons.1 apart with ⟨alone, others⟩
      rcases List.mem_cons.1 member with rfl | later
      · have none : rest.countP holds = 0 :=
          List.countP_eq_zero.2 fun other there too => alone other there ⟨satisfies, too⟩
        rw [List.countP_cons_of_pos satisfies, none]
      · have passed : ¬holds first = true := fun too => alone thing later ⟨too, satisfies⟩
        rw [List.countP_cons_of_neg passed, ih others later]

/-- Two properties that exclude each other are counted apart. -/
theorem countP_or {α : Type} {one other : α → Bool} {things : List α}
    (exclude : ∀ thing ∈ things, one thing = true → other thing = false) :
    things.countP (fun thing => one thing || other thing) =
      things.countP one + things.countP other := by
  rw [List.countP_eq_countP_filter_add things _ one, List.countP_filter, List.countP_filter]
  congr 1
  · refine List.countP_congr fun thing _ => ?_
    cases one thing <;> simp
  · refine List.countP_congr fun thing member => ?_
    have excluded := exclude thing member
    cases satisfied : one thing with
    | false => simp
    | true => simp [excluded satisfied]

/-- The result columns of a table whose columns are all selected: the name of each, and the name the
query refers to the table by. -/
def Table.headers (table : Table) : List (String × String) :=
  table.columns.map fun column => (column.name, table.referenceName)

/-- A result column answers to the name of a table and the name of a column. -/
def answersTo (table name : String) (header : String × String) : Bool :=
  Text.sameName header.1 name && Text.sameName header.2 table

theorem answersTo_iff {table name : String} {header : String × String} :
    answersTo table name header = true ↔
      Text.foldCase header.1 = Text.foldCase name ∧
        Text.foldCase header.2 = Text.foldCase table := by
  rw [answersTo, Bool.and_eq_true, Text.sameName_iff, Text.sameName_iff]

@[simp]
theorem answersTo_self (table name : String) : answersTo table name (name, table) = true :=
  answersTo_iff.2 ⟨rfl, rfl⟩

/-- The tables are referred to by different names, in any case. -/
def ReferencesDistinct (tables : List Table) : Prop :=
  tables.Pairwise fun one other =>
    ¬Text.sameName one.referenceName other.referenceName = true

/-- The columns of the table have different names, in any case. -/
def Table.ColumnsDistinct (table : Table) : Prop :=
  table.columns.Pairwise fun one other => ¬Text.sameName one.name other.name = true

instance (tables : List Table) : Decidable (ReferencesDistinct tables) :=
  inferInstanceAs (Decidable (List.Pairwise _ _))

instance (table : Table) : Decidable table.ColumnsDistinct :=
  inferInstanceAs (Decidable (List.Pairwise _ _))

section Headers

variable {tables : List Table}

theorem mem_headers {header : String × String} :
    header ∈ tables.flatMap Table.headers ↔
      ∃ source ∈ tables, ∃ given ∈ source.columns, (given.name, source.referenceName) = header := by
  simp only [List.mem_flatMap, Table.headers, List.mem_map]

theorem sourceTables_map_table (tables : List Table) :
    Select.sourceTables (tables.map Source.table) =
      (tables.flatMap Table.headers).map fun header => some header.2 := by
  induction tables with
  | nil => rfl
  | cons table rest ih =>
      simp [Select.sourceTables, Table.headers, ih, Function.comp_def, List.map_const']

/-- Among the columns of all tables, a column comes behind those of the tables before its own and
those before it in its table. -/
theorem getElem?_headers {before after : List Table} {table : Table} {left right : List Column}
    {column : Column} (columns : table.columns = left ++ column :: right) :
    ((before ++ table :: after).flatMap Table.headers)[
        (before.flatMap Table.columns).length + left.length]? =
      some (column.name, table.referenceName) := by
  have width : (before.flatMap Table.headers).length = (before.flatMap Table.columns).length := by
    simp [List.length_flatMap, Table.headers]
  rw [List.flatMap_append, ← width, List.getElem?_append_right (Nat.le_add_right ..),
    Nat.add_sub_cancel_left, List.flatMap_cons]
  simp [Table.headers, columns]

/-- No two result columns answer to the same names. -/
theorem pairwise_headers (references : ReferencesDistinct tables)
    (columns : ∀ table ∈ tables, table.ColumnsDistinct) (table name : String) :
    (tables.flatMap Table.headers).Pairwise fun one other =>
      ¬(answersTo table name one = true ∧ answersTo table name other = true) := by
  simp only [answersTo_iff]
  refine List.pairwise_flatMap.2 ⟨fun source member => ?_, references.imp ?_⟩
  · refine List.pairwise_map.2 ((columns source member).imp ?_)
    rintro one other differ ⟨first, second⟩
    exact differ (Text.sameName_iff.2 (first.1.trans second.1.symm))
  · rintro one other differ _ left _ right ⟨first, second⟩
    rcases List.mem_map.1 left with ⟨_, _, rfl⟩
    rcases List.mem_map.1 right with ⟨_, _, rfl⟩
    exact differ (Text.sameName_iff.2 (first.2.trans second.2.symm))

/-- Exactly one result column answers to the names of a column that is there. -/
theorem countP_answersTo_eq_one (references : ReferencesDistinct tables)
    (columns : ∀ table ∈ tables, table.ColumnsDistinct) {table name : String}
    {header : String × String} (member : header ∈ tables.flatMap Table.headers)
    (answers : answersTo table name header = true) :
    (tables.flatMap Table.headers).countP (answersTo table name) = 1 :=
  countP_eq_one_of_pairwise (pairwise_headers references columns table name) member answers

end Headers

/-- Another table of a query has the base name of an aliased table for its reference name, and has a
column that is named like the given one. -/
def Table.Shadowed (table : Table) (column : Column) (tables : List Table) : Prop :=
  ¬Text.sameName table.referenceName table.name = true ∧
    ∃ other ∈ tables, Text.sameName other.referenceName table.name = true ∧
      ∃ namesake ∈ other.columns, Text.sameName namesake.name column.name = true

instance (table : Table) (column : Column) (tables : List Table) :
    Decidable (table.Shadowed column tables) :=
  inferInstanceAs (Decidable (_ ∧ _))

section Shadowing

variable {tables : List Table} {table : Table} {column : Column}

theorem countP_of_shadowed (references : ReferencesDistinct tables)
    (distinct : ∀ table ∈ tables, table.ColumnsDistinct)
    (own : (column.name, table.referenceName) ∈ tables.flatMap Table.headers)
    (shadowed : table.Shadowed column tables) :
    ((tables.flatMap Table.headers).countP fun header =>
      answersTo table.referenceName column.name header ||
        answersTo table.name column.name header) = 2 := by
  rcases shadowed with ⟨differ, other, there, sameTable, namesake, given, sameColumn⟩
  have exclude : ∀ header ∈ tables.flatMap Table.headers,
      answersTo table.referenceName column.name header = true →
        answersTo table.name column.name header = false := by
    intro header _ one
    refine Bool.eq_false_iff.2 fun two => differ (Text.sameName_iff.2 ?_)
    exact (answersTo_iff.1 one).2.symm.trans (answersTo_iff.1 two).2
  have second : answersTo table.name column.name (namesake.name, other.referenceName) = true := by
    rw [answersTo, sameTable, sameColumn, Bool.and_true]
  rw [countP_or exclude,
    countP_answersTo_eq_one references distinct own (answersTo_self _ _),
    countP_answersTo_eq_one references distinct
      (mem_headers.2 ⟨other, there, namesake, given, rfl⟩) second]

theorem countP_of_not_shadowed (references : ReferencesDistinct tables)
    (distinct : ∀ table ∈ tables, table.ColumnsDistinct)
    (own : (column.name, table.referenceName) ∈ tables.flatMap Table.headers)
    (clear : ¬table.Shadowed column tables) :
    ((tables.flatMap Table.headers).countP fun header =>
      answersTo table.referenceName column.name header ||
        answersTo table.name column.name header) = 1 := by
  have first : ∀ header ∈ tables.flatMap Table.headers,
      answersTo table.name column.name header = true →
        answersTo table.referenceName column.name header = true := by
    intro header member base
    rcases mem_headers.1 member with ⟨other, there, namesake, given, rfl⟩
    rw [answersTo, Bool.and_eq_true] at base
    have same : Text.sameName table.referenceName table.name = true := by
      by_contra differ
      exact clear ⟨differ, other, there, base.2, namesake, given, base.1⟩
    rw [answersTo_iff, Text.sameName_iff.1 same]
    exact ⟨Text.sameName_iff.1 base.1, Text.sameName_iff.1 base.2⟩
  rw [← countP_answersTo_eq_one references distinct own (answersTo_self _ _)]
  refine List.countP_congr fun header member => ?_
  rw [Bool.or_eq_true]
  exact ⟨fun either => either.elim id (first header member), Or.inl⟩

end Shadowing

/-- The row is of a query of all columns of the tables: its result columns are the tables' columns
in order, under their names, with the tables that the query tells. -/
structure Row.ReadsAll (row : Row) (query : Select) (tables : List Table) : Prop where
  unlisted : query.hasProjections = false
  sources : query.sources = tables.map Source.table
  mode : row.set.mode = .forSelect query
  names : row.columns.map ResultColumn.name = (tables.flatMap Table.columns).map Column.name
  tables : row.columns.map ResultColumn.table = query.columnTables

namespace Row

variable {row : Row} {query : Select} {tables : List Table}

theorem ReadsAll.headers (reads : row.ReadsAll query tables) :
    row.columns.map (fun described => (described.name, described.table)) =
      (tables.flatMap Table.headers).map fun header => (header.1, some header.2) := by
  have names : row.columns.map ResultColumn.name = (tables.flatMap Table.headers).map Prod.fst := by
    rw [reads.names, List.map_flatMap, List.map_flatMap]
    simp [Table.headers, Function.comp_def]
  have told : row.columns.map ResultColumn.table =
      (tables.flatMap Table.headers).map fun header => some header.2 := by
    rw [reads.tables, Select.columnTables, reads.unlisted, reads.sources, ← sourceTables_map_table]
    rfl
  rw [← List.zip_map', ← List.zip_map', names, told]

theorem ReadsAll.getElem?_columns (reads : row.ReadsAll query tables) {index : Nat}
    {name reference : String}
    (there : (tables.flatMap Table.headers)[index]? = some (name, reference)) :
    ∃ described, row.columns[index]? = some described ∧ described.name = name ∧
      described.table = some reference := by
  have same := congrArg (fun all => all[index]?) reads.headers
  simp only [List.getElem?_map, there, Option.map_some, Option.map_eq_some_iff,
    Prod.mk.injEq] at same
  exact same

/-- A result column that is told to be of a table may be a column of another table if it answers to
one of the names of that one. -/
theorem belongsTo_eq_answersTo {table : Table} {column : Column} (named : column.table = table.name)
    (renamed : column.aliasName = table.aliasName) (header : String × String) :
    (Text.sameName header.1 column.name && column.belongsTo header.2) =
      (answersTo table.referenceName column.name header ||
        answersTo table.name column.name header) := by
  rw [Column.belongsTo, named, renamed, Table.referenceName, answersTo, answersTo,
    Text.sameName_comm table.name]
  cases table.aliasName with
  | none => simp
  | some name =>
      rw [Option.any_some, Option.getD_some, Text.sameName_comm name, Bool.and_or_distrib_left,
        Bool.or_comm]

theorem ReadsAll.countP_describes (reads : row.ReadsAll query tables) {table : Table}
    {column : Column} (named : column.table = table.name)
    (renamed : column.aliasName = table.aliasName) :
    row.columns.countP (describes column) =
      (tables.flatMap Table.headers).countP fun header =>
        answersTo table.referenceName column.name header ||
          answersTo table.name column.name header := by
  have describes_eq : describes column =
      (fun (header : String × Option String) =>
        Text.sameName header.1 column.name && header.2.all column.belongsTo) ∘
        fun described => (described.name, described.table) := rfl
  rw [describes_eq, ← List.countP_map, reads.headers, List.countP_map]
  refine List.countP_congr fun header _ => ?_
  rw [← belongsTo_eq_answersTo named renamed]
  rfl

/-- In a row of all columns of tables with different reference names, a column reads as the value at
its own place, unless it is shadowed: then there are two columns to choose from. -/
theorem get_of_readsAll (query : Select) (before after : List Table) (table : Table)
    (left right : List Column) (column : Column) (row : Row)
    (reads : row.ReadsAll query (before ++ table :: after)) (built : table.Built)
    (references : ReferencesDistinct (before ++ table :: after))
    (distinct : ∀ source ∈ before ++ table :: after, source.ColumnsDistinct)
    (columns : table.columns = left ++ column :: right) :
    ∃ value, row.values[(before.flatMap Table.columns).length + left.length]? = some value ∧
      (¬table.Shadowed column (before ++ table :: after) →
        row.get column = (column.type.decode value).map some) ∧
      (table.Shadowed column (before ++ table :: after) →
        row.get column = .error (.ambiguousColumn column.name column.tableReference 2)) := by
  have member : column ∈ table.columns := by simp [columns]
  rcases built.homed column member with ⟨named, renamed⟩
  have mode : row.set.mode = .wildcard := by
    rw [reads.mode, LookupMode.forSelect, reads.unlisted]
    rfl
  have place : ((before ++ table :: after).flatMap Table.headers)[
      (before.flatMap Table.columns).length + left.length]? =
      some (column.name, table.referenceName) := getElem?_headers columns
  have own := List.mem_of_getElem? place
  have count := reads.countP_describes named renamed
  rcases reads.getElem?_columns place with ⟨described, there, sameName, told⟩
  have wide := (List.getElem?_eq_some_iff.1 there).1
  rw [Row.columns, ← row.length_values] at wide
  refine ⟨_, List.getElem?_eq_getElem wide, fun clear => ?_, fun shadowed => ?_⟩
  · rw [countP_of_not_shadowed references distinct own clear] at count
    have fits : describes column described = true := by
      rw [describes, sameName, told, Option.all_some]
      refine (belongsTo_eq_answersTo named renamed (column.name, table.referenceName)).trans ?_
      rw [answersTo_self, Bool.true_or]
    exact get_of_indexOf? (indexOf?_of_countP_one mode there fits count)
      (List.getElem?_eq_getElem wide)
  · rw [countP_of_shadowed references distinct own shadowed] at count
    exact get_of_indexOf?_error (indexOf?_of_countP_more mode count)

end Row

/-- The staff, each with the number of the boss. -/
def staff : Table :=
  ((Table.named "staff").addColumn { table := "", name := "id", type := .integer }).addColumn
    { table := "", name := "boss", type := .integer }

/-- The staff once more, in the role of bosses. -/
def bosses : Table :=
  staff.aliased "boss"

/-- The number of the boss that one of the staff has. -/
def bossOfStaff : Column :=
  { table := "staff", name := "boss", type := .integer }

/-- The number that a boss has. -/
def idOfBoss : Column :=
  { table := "staff", aliasName := some "boss", name := "id", type := .integer }

/-- The staff together with their bosses; only the bosses go by an alias. -/
def staffWithBosses : Select :=
  (Select.fromTable staff).join
    ⟨.inner, .table bosses, some (.binary .equal (.column bossOfStaff) (.column idOfBoss))⟩

/-- The second of the staff, whose boss is the first. -/
def staffRow : Row where
  set :=
    { rows :=
        { columns := Storage.resultColumns ["id", "boss", "id", "boss"] staffWithBosses.columnTables
          rows := [[.integer 2, .integer 1, .integer 1, .null]]
          length_row := by decide }
      mode := .forSelect staffWithBosses }
  index := 0
  values := [.integer 2, .integer 1, .integer 1, .null]
  isRow := rfl

theorem staffRow_readsAll : staffRow.ReadsAll staffWithBosses [staff, bosses] where
  unlisted := rfl
  sources := rfl
  mode := rfl
  names := rfl
  tables := rfl

theorem built_staff : staff.Built :=
  .addColumn (.addColumn (.named "staff") _) _

theorem staffRow_get_bossOfStaff :
    staffRow.ReadsAll staffWithBosses [staff, bosses] ∧ staff.Built ∧
      ReferencesDistinct [staff, bosses] ∧
      (∀ source ∈ [staff, bosses], source.ColumnsDistinct) ∧
      ¬staff.Shadowed bossOfStaff [staff, bosses] ∧
      staffRow.get bossOfStaff = .ok (some (.integer 1)) := by
  have references : ReferencesDistinct [staff, bosses] := by decide
  have distinct : ∀ source ∈ [staff, bosses], source.ColumnsDistinct := by decide
  have clear : ¬staff.Shadowed bossOfStaff [staff, bosses] := by decide
  refine ⟨staffRow_readsAll, built_staff, references, distinct, clear, ?_⟩
  rcases Row.get_of_readsAll staffWithBosses [] [bosses] staff [_] [] bossOfStaff staffRow
    staffRow_readsAll built_staff references distinct rfl with ⟨value, there, reads, _⟩
  cases there
  exact reads clear

/-- The number of the boss, for all that the references are distinct, is not told from the other
number in the row. -/
theorem staffRow_get_idOfBoss :
    staffRow.ReadsAll staffWithBosses [staff, bosses] ∧ staff.Built ∧ bosses.Built ∧
      ReferencesDistinct [staff, bosses] ∧
      (∀ source ∈ [staff, bosses], source.ColumnsDistinct) ∧ idOfBoss ∈ bosses.columns ∧
      staffRow.values[staff.columns.length]? = some (.integer 1) ∧
      staffRow.get idOfBoss = .error (.ambiguousColumn "id" "boss" 2) :=
  ⟨staffRow_readsAll, built_staff, .aliased built_staff "boss", by decide, by decide, by decide,
    rfl, rfl⟩

end SqlMapper
