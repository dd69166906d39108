import SqlMapper.Proofs.Lowering.Success
import SqlMapper.Proofs.Schema.Homes

/-!
# The name before a column

A source of a query introduces a name: the alias of its table if it has one, or else the name of the
table. A column is written behind the name of its own table, which it carries along. This file runs
the calls that build a table, in any order, and shows that the two names are the same: the columns
are those that the calls entered, in order, and each of them is at home in the table as it is in the
end, whichever alias came first or last and wherever the column was before.
-/

namespace SqlMapper

/-- What a column is apart from its home: its name, its label, its type and its binding. -/
def Column.content (column : Column) : String × Option String × SqlType × Option Binding :=
  (column.name, column.label, column.type, column.binding)

namespace Table

/-- A call that builds a table further. -/
inductive BuildStep where
  | column (name : String) (type : SqlType)
  | boundColumn (name : String) (type : SqlType) (binding : Binding)
  /-- Adds a column that is already made, with a home of its own. -/
  | addColumn (made : Column)
  | withPrimaryKey (key : String)
  | aliased (name : String)

namespace BuildStep

/-- The table behind a call. -/
def apply (table : Table) : BuildStep → Table
  | .column name type => table.column name type
  | .boundColumn name type binding => table.boundColumn name type binding
  | .addColumn made => table.addColumn made
  | .withPrimaryKey key => table.withPrimaryKey key
  | .aliased name => table.aliased name

/-- What a call enters as a column. -/
def entered? : BuildStep → Option (String × Option String × SqlType × Option Binding)
  | .column name type => some (name, none, type, none)
  | .boundColumn name type binding => some (name, none, type, some binding)
  | .addColumn made => some made.content
  | .withPrimaryKey _ => none
  | .aliased _ => none

end BuildStep

/-- The table that the calls make of a new one. -/
def build (name : String) (steps : List BuildStep) : Table :=
  steps.foldl BuildStep.apply (.named name)

variable {table : Table}

theorem Built.apply (built : table.Built) (step : BuildStep) : (step.apply table).Built := by
  cases step with
  | column name type => exact built.addColumn _
  | boundColumn name type binding => exact built.addColumn _
  | addColumn made => exact built.addColumn made
  | withPrimaryKey key => exact built.withPrimaryKey key
  | aliased name => exact built.aliased name

/-- An aliased copy has the same columns in the same order, apart from their home. -/
theorem map_content_aliased (table : Table) (name : String) :
    (table.aliased name).columns.map Column.content = table.columns.map Column.content := by
  rw [aliased, List.map_map]
  rfl

theorem map_content_addColumn (table : Table) (column : Column) :
    (table.addColumn column).columns.map Column.content =
      table.columns.map Column.content ++ [column.content] := by
  simp [addColumn, home, Column.content]

theorem map_content_apply (table : Table) (step : BuildStep) :
    (step.apply table).columns.map Column.content =
      table.columns.map Column.content ++ step.entered?.toList := by
  cases step with
  | column name type => exact map_content_addColumn table _
  | boundColumn name type binding => exact map_content_addColumn table _
  | addColumn made => exact map_content_addColumn table made
  | withPrimaryKey key => simp [BuildStep.apply, BuildStep.entered?, withPrimaryKey]
  | aliased name => simp [BuildStep.apply, BuildStep.entered?, map_content_aliased]

theorem name_apply (table : Table) (step : BuildStep) : (step.apply table).name = table.name := by
  cases step <;> rfl

/-- A run of calls leaves a table that can be built, under its name, and enters its columns behind
those that were there. -/
theorem foldl_apply (built : table.Built) (steps : List BuildStep) :
    (steps.foldl BuildStep.apply table).Built ∧
      (steps.foldl BuildStep.apply table).name = table.name ∧
      (steps.foldl BuildStep.apply table).columns.map Column.content =
        table.columns.map Column.content ++ steps.filterMap BuildStep.entered? := by
  induction steps generalizing table with
  | nil => exact ⟨built, rfl, by simp⟩
  | cons step rest ih =>
      rcases ih (built.apply step) with ⟨restBuilt, sameName, contents⟩
      refine ⟨restBuilt, sameName.trans (name_apply table step), ?_⟩
      rw [List.foldl_cons, contents, map_content_apply, List.append_assoc]
      cases entered : step.entered? <;> simp [entered]

theorem built_build (name : String) (steps : List BuildStep) : (build name steps).Built :=
  (foldl_apply (.named name) steps).1

theorem name_build (name : String) (steps : List BuildStep) : (build name steps).name = name :=
  (foldl_apply (.named name) steps).2.1

/-- The columns of a table are those that the calls entered, in order. -/
theorem map_content_build (name : String) (steps : List BuildStep) :
    (build name steps).columns.map Column.content = steps.filterMap BuildStep.entered? :=
  (foldl_apply (.named name) steps).2.2

theorem Homed.tableReference_eq (homed : table.Homed) {column : Column}
    (member : column ∈ table.columns) : column.tableReference = table.referenceName := by
  rcases homed column member with ⟨sameTable, sameAlias⟩
  rw [Column.tableReference, sameTable, sameAlias, referenceName]

/-- The name that a table's source introduces is the last thing that the source writes. -/
theorem getLast?_chunks_lower (table : Table) :
    table.lower.chunks.getLast? = some (.name table.referenceName) := by
  unfold lower referenceName
  cases table.aliasName with
  | none => rfl
  | some name => simp

theorem render_lower (table : Table) (signs : Signs) (layout : Layout) :
    table.lower.render signs layout =
      signs.quote table.name ++
        table.aliasName.elim "" fun name => " AS " ++ signs.quote name := by
  apply String.toList_inj.1
  unfold lower
  cases table.aliasName with
  | none =>
      simp [Fragment.render, Rendering.write, Rendering.chunkText, Rendering.spaceBehind]
  | some name =>
      have words : Chunk.spaced (.name table.name) (.token .as) = true ∧
          Chunk.spaced (.token .as) (.name name) = true := by
        constructor <;> rfl
      simp [Fragment.render, Rendering.write, Rendering.chunkText, Rendering.spaceBehind, words,
        Token.text]

theorem render_qualified (reference name : String) (signs : Signs) (layout : Layout) :
    (Fragment.ofChunk (.qualified reference name)).render signs layout =
      signs.quote reference ++ "." ++ signs.quote name := by
  apply String.toList_inj.1
  simp [Fragment.render, Rendering.write, Rendering.chunkText, Rendering.spaceBehind]

end Table

section Sources

variable {rules : DialectRules} {table : Table}

theorem infix_lowerFrom {source : Option Source} {fragment : Fragment}
    (lowered : lowerFrom rules source = .ok fragment) (read : source = some (.table table)) :
    (clauseOf [.from] table.lower).chunks <:+: fragment.chunks := by
  subst read
  rw [lowerFrom_some_eq_ok] at lowered
  rcases lowered with ⟨body, bodyLowered, rfl⟩
  cases Source.lower_table_eq_ok.1 bodyLowered
  exact List.infix_rfl

theorem Join.prefix_lower {join : Join} {fragment : Fragment}
    (lowered : join.lower rules = .ok fragment) (read : join.source = .table table) :
    (clauseOf [join.kind.token, .join] table.lower).chunks <+: fragment.chunks := by
  rw [Join.lower_eq_ok, read] at lowered
  rcases lowered with ⟨_, body, bodyLowered, ⟨_, _, rfl⟩ | ⟨_, _, on, _, _, rfl⟩⟩
  · cases Source.lower_table_eq_ok.1 bodyLowered
    exact List.prefix_rfl
  · cases Source.lower_table_eq_ok.1 bodyLowered
    rw [Fragment.append_assoc]
    exact List.prefix_append _ _

theorem infix_lowerJoins {joins : List Join} {join : Join} {fragment : Fragment}
    (lowered : lowerJoins rules joins = .ok fragment) (member : join ∈ joins)
    (read : join.source = .table table) :
    (clauseOf [join.kind.token, .join] table.lower).chunks <:+: fragment.chunks := by
  induction joins generalizing fragment with
  | nil => cases member
  | cons first rest ih =>
      rw [lowerJoins_cons_eq_ok] at lowered
      rcases lowered with ⟨head, headLowered, others, othersLowered, rfl⟩
      rcases List.mem_cons.1 member with rfl | later
      · exact (join.prefix_lower headLowered read).isInfix.trans (List.prefix_append _ _).isInfix
      · exact (ih othersLowered later).trans (List.suffix_append _ _).isInfix

/-- A query writes the clauses of its sources as they are. -/
theorem Select.infix_sources {query : Select} {fragment : Fragment}
    (lowered : query.lower rules = .ok fragment) :
    (query.source = some (.table table) →
      (clauseOf [.from] table.lower).chunks <:+: fragment.chunks) ∧
    ∀ join ∈ query.joins, join.source = .table table →
      (clauseOf [join.kind.token, .join] table.lower).chunks <:+: fragment.chunks := by
  rw [Select.lower_eq_ok] at lowered
  rcases lowered with ⟨items, _, sourceClause, sourceLowered, joinClauses, joinsLowered,
    filterClause, _, groups, _, havingClause, _, terms, _, pageClause, _, rfl⟩
  have behind {part first second : List Chunk} (inside : part <:+: first) :
      part <:+: first ++ second := inside.trans (List.prefix_append _ _).isInfix
  simp only [Fragment.chunks_append]
  constructor
  · intro read
    have inside := infix_lowerFrom sourceLowered read
    -- Six clauses follow the first source.
    iterate 6 apply behind
    exact inside.trans (List.suffix_append _ _).isInfix
  · intro join member read
    have inside := infix_lowerJoins joinsLowered member read
    iterate 5 apply behind
    exact inside.trans (List.suffix_append _ _).isInfix

end Sources

/-- Whatever calls build a table, it has the columns that they entered, in order, and each of them
is at home in it. So the name before a column is the one that the table's source introduces, in
`FROM` and behind `JOIN`, and an aliased copy differs in the alias alone. -/
theorem Table.columns_stay_homed (name : String) (steps : List BuildStep) (rules : DialectRules) :
    let table := build name steps
    table.name = name ∧
      table.columns.map Column.content = steps.filterMap BuildStep.entered? ∧
      (∀ column ∈ table.columns,
        column.table = table.name ∧ column.aliasName = table.aliasName ∧
          (Expr.column column).lower rules =
            .ok (.ofChunk (.qualified table.referenceName column.name))) ∧
      table.lower.chunks.getLast? = some (.name table.referenceName) ∧
      (∀ query fragment, Select.lower rules query = .ok fragment →
        (query.source = some (.table table) →
          (clauseOf [.from] table.lower).chunks <:+: fragment.chunks) ∧
        ∀ join ∈ query.joins, join.source = .table table →
          (clauseOf [join.kind.token, .join] table.lower).chunks <:+: fragment.chunks) ∧
      (∀ layout,
        table.lower.render rules.signs layout =
          rules.quote table.name ++
            table.aliasName.elim "" (fun aliasName => " AS " ++ rules.quote aliasName) ∧
        ∀ column ∈ table.columns,
          (Fragment.ofChunk (.qualified column.tableReference column.name)).render rules.signs
              layout =
            rules.quote (table.aliasName.getD table.name) ++ "." ++ rules.quote column.name) ∧
      ∀ aliasName,
        (table.aliased aliasName).name = table.name ∧
          (table.aliased aliasName).aliasName = some aliasName ∧
          (table.aliased aliasName).primaryKey = table.primaryKey ∧
          (table.aliased aliasName).columns.map Column.content =
            table.columns.map Column.content := by
  intro table
  have homed : table.Homed := (built_build name steps).homed
  refine ⟨name_build name steps, map_content_build name steps, ?_, table.getLast?_chunks_lower,
    fun _ _ => Select.infix_sources, ?_, ?_⟩
  · intro column member
    rcases homed column member with ⟨sameTable, sameAlias⟩
    refine ⟨sameTable, sameAlias, ?_⟩
    rw [Expr.lower_column_eq_ok, homed.tableReference_eq member]
  · intro layout
    refine ⟨table.render_lower rules.signs layout, ?_⟩
    intro column member
    rw [homed.tableReference_eq member]
    exact render_qualified table.referenceName column.name rules.signs layout
  · intro aliasName
    exact ⟨rfl, rfl, rfl, table.map_content_aliased aliasName⟩

/-- A column made for another table enters under a first alias, and so does a column of the table's
own; then the alias changes. -/
def movedColumnSteps : List Table.BuildStep :=
  [.withPrimaryKey "id", .aliased "old",
    .addColumn
      { table := "elsewhere", aliasName := some "far", name := "id", label := some "key",
        type := .integer, binding := some (.property "id") },
    .column "town" .text, .aliased "new"]

/-- The query that selects every column of the table by name. -/
def movedColumnQuery : Select :=
  let table := Table.build "contact" movedColumnSteps
  { projections := table.columns.map fun column => ⟨.column column, none⟩
    source := some (.table table) }

theorem Table.columns_stay_homed_movedColumn :
    let table := Table.build "contact" movedColumnSteps
    table.columns =
        [{ table := "contact", aliasName := some "new", name := "id", label := some "key",
           type := .integer, binding := some (.property "id") },
          { table := "contact", aliasName := some "new", name := "town", type := .text }] ∧
      table.primaryKey = some "id" ∧
      ∃ fragment, movedColumnQuery.lower Dialect.postgresql.rules = .ok fragment ∧
        (clauseOf [.from] table.lower).chunks <:+: fragment.chunks ∧
        fragment.render Dialect.postgresql.rules.signs .compact =
          "SELECT \"new\".\"id\", \"new\".\"town\" FROM \"contact\" AS \"new\"" := by
  rcases Table.columns_stay_homed "contact" movedColumnSteps Dialect.postgresql.rules with
    ⟨_, _, _, _, sources, _, _⟩
  have lowered : movedColumnQuery.lower Dialect.postgresql.rules = .ok _ := rfl
  exact ⟨rfl, rfl, _, lowered, (sources _ _ lowered).1 rfl, by decide +kernel⟩

end SqlMapper
