import SqlMapper.Proofs.Arguments.Traversal
import SqlMapper.Proofs.Rendering.Tokenizing
import SqlMapper.Statement.Builder

/-!
# How the insertion of a row reads

The text of an `INSERT` of one row, read back as a database reads it, names the table, then the
columns in order, and then has as many placeholders. Values that their types encode as themselves
are bound as they are.
-/

namespace SqlMapper

variable {dialect : Dialect} {table : Table} {entries : List (Column × Value)}

namespace Fragment

theorem chunks_commaSeparated_map {α : Type} (chunk : α → Chunk) (items : List α) :
    (commaSeparated (items.map fun item => ofChunk (chunk item))).chunks =
      (items.map chunk).intersperse (.token .comma) := by
  rw [commaSeparated]
  induction items with
  | nil => rfl
  | cons item items ih =>
      cases items with
      | nil => rfl
      | cons next rest =>
          simp only [List.map_cons, List.intersperse_cons_cons] at ih ⊢
          rw [join, chunks_append, ih]
          · rfl
          · simp

end Fragment

namespace Lexeme

/-- The placeholder of the argument with this number. -/
def placeholderOf (dialect : Dialect) (number : Nat) : Lexeme :=
  .placeholder (if dialect.numbersPlaceholders then some number else none)

/-- The lexemes of the insertion of one row into a table, for columns of the given names. -/
def insertion (dialect : Dialect) (table : String) (columns : List String) : List Lexeme :=
  [.word "INSERT", .word "INTO", .name table, .sign "("] ++
    (columns.map .name).intersperse (.sign ",") ++
    [.sign ")", .word "VALUES", .sign "("] ++
    ((List.range' 1 columns.length).map (placeholderOf dialect)).intersperse (.sign ",") ++
    [.sign ")"]

end Lexeme

namespace Chunk

theorem isLexical_intersperse {α : Type} {written : α → Chunk}
    (lexical : ∀ item, (written item).isLexical = true) (items : List α) :
    ∀ chunk ∈ (items.map written).intersperse (.token .comma), chunk.isLexical = true := by
  induction items with
  | nil => simp
  | cons first rest ih =>
      cases rest with
      | nil => simpa using lexical first
      | cons second others =>
          rw [List.map_cons, List.map_cons, List.intersperse_cons_cons]
          exact List.forall_mem_cons.2 ⟨lexical first, List.forall_mem_cons.2 ⟨rfl, ih⟩⟩

/-- Names between commas read as they are, and move no number on. -/
theorem lexemesFrom_names (number : Nat) (names : List String) (rest : List Chunk) :
    lexemesFrom dialect number ((names.map .name).intersperse (.token .comma) ++ rest) =
      (names.map Lexeme.name).intersperse (.sign ",") ++ lexemesFrom dialect number rest := by
  induction names with
  | nil => rfl
  | cons name names ih =>
      cases names with
      | nil => rfl
      | cons next others =>
          simp only [List.map_cons, List.intersperse_cons_cons, List.cons_append] at ih ⊢
          rw [lexemesFrom, lexemesFrom]
          simp only [argument?, Option.isSome_none, Bool.false_eq_true, reduceIte, Nat.add_zero, ih]
          rfl

/-- Arguments between commas read as their placeholders, numbered on. -/
theorem lexemesFrom_arguments (number : Nat) (bound : List Argument) (rest : List Chunk) :
    lexemesFrom dialect number ((bound.map .argument).intersperse (.token .comma) ++ rest) =
      ((List.range' number bound.length).map (Lexeme.placeholderOf dialect)).intersperse
          (.sign ",") ++
        lexemesFrom dialect (number + bound.length) rest := by
  induction bound generalizing number with
  | nil => rfl
  | cons argument bound ih =>
      cases bound with
      | nil => rfl
      | cons next others =>
          have further := ih (number + 1)
          have count : number + 1 + (next :: others).length =
              number + (argument :: next :: others).length := by
            simp only [List.length_cons]
            omega
          rw [count] at further
          simp only [List.map_cons, List.intersperse_cons_cons, List.cons_append,
            List.length_cons, List.range'_succ] at further ⊢
          rw [lexemesFrom, lexemesFrom]
          simp only [argument?, Option.isSome_some, Option.isSome_none, Bool.false_eq_true,
            reduceIte, Nat.add_zero, further]
          rfl

end Chunk

/-- The insertion of one row, with a value for each of some columns. -/
def Insert.ofEntries (table : Table) (entries : List (Column × Value)) : Insert :=
  { table
    columns := entries.map Prod.fst
    rows := [entries.map fun (column, value) => .typed value column.type] }

/-- A column's value as an argument of the column's type. -/
def Argument.ofEntry (entry : Column × Value) : Argument :=
  ⟨entry.2, entry.1.type⟩

theorem lowerExprs_typed (rules : DialectRules) (entries : List (Column × Value)) :
    lowerExprs rules (entries.map fun (column, value) => .typed value column.type) =
      .ok (entries.map fun entry => .ofChunk (.argument (Argument.ofEntry entry))) := by
  induction entries with
  | nil => rw [List.map_nil, lowerExprs]; rfl
  | cons entry rest ih =>
      rw [List.map_cons, lowerExprs_cons_eq_ok]
      exact ⟨_, Expr.lower_argument_eq_ok.2 rfl, _, ih, rfl⟩

theorem exprArguments_typed (dialect : Dialect) (entries : List (Column × Value)) :
    exprArguments dialect (entries.map fun (column, value) => .typed value column.type) =
      entries.map Argument.ofEntry := by
  induction entries with
  | nil => rw [List.map_nil, exprArguments]; rfl
  | cons entry rest ih =>
      rw [List.map_cons, exprArguments, ih]
      rfl

theorem encodeArguments_eq_self {bound : List Argument}
    (fixed : ∀ argument ∈ bound, argument.type.encode argument.value = .ok argument.value) :
    Formatter.encodeArguments bound = .ok bound := by
  induction bound with
  | nil => rfl
  | cons argument rest ih =>
      rcases List.forall_mem_cons.1 fixed with ⟨first, others⟩
      rw [Formatter.encodeArguments, Argument.encode, first, ih others]
      rfl

/-- An insertion of one row lowers to its columns and its arguments, each between commas. -/
theorem Insert.lower_ofEntries (rules : DialectRules) (table : Table) (some : entries ≠ []) :
    ∃ fragment, (Insert.ofEntries table entries).lower rules = .ok fragment ∧
      fragment.chunks =
        [.token .insert, .token .into, .name table.name, .token .openParen] ++
          ((entries.map (·.1.name)).map Chunk.name).intersperse (.token .comma) ++
          [.token .closeParen, .clauseBreak, .token .values, .token .openParen] ++
          ((entries.map Argument.ofEntry).map Chunk.argument).intersperse (.token .comma) ++
          [.token .closeParen] := by
  refine ⟨_, Insert.lower_eq_ok.2 ⟨?_, ?_, _, lowerRows_cons_eq_ok.2 ⟨?_, _,
    lowerExprs_typed rules entries, [], lowerRows_nil_eq_ok.2 rfl, rfl⟩, rfl⟩, ?_⟩
  · simpa [ofEntries] using some
  · simp [ofEntries]
  · simp [ofEntries]
  · have columns := Fragment.chunks_commaSeparated_map
      (fun entry : Column × Value => .name entry.1.name) entries
    have values := Fragment.chunks_commaSeparated_map
      (fun entry : Column × Value => .argument (Argument.ofEntry entry)) entries
    simp only [Fragment.ofName, ofEntries, List.map_map, Function.comp_def]
    rw [Fragment.chunks_append, Fragment.chunks_append, Fragment.chunks_append,
      Fragment.chunks_parenthesized, columns]
    simpa [clauseOf, commaSeparated, Fragment.join] using values

/-- An insertion of one row is formatted in every dialect and layout. Its text names the table and
the columns, and its arguments are the values, if their types encode them as themselves. -/
theorem Insert.exists_format_ofEntries (table : Table) (some : entries ≠ [])
    (fixed : ∀ entry ∈ entries, entry.1.type.encode entry.2 = .ok entry.2) (dialect : Dialect)
    (layout : Layout) :
    ∃ compiled, (Formatter.mk dialect.rules layout).format (.insert (.ofEntries table entries)) =
        .ok compiled ∧
      compiled.arguments = entries.map Argument.ofEntry ∧
      Lexeme.tokenize dialect.quotes compiled.sql.toList =
        Option.some (Lexeme.insertion dialect table.name (entries.map (·.1.name))) := by
  rcases Insert.lower_ofEntries dialect.rules table some with ⟨fragment, lowered, written⟩
  have lowers : (Statement.insert (.ofEntries table entries)).lower dialect.rules =
      .ok fragment := lowered
  have bound : fragment.arguments = entries.map Argument.ofEntry := by
    rw [Statement.arguments_lower lowers]
    simp [Statement.arguments, Insert.ofEntries, exprArguments_typed]
  have encoded : Formatter.encodeArguments fragment.arguments =
      .ok (entries.map Argument.ofEntry) := by
    rw [bound]
    refine encodeArguments_eq_self fun argument member => ?_
    rcases List.mem_map.1 member with ⟨entry, there, rfl⟩
    exact fixed entry there
  have lexical : ∀ chunk ∈ fragment.chunks, chunk.isLexical = true := by
    rw [written]
    simp only [List.forall_mem_append]
    exact ⟨⟨⟨⟨by simp [Chunk.isLexical], Chunk.isLexical_intersperse (fun _ => rfl) _⟩,
      by simp [Chunk.isLexical]⟩, Chunk.isLexical_intersperse (fun _ => rfl) _⟩,
      by simp [Chunk.isLexical]⟩
  refine ⟨_, Formatter.format_eq_ok.2 ⟨fragment, lowers, _, encoded, rfl⟩, rfl, ?_⟩
  rw [Fragment.render, String.toList_ofList, Chunk.tokenize_write {} lexical, written]
  simp only [List.append_assoc, List.cons_append, List.nil_append, Chunk.lexemesFrom,
    Chunk.lexemesFrom_names, Chunk.lexemesFrom_arguments]
  simp [Lexeme.insertion, Chunk.lexemes, Chunk.argument?, Token.text, Token.isSign,
    Token.isOperator, Token.isPunctuation]

end SqlMapper
