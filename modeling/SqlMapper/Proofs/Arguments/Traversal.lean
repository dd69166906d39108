import SqlMapper.Proofs.Lowering.Success

/-!
# The arguments of a statement

This file lists the arguments of a statement by a walk over its tree alone, from left to right, and
shows that a lowered statement holds exactly these arguments in this order.

The walk knows nothing of chunks. It says in which order a reader meets the arguments: the select
list, the source, each join's source and then its condition, and so on down to the two bounds of
the page, whose order is the dialect's. Equality with the arguments of the fragment then says that
no arm of the lowering loses, repeats or moves one.
-/

namespace SqlMapper

/-- A page bound as an `INTEGER` argument. -/
def Page.boundArgument (bound : Nat) : Argument :=
  ⟨.integer (Int64.ofNat bound), .integer⟩

/-- The bounds of a page in the order in which a dialect writes them. -/
def Page.arguments (dialect : Dialect) (page : Page) : List Argument :=
  let offset := boundArgument page.bounds.1
  let limit := boundArgument page.bounds.2
  match dialect with
  | .mysql | .sqlServer => [offset, limit]
  | .generic | .sqlite | .postgresql => [limit, offset]

mutual

/-- The arguments of an expression. -/
def Expr.arguments (dialect : Dialect) : Expr → List Argument
  | .column _ => []
  | .argument argument => [argument]
  | .raw _ => []
  | .binary _ left right => left.arguments dialect ++ right.arguments dialect
  | .unary _ operand => operand.arguments dialect
  | .call _ arguments => exprArguments dialect arguments
  | .isNull operand _ => operand.arguments dialect
  | .inList operand elements _ => operand.arguments dialect ++ exprArguments dialect elements
  | .between operand low high _ =>
      operand.arguments dialect ++ low.arguments dialect ++ high.arguments dialect
  | .like operand pattern _ => operand.arguments dialect ++ pattern.arguments dialect
  | .subquery query => query.arguments dialect
  | .existsQuery query _ => query.arguments dialect

/-- The arguments of expressions, one after the other. -/
def exprArguments (dialect : Dialect) : List Expr → List Argument
  | [] => []
  | expr :: rest => expr.arguments dialect ++ exprArguments dialect rest

/-- The arguments of a condition that may be missing. -/
def conditionArguments (dialect : Dialect) : Option Expr → List Argument
  | none => []
  | some condition => condition.arguments dialect

/-- The arguments of a select list. -/
def projectionArguments (dialect : Dialect) : List Projection → List Argument
  | [] => []
  | ⟨expr, _⟩ :: rest => expr.arguments dialect ++ projectionArguments dialect rest

/-- The arguments of a source. -/
def Source.arguments (dialect : Dialect) : Source → List Argument
  | .table _ => []
  | .query query _ => query.arguments dialect

/-- The arguments of a first source that may be missing. -/
def sourceArguments (dialect : Dialect) : Option Source → List Argument
  | none => []
  | some source => source.arguments dialect

/-- The arguments of joins: for each its source, then its condition. -/
def joinArguments (dialect : Dialect) : List Join → List Argument
  | [] => []
  | ⟨_, source, condition⟩ :: rest =>
      source.arguments dialect ++ conditionArguments dialect condition ++
        joinArguments dialect rest

/-- The arguments of the terms of an order. -/
def orderArguments (dialect : Dialect) : List OrderTerm → List Argument
  | [] => []
  | ⟨expr, _, _⟩ :: rest => expr.arguments dialect ++ orderArguments dialect rest

/-- The arguments of a query, clause by clause. -/
def Select.arguments (dialect : Dialect) : Select → List Argument
  | { distinct := _, projections, source, joins, filter, groupBy, having, orderBy, page } =>
      projectionArguments dialect projections ++ sourceArguments dialect source ++
        joinArguments dialect joins ++ conditionArguments dialect filter ++
        exprArguments dialect groupBy ++ conditionArguments dialect having ++
        orderArguments dialect orderBy ++ page.elim [] (Page.arguments dialect)

end

/-- The arguments of a statement. -/
def Statement.arguments (dialect : Dialect) : Statement → List Argument
  | .select query => query.arguments dialect
  | .insert insertion => insertion.rows.flatMap (exprArguments dialect)
  | .update change =>
      exprArguments dialect (change.assignments.map Assignment.value) ++
        conditionArguments dialect change.filter
  | .delete removal => conditionArguments dialect removal.filter

namespace Fragment

@[simp]
theorem arguments_empty : empty.arguments = [] := rfl

@[simp]
theorem arguments_ofToken (token : Token) : (ofToken token).arguments = [] := rfl

@[simp]
theorem arguments_ofName (name : String) : (ofName name).arguments = [] := rfl

@[simp]
theorem arguments_ofArgument (argument : Argument) :
    (ofArgument argument).arguments = [argument] := rfl

@[simp]
theorem arguments_named (fragment : Fragment) (name : String) :
    (fragment.named name).arguments = fragment.arguments := by
  simp [arguments, List.filterMap_cons, Chunk.argument?]

@[simp]
theorem arguments_parenthesized (fragment : Fragment) :
    fragment.parenthesized.arguments = fragment.arguments := by
  simp [arguments, List.filterMap_cons, Chunk.argument?]

@[simp]
theorem arguments_called (function : String) (fragment : Fragment) :
    (called function fragment).arguments = fragment.arguments := by
  simp [arguments, List.filterMap_cons, Chunk.argument?]

@[simp]
theorem arguments_parenthesizedIf (needed : Bool) (fragment : Fragment) :
    (parenthesizedIf needed fragment).arguments = fragment.arguments := by
  cases needed <;> simp [parenthesizedIf]

@[simp]
theorem arguments_negation (negated : Bool) : (negation negated).arguments = [] := by
  cases negated <;> rfl

@[simp]
theorem arguments_clauseOf (keywords : List Token) (body : Fragment) :
    (clauseOf keywords body).arguments = body.arguments := by
  simp [clauseOf, arguments, List.filterMap_cons, Chunk.argument?, Function.comp_def]

@[simp]
theorem arguments_nullsKeywords (nulls : Option NullsOrder) :
    (nullsKeywords nulls).arguments = [] := by
  rcases nulls with _ | _ | _ <;> rfl

@[simp]
theorem arguments_table (table : Table) : table.lower.arguments = [] := by
  rcases table with ⟨name, _ | aliasName, columns, key⟩ <;> rfl

/-- Separators bring no arguments of their own. -/
@[simp]
theorem arguments_join (separator : Token) (fragments : List Fragment) :
    (join separator fragments).arguments = fragments.flatMap arguments := by
  induction fragments with
  | nil => rfl
  | cons first rest ih =>
      cases rest with
      | nil => simp [join]
      | cons second others =>
          rw [join, arguments_append, ih]
          · simp [arguments, List.filterMap_cons, Chunk.argument?]
          · simp

@[simp]
theorem arguments_commaSeparated (fragments : List Fragment) :
    (commaSeparated fragments).arguments = fragments.flatMap arguments :=
  arguments_join .comma fragments

end Fragment

open Value in
/-- A page bound that fits becomes its argument. -/
theorem countArgument_eq_ok {name : String} {count : Nat} {argument : Argument}
    (fits : countArgument name count = .ok argument) : argument = Page.boundArgument count := by
  unfold countArgument at fits
  split at fits
  · exact (Except.ok.inj fits).symm
  · cases fits

/-- The chunk that a part of a page clause becomes. -/
def PagePart.chunk (offset limit : Nat) : PagePart → Chunk
  | .token fixed => .token fixed
  | .offset => .argument (Page.boundArgument offset)
  | .limit => .argument (Page.boundArgument limit)

/-- A page clause has one chunk for each of its parts. -/
theorem chunks_pageClause {parts : List PagePart} {offset limit : Nat} {fragment : Fragment}
    (clause : pageClause parts offset limit = .ok fragment) :
    fragment.chunks = parts.map (PagePart.chunk offset limit) := by
  induction parts generalizing fragment with
  | nil =>
      rw [← Except.ok.inj clause]
      rfl
  | cons part rest ih =>
      cases part with
      | token token =>
          simp only [pageClause, bind_eq_ok, pure_eq_ok] at clause
          rcases clause with ⟨body, bodyClause, rfl⟩
          simp [ih bodyClause, PagePart.chunk]
      | offset =>
          simp only [pageClause, bind_eq_ok, pure_eq_ok] at clause
          rcases clause with ⟨argument, fits, body, bodyClause, rfl⟩
          simp [ih bodyClause, countArgument_eq_ok fits, PagePart.chunk]
      | limit =>
          simp only [pageClause, bind_eq_ok, pure_eq_ok] at clause
          rcases clause with ⟨argument, fits, body, bodyClause, rfl⟩
          simp [ih bodyClause, countArgument_eq_ok fits, PagePart.chunk]

/-- A page clause binds its bounds where its parts name them. -/
theorem arguments_pageClause {parts : List PagePart} {offset limit : Nat} {fragment : Fragment}
    (clause : pageClause parts offset limit = .ok fragment) :
    fragment.arguments = parts.filterMap fun
      | .token _ => none
      | .offset => some (Page.boundArgument offset)
      | .limit => some (Page.boundArgument limit) := by
  rw [Fragment.arguments, chunks_pageClause clause, List.filterMap_map]
  congr 1
  funext part
  cases part <;> rfl

/-- A lowered page binds the two bounds in the dialect's order. -/
theorem arguments_lowerPage {dialect : Dialect} {ordered : Bool} {page : Option Page}
    {fragment : Fragment} (lowered : lowerPage dialect.rules ordered page = .ok fragment) :
    fragment.arguments = page.elim [] (Page.arguments dialect) := by
  cases page with
  | none =>
      rw [lowerPage_none_eq_ok] at lowered
      rw [← lowered]
      rfl
  | some page =>
      rw [lowerPage_some_eq_ok] at lowered
      rcases lowered with ⟨_, body, clause, _, rfl⟩
      rw [Fragment.arguments_clauseOf, arguments_pageClause clause]
      cases dialect <;> rfl

mutual

/-- A lowered expression holds the arguments of its tree. -/
theorem Expr.arguments_lower {dialect : Dialect} (expr : Expr) {fragment : Fragment}
    (lowered : expr.lower dialect.rules = .ok fragment) :
    fragment.arguments = expr.arguments dialect := by
  cases expr with
  | column column =>
      rw [Expr.lower_column_eq_ok] at lowered
      rw [← lowered]
      rfl
  | argument argument =>
      rw [Expr.lower_argument_eq_ok] at lowered
      rw [← lowered]
      rfl
  | raw text =>
      rw [Expr.lower_raw_eq_ok] at lowered
      rw [← lowered]
      rfl
  | binary operator left right =>
      rw [Expr.lower_binary_eq_ok] at lowered
      rcases lowered with ⟨leftFragment, leftLowered, rightFragment, rightLowered, rfl⟩
      have leftArguments := Expr.arguments_lower left leftLowered
      have rightArguments := Expr.arguments_lower right rightLowered
      simp [Expr.arguments, leftArguments, rightArguments]
  | unary operator operand =>
      rw [Expr.lower_unary_eq_ok] at lowered
      rcases lowered with ⟨operandFragment, operandLowered, rfl⟩
      have operandArguments := Expr.arguments_lower operand operandLowered
      simp [Expr.arguments, operandArguments]
  | call function arguments =>
      rw [Expr.lower_call_eq_ok] at lowered
      rcases lowered with ⟨fragments, argumentsLowered, rfl⟩
      have callArguments := flatMap_arguments_lowerExprs arguments argumentsLowered
      simp [Expr.arguments, callArguments]
  | isNull operand negated =>
      rw [Expr.lower_isNull_eq_ok] at lowered
      rcases lowered with ⟨operandFragment, operandLowered, rfl⟩
      have operandArguments := Expr.arguments_lower operand operandLowered
      simp [Expr.arguments, operandArguments]
  | inList operand elements negated =>
      rw [Expr.lower_inList_eq_ok] at lowered
      rcases lowered with ⟨_, operandFragment, operandLowered, fragments, elementsLowered, rfl⟩
      have operandArguments := Expr.arguments_lower operand operandLowered
      have elementArguments := flatMap_arguments_lowerExprs elements elementsLowered
      simp [Expr.arguments, operandArguments, elementArguments]
  | between operand low high negated =>
      rw [Expr.lower_between_eq_ok] at lowered
      rcases lowered with
        ⟨operandFragment, operandLowered, lowFragment, lowLowered, highFragment, highLowered, rfl⟩
      have operandArguments := Expr.arguments_lower operand operandLowered
      have lowArguments := Expr.arguments_lower low lowLowered
      have highArguments := Expr.arguments_lower high highLowered
      simp [Expr.arguments, operandArguments, lowArguments, highArguments]
  | like operand pattern negated =>
      rw [Expr.lower_like_eq_ok] at lowered
      rcases lowered with ⟨operandFragment, operandLowered, patternFragment, patternLowered, rfl⟩
      have operandArguments := Expr.arguments_lower operand operandLowered
      have patternArguments := Expr.arguments_lower pattern patternLowered
      simp [Expr.arguments, operandArguments, patternArguments]
  | subquery query =>
      rw [Expr.lower_subquery_eq_ok] at lowered
      rcases lowered with ⟨queryFragment, queryLowered, rfl⟩
      have queryArguments := Select.arguments_lower query queryLowered
      simp [Expr.arguments, queryArguments]
  | existsQuery query negated =>
      rw [Expr.lower_existsQuery_eq_ok] at lowered
      rcases lowered with ⟨queryFragment, queryLowered, rfl⟩
      have queryArguments := Select.arguments_lower query queryLowered
      simp [Expr.arguments, queryArguments]

theorem flatMap_arguments_lowerExprs {dialect : Dialect} (exprs : List Expr)
    {fragments : List Fragment} (lowered : lowerExprs dialect.rules exprs = .ok fragments) :
    fragments.flatMap Fragment.arguments = exprArguments dialect exprs := by
  cases exprs with
  | nil =>
      rw [lowerExprs_nil_eq_ok] at lowered
      rw [← lowered]
      rfl
  | cons expr rest =>
      rw [lowerExprs_cons_eq_ok] at lowered
      rcases lowered with ⟨first, firstLowered, others, othersLowered, rfl⟩
      have firstArguments := Expr.arguments_lower expr firstLowered
      have otherArguments := flatMap_arguments_lowerExprs rest othersLowered
      simp [exprArguments, firstArguments, otherArguments]

theorem arguments_lowerCondition {dialect : Dialect} {keyword : Token} (condition : Option Expr)
    {fragment : Fragment}
    (lowered : lowerCondition dialect.rules keyword condition = .ok fragment) :
    fragment.arguments = conditionArguments dialect condition := by
  cases condition with
  | none =>
      rw [lowerCondition_none_eq_ok] at lowered
      rw [← lowered]
      rfl
  | some condition =>
      rw [lowerCondition_some_eq_ok] at lowered
      rcases lowered with ⟨body, bodyLowered, rfl⟩
      have bodyArguments := Expr.arguments_lower condition bodyLowered
      simp [conditionArguments, bodyArguments]

theorem flatMap_arguments_lowerProjections {dialect : Dialect} (projections : List Projection)
    {fragments : List Fragment}
    (lowered : lowerProjections dialect.rules projections = .ok fragments) :
    fragments.flatMap Fragment.arguments = projectionArguments dialect projections := by
  match projections with
  | [] =>
      rw [lowerProjections_nil_eq_ok] at lowered
      rw [← lowered]
      rfl
  | ⟨expr, label⟩ :: rest =>
      rw [lowerProjections_cons_eq_ok] at lowered
      rcases lowered with ⟨first, firstLowered, others, othersLowered, rfl⟩
      rw [Projection.lower_eq_ok] at firstLowered
      rcases firstLowered with ⟨body, bodyLowered, rfl⟩
      have bodyArguments := Expr.arguments_lower expr bodyLowered
      have otherArguments := flatMap_arguments_lowerProjections rest othersLowered
      cases label <;> simp [projectionArguments, bodyArguments, otherArguments]

theorem Source.arguments_lower {dialect : Dialect} (source : Source) {fragment : Fragment}
    (lowered : source.lower dialect.rules = .ok fragment) :
    fragment.arguments = source.arguments dialect := by
  cases source with
  | table table =>
      rw [Source.lower_table_eq_ok] at lowered
      rw [← lowered, Fragment.arguments_table]
      rfl
  | query query name =>
      rw [Source.lower_query_eq_ok] at lowered
      rcases lowered with ⟨body, bodyLowered, rfl⟩
      have bodyArguments := Select.arguments_lower query bodyLowered
      simp [Source.arguments, bodyArguments]

theorem arguments_lowerFrom {dialect : Dialect} (source : Option Source) {fragment : Fragment}
    (lowered : lowerFrom dialect.rules source = .ok fragment) :
    fragment.arguments = sourceArguments dialect source := by
  cases source with
  | none =>
      rw [lowerFrom_none_eq_ok] at lowered
      rw [← lowered]
      rfl
  | some source =>
      rw [lowerFrom_some_eq_ok] at lowered
      rcases lowered with ⟨body, bodyLowered, rfl⟩
      have bodyArguments := Source.arguments_lower source bodyLowered
      simp [sourceArguments, bodyArguments]

theorem arguments_lowerJoins {dialect : Dialect} (joins : List Join) {fragment : Fragment}
    (lowered : lowerJoins dialect.rules joins = .ok fragment) :
    fragment.arguments = joinArguments dialect joins := by
  match joins with
  | [] =>
      rw [lowerJoins_nil_eq_ok] at lowered
      rw [← lowered]
      rfl
  | ⟨kind, source, none⟩ :: rest =>
      rw [lowerJoins_cons_eq_ok] at lowered
      rcases lowered with ⟨first, firstLowered, others, othersLowered, rfl⟩
      rw [Join.lower_eq_ok] at firstLowered
      rcases firstLowered with ⟨_, body, bodyLowered, ⟨_, _, rfl⟩ | ⟨_, _, _, missing, _⟩⟩
      · have bodyArguments := Source.arguments_lower source bodyLowered
        have otherArguments := arguments_lowerJoins rest othersLowered
        simp [joinArguments, conditionArguments, bodyArguments, otherArguments]
      · cases missing
  | ⟨kind, source, some condition⟩ :: rest =>
      rw [lowerJoins_cons_eq_ok] at lowered
      rcases lowered with ⟨first, firstLowered, others, othersLowered, rfl⟩
      rw [Join.lower_eq_ok] at firstLowered
      rcases firstLowered with
        ⟨_, body, bodyLowered, ⟨_, excess, _⟩ | ⟨_, _, on, same, onLowered, rfl⟩⟩
      · cases excess
      · have bodyArguments := Source.arguments_lower source bodyLowered
        have otherArguments := arguments_lowerJoins rest othersLowered
        have onArguments := Expr.arguments_lower condition (Option.some.inj same ▸ onLowered)
        simp [joinArguments, conditionArguments, bodyArguments, otherArguments, onArguments]

theorem flatMap_arguments_lowerOrderTerms {dialect : Dialect} (terms : List OrderTerm)
    {fragments : List Fragment}
    (lowered : lowerOrderTerms dialect.rules terms = .ok fragments) :
    fragments.flatMap Fragment.arguments = orderArguments dialect terms := by
  match terms with
  | [] =>
      rw [lowerOrderTerms_nil_eq_ok] at lowered
      rw [← lowered]
      rfl
  | ⟨expr, direction, nulls⟩ :: rest =>
      rw [lowerOrderTerms_cons_eq_ok] at lowered
      rcases lowered with ⟨first, firstLowered, others, othersLowered, rfl⟩
      rw [OrderTerm.lower_eq_ok] at firstLowered
      rcases firstLowered with ⟨body, bodyLowered, rfl⟩
      have bodyArguments := Expr.arguments_lower expr bodyLowered
      have otherArguments := flatMap_arguments_lowerOrderTerms rest othersLowered
      simp [orderArguments, bodyArguments, otherArguments]

/-- A lowered query holds the arguments of its clauses. -/
theorem Select.arguments_lower {dialect : Dialect} (query : Select) {fragment : Fragment}
    (lowered : query.lower dialect.rules = .ok fragment) :
    fragment.arguments = query.arguments dialect := by
  match query with
  | ⟨distinct, projections, source, joins, filter, groupBy, having, orderBy, page⟩ =>
      rw [Select.lower_eq_ok] at lowered
      dsimp only at lowered
      rcases lowered with ⟨items, itemsLowered, sourceClause, sourceLowered, joinClauses,
        joinsLowered, filterClause, filterLowered, groups, groupsLowered, havingClause,
        havingLowered, terms, termsLowered, pageClause, pageLowered, rfl⟩
      have itemArguments := flatMap_arguments_lowerProjections projections itemsLowered
      have sourceHeld := arguments_lowerFrom source sourceLowered
      have joinsHeld := arguments_lowerJoins joins joinsLowered
      have filterHeld := arguments_lowerCondition filter filterLowered
      have groupArguments := flatMap_arguments_lowerExprs groupBy groupsLowered
      have havingHeld := arguments_lowerCondition having havingLowered
      have termArguments := flatMap_arguments_lowerOrderTerms orderBy termsLowered
      have pageHeld := arguments_lowerPage pageLowered
      -- An empty list brings no clause, and an empty select list a star: neither has arguments.
      have listed : (if projections.isEmpty then Fragment.ofToken .star
          else commaSeparated items).arguments = projectionArguments dialect projections := by
        cases projections with
        | nil => rfl
        | cons projection rest => simpa using itemArguments
      have grouped : (if groupBy.isEmpty then Fragment.empty
          else clauseOf [.group, .by] (commaSeparated groups)).arguments =
            exprArguments dialect groupBy := by
        cases groupBy with
        | nil => rfl
        | cons expr rest => simpa using groupArguments
      have ordered : (if orderBy.isEmpty then Fragment.empty
          else clauseOf [.order, .by] (commaSeparated terms)).arguments =
            orderArguments dialect orderBy := by
        cases orderBy with
        | nil => rfl
        | cons term rest => simpa using termArguments
      have marked : (if distinct then Fragment.ofToken .distinct
          else Fragment.empty).arguments = [] := by
        cases distinct <;> rfl
      simp only [Select.arguments, Fragment.arguments_append, Fragment.arguments_ofToken,
        List.nil_append, listed, grouped, ordered, marked, sourceHeld, joinsHeld, filterHeld,
        havingHeld, pageHeld]

end

/-- The rows of an `INSERT` hold their arguments row by row. -/
theorem flatMap_arguments_lowerRows {dialect : Dialect} {width index : Nat}
    {rows : List (List Expr)} {fragments : List Fragment}
    (lowered : lowerRows dialect.rules width index rows = .ok fragments) :
    fragments.flatMap Fragment.arguments = rows.flatMap (exprArguments dialect) := by
  induction rows generalizing index fragments with
  | nil =>
      rw [lowerRows_nil_eq_ok] at lowered
      rw [← lowered]
      rfl
  | cons row rest ih =>
      rw [lowerRows_cons_eq_ok] at lowered
      rcases lowered with ⟨_, values, valuesLowered, others, othersLowered, rfl⟩
      have rowArguments := flatMap_arguments_lowerExprs row valuesLowered
      simp [rowArguments, ih othersLowered]

theorem flatMap_arguments_lowerAssignments {dialect : Dialect} {assignments : List Assignment}
    {fragments : List Fragment}
    (lowered : lowerAssignments dialect.rules assignments = .ok fragments) :
    fragments.flatMap Fragment.arguments =
      exprArguments dialect (assignments.map Assignment.value) := by
  induction assignments generalizing fragments with
  | nil =>
      rw [lowerAssignments_nil_eq_ok] at lowered
      rw [← lowered]
      rfl
  | cons assignment rest ih =>
      rw [lowerAssignments_cons_eq_ok] at lowered
      rcases lowered with ⟨value, valueLowered, others, othersLowered, rfl⟩
      have valueArguments := Expr.arguments_lower assignment.value valueLowered
      simp [exprArguments, valueArguments, ih othersLowered]

/-- A lowered statement holds the arguments of its tree. -/
theorem Statement.arguments_lower {dialect : Dialect} {statement : Statement}
    {fragment : Fragment} (lowered : statement.lower dialect.rules = .ok fragment) :
    fragment.arguments = statement.arguments dialect := by
  cases statement with
  | select query => exact query.arguments_lower lowered
  | insert insertion =>
      rw [Statement.lower, Insert.lower_eq_ok] at lowered
      rcases lowered with ⟨_, _, rows, rowsLowered, rfl⟩
      have rowArguments := flatMap_arguments_lowerRows rowsLowered
      have names : (insertion.columns.map fun column =>
          Fragment.ofName column.name).flatMap Fragment.arguments = [] := by
        simp [List.flatMap_map]
      simp [Statement.arguments, rowArguments, names]
  | update change =>
      rw [Statement.lower, Update.lower_eq_ok] at lowered
      rcases lowered with ⟨_, assignments, assignmentsLowered, filterClause, filterLowered, rfl⟩
      have assigned := flatMap_arguments_lowerAssignments assignmentsLowered
      have filterHeld := arguments_lowerCondition change.filter filterLowered
      simp [Statement.arguments, assigned, filterHeld]
  | delete removal =>
      rw [Statement.lower, Delete.lower_eq_ok] at lowered
      rcases lowered with ⟨filterClause, filterLowered, rfl⟩
      have filterHeld := arguments_lowerCondition removal.filter filterLowered
      simp [Statement.arguments, filterHeld]

end SqlMapper
