import SqlMapper.Proofs.Arguments.Traversal
import SqlMapper.Proofs.Grammar.Nesting
import SqlMapper.Proofs.Rendering.Boundaries

/-!
# The clauses of a statement

This file lists the clauses of a statement by a walk over its tree alone, each with its keyword and
the number of nesting levels around it, and shows that a lowered statement has exactly these clause
boundaries at these depths.

The walk says where a level stands: around an operand in parentheses, the arguments of a call, the
elements of a list, a row, and every query within another statement. A query's own clauses have no
level of that query around them, and the clauses of every query inside it have one. So the clauses
of one query all start in the same column of a beautified text. As a lowered statement is well
bracketed as well, the depth that rendering keeps is always the number of levels open.
-/

namespace SqlMapper

/-- The keyword that a dialect's page clause starts with. -/
def Dialect.pageKeyword : Dialect → Token
  | .sqlServer => .offset
  | .generic | .sqlite | .postgresql | .mysql => .limit

open Clause

mutual

/-- The clauses of the queries in an expression. -/
def Expr.clauses (dialect : Dialect) : Expr → List Clause
  | .column _ => []
  | .argument _ => []
  | .raw _ => []
  | .binary operator left right =>
      enclosedIf (left.needsParens operator .left) (left.clauses dialect) ++
        enclosedIf (right.needsParens operator .right) (right.clauses dialect)
  | .unary _ operand => enclosedIf operand.isBinary (operand.clauses dialect)
  | .call _ arguments => enclosed (exprClauses dialect arguments)
  | .isNull operand _ => enclosedIf operand.isBinary (operand.clauses dialect)
  | .inList operand elements _ =>
      enclosedIf operand.isBinary (operand.clauses dialect) ++
        enclosed (exprClauses dialect elements)
  | .between operand low high _ =>
      enclosedIf operand.isBinary (operand.clauses dialect) ++
        enclosedIf low.isBinary (low.clauses dialect) ++
        enclosedIf high.isBinary (high.clauses dialect)
  | .like operand pattern _ =>
      enclosedIf operand.isBinary (operand.clauses dialect) ++
        enclosedIf pattern.isBinary (pattern.clauses dialect)
  | .subquery query => enclosed (query.clauses dialect)
  | .existsQuery query _ => enclosed (query.clauses dialect)

/-- The clauses of the queries in expressions, one after the other. -/
def exprClauses (dialect : Dialect) : List Expr → List Clause
  | [] => []
  | expr :: rest => expr.clauses dialect ++ exprClauses dialect rest

/-- The clauses of the queries in a condition that may be missing. -/
def conditionClauses (dialect : Dialect) : Option Expr → List Clause
  | none => []
  | some condition => condition.clauses dialect

/-- The clauses of the queries in a select list. -/
def projectionClauses (dialect : Dialect) : List Projection → List Clause
  | [] => []
  | ⟨expr, _⟩ :: rest => expr.clauses dialect ++ projectionClauses dialect rest

/-- The clauses of the query that is a source. -/
def Source.clauses (dialect : Dialect) : Source → List Clause
  | .table _ => []
  | .query query _ => enclosed (query.clauses dialect)

/-- The clauses of the query that is a first source, which may be missing. -/
def sourceClauses (dialect : Dialect) : Option Source → List Clause
  | none => []
  | some source => source.clauses dialect

/-- The clauses of joins, each with the queries in its source and its condition. -/
def joinClauses (dialect : Dialect) : List Join → List Clause
  | [] => []
  | ⟨kind, source, condition⟩ :: rest =>
      own true kind.token ++ source.clauses dialect ++ conditionClauses dialect condition ++
        joinClauses dialect rest

/-- The clauses of the queries in the terms of an order. -/
def orderClauses (dialect : Dialect) : List OrderTerm → List Clause
  | [] => []
  | ⟨expr, _, _⟩ :: rest => expr.clauses dialect ++ orderClauses dialect rest

/-- The clauses of a query, each with the queries in it. -/
def Select.clauses (dialect : Dialect) : Select → List Clause
  | { distinct := _, projections, source, joins, filter, groupBy, having, orderBy, page } =>
      projectionClauses dialect projections ++
        (own source.isSome .from ++ sourceClauses dialect source) ++ joinClauses dialect joins ++
        (own filter.isSome .where ++ conditionClauses dialect filter) ++
        (own (!groupBy.isEmpty) .group ++ exprClauses dialect groupBy) ++
        (own having.isSome .having ++ conditionClauses dialect having) ++
        (own (!orderBy.isEmpty) .order ++ orderClauses dialect orderBy) ++
        own page.isSome dialect.pageKeyword

end

/-- The clauses of a statement, each with the queries in it. -/
def Statement.clauses (dialect : Dialect) : Statement → List Clause
  | .select query => query.clauses dialect
  | .insert insertion =>
      own true .values ++ insertion.rows.flatMap fun row => enclosed (exprClauses dialect row)
  | .update change =>
      own true .set ++ exprClauses dialect (change.assignments.map Assignment.value) ++
        (own change.filter.isSome .where ++ conditionClauses dialect change.filter)
  | .delete removal =>
      own removal.filter.isSome .where ++ conditionClauses dialect removal.filter

/-- The clauses of a query without those of the queries in it. -/
def Select.ownClauses (dialect : Dialect) (query : Select) : List Clause :=
  own query.source.isSome .from ++ query.joins.flatMap (fun join => own true join.kind.token) ++
    own query.filter.isSome .where ++ own (!query.groupBy.isEmpty) .group ++
    own query.having.isSome .having ++ own (!query.orderBy.isEmpty) .order ++
    own query.page.isSome dialect.pageKeyword

/-- The clauses of a statement without those of the queries in it. -/
def Statement.ownClauses (dialect : Dialect) : Statement → List Clause
  | .select query => query.ownClauses dialect
  | .insert _ => own true .values
  | .update change => own true .set ++ own change.filter.isSome .where
  | .delete removal => own removal.filter.isSome .where

section Lowering

variable {dialect : Dialect}

open Fragment

/-- A lowered page is one clause, which starts with the dialect's keyword. -/
theorem hasClauses_lowerPage {ordered : Bool} {page : Option Page} {fragment : Fragment}
    (lowered : lowerPage dialect.rules ordered page = .ok fragment) :
    fragment.HasClauses (own page.isSome dialect.pageKeyword) := by
  cases page with
  | none =>
      rw [lowerPage_none_eq_ok] at lowered
      rw [← lowered]
      exact HasClauses.empty
  | some page =>
      rw [lowerPage_some_eq_ok] at lowered
      rcases lowered with ⟨_, ⟨chunks⟩, clause, _, rfl⟩
      have parts : chunks = dialect.pageParts.map (PagePart.chunk page.bounds.1 page.bounds.2) :=
        chunks_pageClause clause
      subst parts
      cases dialect <;> exact HasClauses.clause fun _ _ => rfl

mutual

/-- A lowered expression has the clauses of its tree. -/
theorem Expr.hasClauses_lower (expr : Expr) {fragment : Fragment}
    (lowered : expr.lower dialect.rules = .ok fragment) :
    fragment.HasClauses (expr.clauses dialect) := by
  cases expr with
  | column column =>
      rw [Expr.lower_column_eq_ok] at lowered
      rw [← lowered]
      exact HasClauses.ofChunk (by simp) rfl rfl
  | argument argument =>
      rw [Expr.lower_argument_eq_ok] at lowered
      rw [← lowered]
      exact HasClauses.ofChunk (by simp) rfl rfl
  | raw text =>
      rw [Expr.lower_raw_eq_ok] at lowered
      rw [← lowered]
      exact HasClauses.ofChunk (by simp) rfl rfl
  | binary operator left right =>
      rw [Expr.lower_binary_eq_ok] at lowered
      rcases lowered with ⟨leftFragment, leftLowered, rightFragment, rightLowered, rfl⟩
      have leftHas := Expr.hasClauses_lower left leftLowered
      have rightHas := Expr.hasClauses_lower right rightLowered
      have sign : HasClauses (.ofToken operator.token) [] :=
        .ofToken _ (by cases operator <;> decide)
      exact ((leftHas.parenthesizedIf _).append_plain sign).append (rightHas.parenthesizedIf _)
  | unary operator operand =>
      rw [Expr.lower_unary_eq_ok] at lowered
      rcases lowered with ⟨operandFragment, operandLowered, rfl⟩
      have operandHas := Expr.hasClauses_lower operand operandLowered
      have sign : HasClauses (.ofToken operator.token) [] :=
        .ofToken _ (by cases operator <;> decide)
      exact sign.plain_append (operandHas.parenthesizedIf _)
  | call function arguments =>
      rw [Expr.lower_call_eq_ok] at lowered
      rcases lowered with ⟨fragments, argumentsLowered, rfl⟩
      exact (hasClauses_lowerExprs arguments argumentsLowered).called function
  | isNull operand negated =>
      rw [Expr.lower_isNull_eq_ok] at lowered
      rcases lowered with ⟨operandFragment, operandLowered, rfl⟩
      have operandHas := Expr.hasClauses_lower operand operandLowered
      have tested := (operandHas.parenthesizedIf operand.isBinary).append_plain
        (.ofToken .is (by decide))
      exact (tested.append_plain (.negation negated)).append_plain (.ofToken .null (by decide))
  | inList operand elements negated =>
      rw [Expr.lower_inList_eq_ok] at lowered
      rcases lowered with ⟨_, operandFragment, operandLowered, fragments, elementsLowered, rfl⟩
      have operandHas := Expr.hasClauses_lower operand operandLowered
      have elementsHave := hasClauses_lowerExprs elements elementsLowered
      have tested := (operandHas.parenthesizedIf operand.isBinary).append_plain
        (.negation negated)
      exact (tested.append_plain (.ofToken .in (by decide))).append elementsHave.parenthesized
  | between operand low high negated =>
      rw [Expr.lower_between_eq_ok] at lowered
      rcases lowered with
        ⟨operandFragment, operandLowered, lowFragment, lowLowered, highFragment, highLowered, rfl⟩
      have operandHas := Expr.hasClauses_lower operand operandLowered
      have lowHas := Expr.hasClauses_lower low lowLowered
      have highHas := Expr.hasClauses_lower high highLowered
      have tested := (operandHas.parenthesizedIf operand.isBinary).append_plain
        (.negation negated)
      have headed := tested.append_plain (.ofToken .between (by decide))
      have bounded := (headed.append (lowHas.parenthesizedIf low.isBinary)).append_plain
        (.ofToken .and (by decide))
      exact bounded.append (highHas.parenthesizedIf high.isBinary)
  | like operand pattern negated =>
      rw [Expr.lower_like_eq_ok] at lowered
      rcases lowered with ⟨operandFragment, operandLowered, patternFragment, patternLowered, rfl⟩
      have operandHas := Expr.hasClauses_lower operand operandLowered
      have patternHas := Expr.hasClauses_lower pattern patternLowered
      have tested := (operandHas.parenthesizedIf operand.isBinary).append_plain
        (.negation negated)
      exact (tested.append_plain (.ofToken .like (by decide))).append
        (patternHas.parenthesizedIf pattern.isBinary)
  | subquery query =>
      rw [Expr.lower_subquery_eq_ok] at lowered
      rcases lowered with ⟨queryFragment, queryLowered, rfl⟩
      exact (Select.hasClauses_lower query queryLowered).parenthesized
  | existsQuery query negated =>
      rw [Expr.lower_existsQuery_eq_ok] at lowered
      rcases lowered with ⟨queryFragment, queryLowered, rfl⟩
      have keywords := (HasClauses.negation negated).append_plain (.ofToken .exists (by decide))
      exact keywords.plain_append (Select.hasClauses_lower query queryLowered).parenthesized

theorem hasClauses_lowerExprs (exprs : List Expr) {fragments : List Fragment}
    (lowered : lowerExprs dialect.rules exprs = .ok fragments) :
    (commaSeparated fragments).HasClauses (exprClauses dialect exprs) := by
  cases exprs with
  | nil =>
      rw [lowerExprs_nil_eq_ok] at lowered
      rw [← lowered]
      exact HasClauses.empty
  | cons expr rest =>
      rw [lowerExprs_cons_eq_ok] at lowered
      rcases lowered with ⟨first, firstLowered, others, othersLowered, rfl⟩
      have firstHas := Expr.hasClauses_lower expr firstLowered
      exact firstHas.commaSeparated_cons (hasClauses_lowerExprs rest othersLowered)

theorem hasClauses_lowerCondition (keyword : Token)
    (flat : keyword ≠ .openParen ∧ keyword ≠ .closeParen) (condition : Option Expr)
    {fragment : Fragment}
    (lowered : lowerCondition dialect.rules keyword condition = .ok fragment) :
    fragment.HasClauses (own condition.isSome keyword ++ conditionClauses dialect condition) := by
  cases condition with
  | none =>
      rw [lowerCondition_none_eq_ok] at lowered
      rw [← lowered]
      exact HasClauses.empty
  | some condition =>
      rw [lowerCondition_some_eq_ok] at lowered
      rcases lowered with ⟨body, bodyLowered, rfl⟩
      have bodyHas := Expr.hasClauses_lower condition bodyLowered
      exact bodyHas.clauseOf keyword [] (by simpa using flat)

theorem hasClauses_lowerProjections (projections : List Projection) {fragments : List Fragment}
    (lowered : lowerProjections dialect.rules projections = .ok fragments) :
    (commaSeparated fragments).HasClauses (projectionClauses dialect projections) := by
  match projections with
  | [] =>
      rw [lowerProjections_nil_eq_ok] at lowered
      rw [← lowered]
      exact HasClauses.empty
  | ⟨expr, label⟩ :: rest =>
      rw [lowerProjections_cons_eq_ok] at lowered
      rcases lowered with ⟨first, firstLowered, others, othersLowered, rfl⟩
      rw [Projection.lower_eq_ok] at firstLowered
      rcases firstLowered with ⟨body, bodyLowered, rfl⟩
      have bodyHas := Expr.hasClauses_lower expr bodyLowered
      have labeled : HasClauses (label.elim body body.named) (expr.clauses dialect) := by
        cases label with
        | none => exact bodyHas
        | some name => exact bodyHas.named
      exact labeled.commaSeparated_cons (hasClauses_lowerProjections rest othersLowered)

theorem Source.hasClauses_lower (source : Source) {fragment : Fragment}
    (lowered : source.lower dialect.rules = .ok fragment) :
    fragment.HasClauses (source.clauses dialect) := by
  cases source with
  | table table =>
      rw [Source.lower_table_eq_ok] at lowered
      rw [← lowered]
      exact HasClauses.table table
  | query query name =>
      rw [Source.lower_query_eq_ok] at lowered
      rcases lowered with ⟨body, bodyLowered, rfl⟩
      exact (Select.hasClauses_lower query bodyLowered).parenthesized.named

theorem hasClauses_lowerFrom (source : Option Source) {fragment : Fragment}
    (lowered : lowerFrom dialect.rules source = .ok fragment) :
    fragment.HasClauses (own source.isSome .from ++ sourceClauses dialect source) := by
  cases source with
  | none =>
      rw [lowerFrom_none_eq_ok] at lowered
      rw [← lowered]
      exact HasClauses.empty
  | some source =>
      rw [lowerFrom_some_eq_ok] at lowered
      rcases lowered with ⟨body, bodyLowered, rfl⟩
      have bodyHas := Source.hasClauses_lower source bodyLowered
      exact bodyHas.clauseOf .from [] (by decide)

theorem hasClauses_lowerJoins (joins : List Join) {fragment : Fragment}
    (lowered : lowerJoins dialect.rules joins = .ok fragment) :
    fragment.HasClauses (joinClauses dialect joins) := by
  match joins with
  | [] =>
      rw [lowerJoins_nil_eq_ok] at lowered
      rw [← lowered]
      exact HasClauses.empty
  | ⟨kind, source, none⟩ :: rest =>
      rw [lowerJoins_cons_eq_ok] at lowered
      rcases lowered with ⟨first, firstLowered, others, othersLowered, rfl⟩
      rw [Join.lower_eq_ok] at firstLowered
      rcases firstLowered with ⟨_, body, bodyLowered, ⟨_, _, rfl⟩ | ⟨_, _, _, missing, _⟩⟩
      · have bodyHas := Source.hasClauses_lower source bodyLowered
        have head := bodyHas.clauseOf kind.token [.join] (by cases kind <;> decide)
        simpa [joinClauses, conditionClauses] using
          head.append (hasClauses_lowerJoins rest othersLowered)
      · cases missing
  | ⟨kind, source, some condition⟩ :: rest =>
      rw [lowerJoins_cons_eq_ok] at lowered
      rcases lowered with ⟨first, firstLowered, others, othersLowered, rfl⟩
      rw [Join.lower_eq_ok] at firstLowered
      rcases firstLowered with
        ⟨_, body, bodyLowered, ⟨_, excess, _⟩ | ⟨_, _, on, same, onLowered, rfl⟩⟩
      · cases excess
      · have bodyHas := Source.hasClauses_lower source bodyLowered
        have onHas := Expr.hasClauses_lower condition (Option.some.inj same ▸ onLowered)
        have head := bodyHas.clauseOf kind.token [.join] (by cases kind <;> decide)
        have whole := (head.append_plain (.ofToken .on (by decide))).append onHas
        exact whole.append (hasClauses_lowerJoins rest othersLowered)

theorem hasClauses_lowerOrderTerms (terms : List OrderTerm) {fragments : List Fragment}
    (lowered : lowerOrderTerms dialect.rules terms = .ok fragments) :
    (commaSeparated fragments).HasClauses (orderClauses dialect terms) := by
  match terms with
  | [] =>
      rw [lowerOrderTerms_nil_eq_ok] at lowered
      rw [← lowered]
      exact HasClauses.empty
  | ⟨expr, direction, nulls⟩ :: rest =>
      rw [lowerOrderTerms_cons_eq_ok] at lowered
      rcases lowered with ⟨first, firstLowered, others, othersLowered, rfl⟩
      rw [OrderTerm.lower_eq_ok] at firstLowered
      rcases firstLowered with ⟨body, bodyLowered, rfl⟩
      have bodyHas := Expr.hasClauses_lower expr bodyLowered
      have directed := bodyHas.append_plain
        (.ofToken direction.token (by cases direction <;> decide))
      exact (directed.append_plain (.nullsKeywords nulls)).commaSeparated_cons
        (hasClauses_lowerOrderTerms rest othersLowered)

/-- A lowered query has the clauses of its tree. -/
theorem Select.hasClauses_lower (query : Select) {fragment : Fragment}
    (lowered : query.lower dialect.rules = .ok fragment) :
    fragment.HasClauses (query.clauses dialect) := by
  match query with
  | ⟨distinct, projections, source, joins, filter, groupBy, having, orderBy, page⟩ =>
      rw [Select.lower_eq_ok] at lowered
      dsimp only at lowered
      rcases lowered with ⟨items, itemsLowered, sourceClause, sourceLowered, joinClauses,
        joinsLowered, filterClause, filterLowered, groups, groupsLowered, havingClause,
        havingLowered, terms, termsLowered, pageClause, pageLowered, rfl⟩
      have itemsHave := hasClauses_lowerProjections projections itemsLowered
      have sourceHas := hasClauses_lowerFrom source sourceLowered
      have joinsHave := hasClauses_lowerJoins joins joinsLowered
      have filterHas := hasClauses_lowerCondition .where (by decide) filter filterLowered
      have groupsHave := hasClauses_lowerExprs groupBy groupsLowered
      have havingHas := hasClauses_lowerCondition .having (by decide) having havingLowered
      have termsHave := hasClauses_lowerOrderTerms orderBy termsLowered
      have pageHas := hasClauses_lowerPage pageLowered
      have marked : HasClauses (if distinct then .ofToken .distinct else .empty) [] := by
        split
        · exact .ofToken .distinct (by decide)
        · exact .empty
      -- An empty list brings no clause, and an empty select list a star.
      have listed : HasClauses (if projections.isEmpty then .ofToken .star
          else commaSeparated items) (projectionClauses dialect projections) := by
        cases projections with
        | nil => exact .ofToken .star (by decide)
        | cons projection rest => exact itemsHave
      have grouped : HasClauses (if groupBy.isEmpty then .empty
          else clauseOf [.group, .by] (commaSeparated groups))
          (own (!groupBy.isEmpty) .group ++ exprClauses dialect groupBy) := by
        cases groupBy with
        | nil => exact .empty
        | cons expr rest => exact groupsHave.clauseOf .group [.by] (by decide)
      have ordered : HasClauses (if orderBy.isEmpty then .empty
          else clauseOf [.order, .by] (commaSeparated terms))
          (own (!orderBy.isEmpty) .order ++ orderClauses dialect orderBy) := by
        cases orderBy with
        | nil => exact .empty
        | cons term rest => exact termsHave.clauseOf .order [.by] (by decide)
      have head := ((HasClauses.ofToken .select (by decide)).append_plain marked).plain_append
        listed
      have read := (head.append sourceHas).append joinsHave
      have filtered := (read.append filterHas).append grouped
      exact ((filtered.append havingHas).append ordered).append pageHas

end

/-- The rows of an `INSERT` stand in parentheses. -/
theorem hasClauses_lowerRows {width index : Nat} (rows : List (List Expr))
    {fragments : List Fragment}
    (lowered : lowerRows dialect.rules width index rows = .ok fragments) :
    (commaSeparated fragments).HasClauses
      (rows.flatMap fun row => enclosed (exprClauses dialect row)) := by
  induction rows generalizing index fragments with
  | nil =>
      rw [lowerRows_nil_eq_ok] at lowered
      rw [← lowered]
      exact HasClauses.empty
  | cons row rest ih =>
      rw [lowerRows_cons_eq_ok] at lowered
      rcases lowered with ⟨_, values, valuesLowered, others, othersLowered, rfl⟩
      have rowHas := (hasClauses_lowerExprs row valuesLowered).parenthesized
      exact rowHas.commaSeparated_cons (ih othersLowered)

theorem hasClauses_lowerAssignments (assignments : List Assignment) {fragments : List Fragment}
    (lowered : lowerAssignments dialect.rules assignments = .ok fragments) :
    (commaSeparated fragments).HasClauses
      (exprClauses dialect (assignments.map Assignment.value)) := by
  induction assignments generalizing fragments with
  | nil =>
      rw [lowerAssignments_nil_eq_ok] at lowered
      rw [← lowered]
      exact HasClauses.empty
  | cons assignment rest ih =>
      rw [lowerAssignments_cons_eq_ok] at lowered
      rcases lowered with ⟨value, valueLowered, others, othersLowered, rfl⟩
      have valueHas := assignment.value.hasClauses_lower valueLowered
      have target : HasClauses (.ofName assignment.column.name ++ .ofToken .equal) [] :=
        .append_plain (.ofChunk (by simp) rfl rfl) (.ofToken .equal (by decide))
      exact (target.plain_append valueHas).commaSeparated_cons (ih othersLowered)

theorem hasClauses_names (names : List String) :
    (commaSeparated (names.map .ofName)).HasClauses [] := by
  induction names with
  | nil => exact HasClauses.empty
  | cons name rest ih =>
      have first : HasClauses (.ofName name) [] := .ofChunk (by simp) rfl rfl
      exact first.commaSeparated_cons ih

/-- A lowered statement has the clauses of its tree. -/
theorem Statement.hasClauses_lower (statement : Statement) {fragment : Fragment}
    (lowered : statement.lower dialect.rules = .ok fragment) :
    fragment.HasClauses (statement.clauses dialect) := by
  cases statement with
  | select query => exact query.hasClauses_lower lowered
  | insert insertion =>
      rw [Statement.lower, Insert.lower_eq_ok] at lowered
      rcases lowered with ⟨_, _, rows, rowsLowered, rfl⟩
      have rowsHave := hasClauses_lowerRows insertion.rows rowsLowered
      have columns : HasClauses
          (commaSeparated (insertion.columns.map fun column => .ofName column.name)) [] := by
        have names := hasClauses_names (insertion.columns.map Column.name)
        rwa [List.map_map] at names
      have keywords := (HasClauses.ofToken .insert (by decide)).append_plain
        (.ofToken .into (by decide))
      have name : HasClauses (.ofName insertion.table.name) [] := .ofChunk (by simp) rfl rfl
      have head := (keywords.append_plain name).append_plain columns.parenthesized
      exact head.plain_append (rowsHave.clauseOf .values [] (by decide))
  | update change =>
      rw [Statement.lower, Update.lower_eq_ok] at lowered
      rcases lowered with ⟨_, assignments, assignmentsLowered, filterClause, filterLowered, rfl⟩
      have assignmentsHave := hasClauses_lowerAssignments change.assignments assignmentsLowered
      have filterHas := hasClauses_lowerCondition .where (by decide) change.filter filterLowered
      have head := (HasClauses.ofToken .update (by decide)).append_plain (.table change.table)
      exact (head.plain_append (assignmentsHave.clauseOf .set [] (by decide))).append filterHas
  | delete removal =>
      rw [Statement.lower, Delete.lower_eq_ok] at lowered
      rcases lowered with ⟨filterClause, filterLowered, rfl⟩
      have filterHas := hasClauses_lowerCondition .where (by decide) removal.filter filterLowered
      have keywords := (HasClauses.ofToken .delete (by decide)).append_plain
        (.ofToken .from (by decide))
      exact (keywords.append_plain (.table removal.table)).plain_append filterHas

end Lowering

section Outermost

variable (dialect : Dialect)

/-- Every query in an expression has a level around it. -/
theorem Expr.outermost_clauses (expr : Expr) : outermost (expr.clauses dialect) = [] := by
  cases expr with
  | column column => rfl
  | argument argument => rfl
  | raw text => rfl
  | binary operator left right =>
      simp [Expr.clauses, Expr.outermost_clauses left, Expr.outermost_clauses right]
  | unary operator operand => simp [Expr.clauses, Expr.outermost_clauses operand]
  | call function arguments => simp [Expr.clauses]
  | isNull operand negated => simp [Expr.clauses, Expr.outermost_clauses operand]
  | inList operand elements negated => simp [Expr.clauses, Expr.outermost_clauses operand]
  | between operand low high negated =>
      simp [Expr.clauses, Expr.outermost_clauses operand, Expr.outermost_clauses low,
        Expr.outermost_clauses high]
  | like operand pattern negated =>
      simp [Expr.clauses, Expr.outermost_clauses operand, Expr.outermost_clauses pattern]
  | subquery query => simp [Expr.clauses]
  | existsQuery query negated => simp [Expr.clauses]

theorem outermost_exprClauses (exprs : List Expr) : outermost (exprClauses dialect exprs) = [] := by
  induction exprs with
  | nil => rfl
  | cons expr rest ih => simp [exprClauses, expr.outermost_clauses, ih]

theorem outermost_conditionClauses (condition : Option Expr) :
    outermost (conditionClauses dialect condition) = [] := by
  cases condition with
  | none => rfl
  | some condition => simp [conditionClauses, condition.outermost_clauses]

theorem outermost_projectionClauses (projections : List Projection) :
    outermost (projectionClauses dialect projections) = [] := by
  induction projections with
  | nil => rfl
  | cons projection rest ih =>
      rcases projection with ⟨expr, label⟩
      simp [projectionClauses, expr.outermost_clauses, ih]

theorem Source.outermost_clauses (source : Source) : outermost (source.clauses dialect) = [] := by
  cases source with
  | table table => rfl
  | query query name => simp [Source.clauses]

theorem outermost_sourceClauses (source : Option Source) :
    outermost (sourceClauses dialect source) = [] := by
  cases source with
  | none => rfl
  | some source => simp [sourceClauses, source.outermost_clauses]

theorem outermost_joinClauses (joins : List Join) :
    outermost (joinClauses dialect joins) =
      joins.flatMap fun join => own true join.kind.token := by
  induction joins with
  | nil => rfl
  | cons join rest ih =>
      rcases join with ⟨kind, source, condition⟩
      simp [joinClauses, source.outermost_clauses, outermost_conditionClauses, ih]

theorem outermost_orderClauses (terms : List OrderTerm) :
    outermost (orderClauses dialect terms) = [] := by
  induction terms with
  | nil => rfl
  | cons term rest ih =>
      rcases term with ⟨expr, direction, nulls⟩
      simp [orderClauses, expr.outermost_clauses, ih]

/-- The clauses of a query that have no level of the query around them are its own. -/
theorem Select.outermost_clauses (query : Select) :
    outermost (query.clauses dialect) = query.ownClauses dialect := by
  rcases query with ⟨distinct, projections, source, joins, filter, groupBy, having, orderBy, page⟩
  simp [Select.clauses, Select.ownClauses, outermost_projectionClauses, outermost_sourceClauses,
    outermost_joinClauses, outermost_conditionClauses, outermost_exprClauses,
    outermost_orderClauses]

/-- The clauses of a statement that have no level around them are its own. -/
theorem Statement.outermost_clauses (statement : Statement) :
    outermost (statement.clauses dialect) = statement.ownClauses dialect := by
  cases statement with
  | select query => exact query.outermost_clauses dialect
  | insert insertion =>
      have rows : outermost (insertion.rows.flatMap fun row =>
          enclosed (exprClauses dialect row)) = [] := by
        induction insertion.rows with
        | nil => rfl
        | cons row rest ih => simp [ih]
      simp [Statement.clauses, Statement.ownClauses, rows]
  | update change =>
      simp [Statement.clauses, Statement.ownClauses, outermost_exprClauses,
        outermost_conditionClauses]
  | delete removal =>
      simp [Statement.clauses, Statement.ownClauses, outermost_conditionClauses]

end Outermost

/-- A lowered statement starts with a word. -/
theorem Statement.exists_chunks_eq {dialect : Dialect} {statement : Statement}
    {fragment : Fragment} (lowered : statement.lower dialect.rules = .ok fragment) :
    ∃ word rest, fragment.chunks = .token word :: rest := by
  cases statement with
  | select query =>
      rw [Statement.lower, Select.lower_eq_ok] at lowered
      rcases lowered with ⟨_, _, _, _, _, _, _, _, _, _, _, _, _, _, _, _, rfl⟩
      exact ⟨.select, _, rfl⟩
  | insert insertion =>
      rw [Statement.lower, Insert.lower_eq_ok] at lowered
      rcases lowered with ⟨_, _, _, _, rfl⟩
      exact ⟨.insert, _, rfl⟩
  | update change =>
      rw [Statement.lower, Update.lower_eq_ok] at lowered
      rcases lowered with ⟨_, _, _, _, _, rfl⟩
      exact ⟨.update, _, rfl⟩
  | delete removal =>
      rw [Statement.lower, Delete.lower_eq_ok] at lowered
      rcases lowered with ⟨_, _, rfl⟩
      exact ⟨.delete, _, rfl⟩

open Rendering

/-- A text writes the separator of its depth before each clause of a statement. -/
theorem Statement.written_clauses {dialect : Dialect} {statement : Statement} {fragment : Fragment}
    (lowered : statement.lower dialect.rules = .ok fragment) (layout : Layout) :
    ((pieces dialect.rules.signs layout {} fragment.chunks).filter
        (·.chunk = .clauseBreak)).map Piece.written =
      (statement.clauses dialect).map fun clause => separator layout clause.levels := by
  rcases statement.exists_chunks_eq lowered with ⟨word, rest, chunks⟩
  have has := (statement.hasClauses_lower lowered).boundaries_chunks 0
  rw [chunks] at has ⊢
  rw [written_boundaries_of_token, has, List.map_map]
  apply List.map_congr_left
  intro clause _
  simp [Clause.boundary]

/-- A lowered statement is well bracketed, so that the nesting depth is always the number of levels
open. At a clause boundary it is the number of levels around the clause: none around the statement's
own clauses, and around a query's own clauses those around the query, whose clauses therefore start
in one column. -/
theorem Statement.depths_lower {dialect : Dialect} {statement : Statement} {fragment : Fragment}
    (lowered : statement.lower dialect.rules = .ok fragment) :
    Chunk.WellBracketed fragment.chunks ∧
      (∀ before rest, fragment.chunks = before ++ rest →
        before.foldl depthBehind 0 + before.countP Chunk.closes = before.countP Chunk.opens) ∧
      (∀ before rest, fragment.chunks = before ++ .token .closeParen :: rest →
        0 < before.foldl depthBehind 0) ∧
      boundaries 0 fragment.chunks =
        (statement.clauses dialect).map (fun clause =>
          ⟨clause.levels, some (.token clause.keyword)⟩) ∧
      outermost (statement.clauses dialect) = statement.ownClauses dialect ∧
      (∀ query part before rest, Select.lower dialect.rules query = .ok part →
        fragment.chunks = before ++ part.chunks ++ rest →
        let depth := before.foldl depthBehind 0
        (boundaries depth part.chunks).filter (·.depth = depth) =
          (query.ownClauses dialect).map fun clause =>
            ⟨depth, some (.token clause.keyword)⟩) ∧
      ∀ layout,
        ((pieces dialect.rules.signs layout {} fragment.chunks).filter
            (·.chunk = .clauseBreak)).map Piece.written =
          (statement.clauses dialect).map fun clause => separator layout clause.levels := by
  have balanced := statement.balanced_lower dialect.pagesBalanced lowered
  refine ⟨balanced.wellBracketed, ?_, ?_, ?_, statement.outermost_clauses dialect, ?_,
    statement.written_clauses lowered⟩
  · intro before rest split
    exact Chunk.Balanced.foldl_depthBehind_count (split ▸ balanced)
  · intro before rest split
    exact Chunk.Balanced.depth_pos rfl (split ▸ balanced)
  · rw [(statement.hasClauses_lower lowered).boundaries_chunks]
    apply List.map_congr_left
    intro clause _
    simp [Clause.boundary]
  · intro query part before rest partLowered _ depth
    rw [(query.hasClauses_lower partLowered).boundaries_chunks, filter_map_boundary,
      query.outermost_clauses]

/-- A query that reads from a paged query, counts in the argument of a call and tests with `EXISTS`
in a disjunction. -/
def nestedQueries : Statement :=
  .select
    { projections :=
        [⟨.call "COALESCE"
            [.subquery
              { projections := [⟨.call "COUNT" [.raw "*"], none⟩]
                source := some (.table (.named "item"))
                filter := some (.raw "sold") },
              .argument ⟨.integer 0, .integer⟩],
          some "sales"⟩]
      source := some <|
        .query
          { source := some (.table (.named "client"))
            orderBy := [⟨.raw "rank", .ascending, none⟩]
            page := some { limit := some 3 } } "top"
      filter := some <|
        .binary .and
          (.binary .or (.existsQuery { source := some (.table (.named "offer")) } false)
            (.raw "known"))
          (.raw "active")
      orderBy := [⟨.raw "1", .ascending, none⟩]
      page := some { offset := some 5 } }

theorem depths_lower_nestedQueries :
    ∃ fragment, nestedQueries.lower Dialect.sqlServer.rules = .ok fragment ∧
      boundaries 0 fragment.chunks =
        [⟨2, some (.token .from)⟩, ⟨2, some (.token .where)⟩, ⟨0, some (.token .from)⟩,
          ⟨1, some (.token .from)⟩, ⟨1, some (.token .order)⟩, ⟨1, some (.token .offset)⟩,
          ⟨0, some (.token .where)⟩, ⟨2, some (.token .from)⟩, ⟨0, some (.token .order)⟩,
          ⟨0, some (.token .offset)⟩] ∧
      fragment.chunks.countP Chunk.opens = fragment.chunks.countP Chunk.closes ∧
      fragment.render Dialect.sqlServer.rules.signs (.beautified 2) =
        "SELECT COALESCE((SELECT COUNT(*)\n" ++
        "    FROM [item]\n" ++
        "    WHERE sold), @p1) AS [sales]\n" ++
        "FROM (SELECT *\n" ++
        "  FROM [client]\n" ++
        "  ORDER BY rank ASC\n" ++
        "  OFFSET @p2 ROWS FETCH NEXT @p3 ROWS ONLY) AS [top]\n" ++
        "WHERE (EXISTS (SELECT *\n" ++
        "    FROM [offer]) OR known) AND active\n" ++
        "ORDER BY 1 ASC\n" ++
        "OFFSET @p4 ROWS FETCH NEXT @p5 ROWS ONLY" := by
  have lowered : nestedQueries.lower Dialect.sqlServer.rules = .ok _ := rfl
  rcases Statement.depths_lower lowered with ⟨bracketed, -, -, places, -⟩
  exact ⟨_, lowered, places, bracketed.opens_eq_closes, by decide +kernel⟩

end SqlMapper
