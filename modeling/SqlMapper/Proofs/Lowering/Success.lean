import SqlMapper.Proofs.Steps
import SqlMapper.Statement.Formatter

/-!
# When lowering succeeds

This file says, for each node of a statement, when it lowers and to which fragment: its parts
lower, its own checks pass, and its fragment is put together from theirs. Later files take a
successful lowering apart with these equivalences and never open the lowering itself.
-/

namespace SqlMapper

-- Every lemma below rewrites with the equations of the lowering.
attribute [local simp] Expr.lower

variable {rules : DialectRules} {fragment : Fragment}

namespace Expr

theorem lower_column_eq_ok {column : Column} :
    (Expr.column column).lower rules = .ok fragment ↔
      .ofChunk (.qualified column.tableReference column.name) = fragment := by
  simp only [lower, Except.ok.injEq]

theorem lower_argument_eq_ok {argument : Argument} :
    (Expr.argument argument).lower rules = .ok fragment ↔ .ofArgument argument = fragment := by
  simp only [lower, Except.ok.injEq]

theorem lower_raw_eq_ok {text : String} :
    (Expr.raw text).lower rules = .ok fragment ↔ .ofChunk (.raw text) = fragment := by
  simp only [lower, Except.ok.injEq]

theorem lower_binary_eq_ok {operator : BinaryOperator} {left right : Expr} :
    (Expr.binary operator left right).lower rules = .ok fragment ↔
      ∃ leftFragment, left.lower rules = .ok leftFragment ∧
        ∃ rightFragment, right.lower rules = .ok rightFragment ∧
          parenthesizedIf (left.needsParens operator .left) leftFragment ++
            .ofToken operator.token ++
            parenthesizedIf (right.needsParens operator .right) rightFragment = fragment := by
  simp only [lower, bind_eq_ok, pure_eq_ok]

theorem lower_unary_eq_ok {operator : UnaryOperator} {operand : Expr} :
    (Expr.unary operator operand).lower rules = .ok fragment ↔
      ∃ operandFragment, operand.lower rules = .ok operandFragment ∧
        .ofToken operator.token ++ parenthesizedIf operand.isBinary operandFragment =
          fragment := by
  simp only [lower, bind_eq_ok, pure_eq_ok]

theorem lower_call_eq_ok {function : String} {arguments : List Expr} :
    (Expr.call function arguments).lower rules = .ok fragment ↔
      ∃ fragments, lowerExprs rules arguments = .ok fragments ∧
        .called function (commaSeparated fragments) = fragment := by
  simp only [lower, bind_eq_ok, pure_eq_ok]

theorem lower_isNull_eq_ok {operand : Expr} {negated : Bool} :
    (Expr.isNull operand negated).lower rules = .ok fragment ↔
      ∃ operandFragment, operand.lower rules = .ok operandFragment ∧
        parenthesizedIf operand.isBinary operandFragment ++ .ofToken .is ++ negation negated ++
          .ofToken .null = fragment := by
  simp only [lower, bind_eq_ok, pure_eq_ok]

theorem lower_inList_eq_ok {operand : Expr} {elements : List Expr} {negated : Bool} :
    (Expr.inList operand elements negated).lower rules = .ok fragment ↔
      ¬elements.isEmpty = true ∧
        ∃ operandFragment, operand.lower rules = .ok operandFragment ∧
          ∃ fragments, lowerExprs rules elements = .ok fragments ∧
            parenthesizedIf operand.isBinary operandFragment ++ negation negated ++
              .ofToken .in ++ (commaSeparated fragments).parenthesized = fragment := by
  simp only [lower, guard_eq_ok, bind_eq_ok, pure_eq_ok]

theorem lower_between_eq_ok {operand low high : Expr} {negated : Bool} :
    (Expr.between operand low high negated).lower rules = .ok fragment ↔
      ∃ operandFragment, operand.lower rules = .ok operandFragment ∧
        ∃ lowFragment, low.lower rules = .ok lowFragment ∧
          ∃ highFragment, high.lower rules = .ok highFragment ∧
            parenthesizedIf operand.isBinary operandFragment ++ negation negated ++
              .ofToken .between ++ parenthesizedIf low.isBinary lowFragment ++ .ofToken .and ++
              parenthesizedIf high.isBinary highFragment = fragment := by
  simp only [lower, bind_eq_ok, pure_eq_ok]

theorem lower_like_eq_ok {operand pattern : Expr} {negated : Bool} :
    (Expr.like operand pattern negated).lower rules = .ok fragment ↔
      ∃ operandFragment, operand.lower rules = .ok operandFragment ∧
        ∃ patternFragment, pattern.lower rules = .ok patternFragment ∧
          parenthesizedIf operand.isBinary operandFragment ++ negation negated ++
            .ofToken .like ++ parenthesizedIf pattern.isBinary patternFragment = fragment := by
  simp only [lower, bind_eq_ok, pure_eq_ok]

theorem lower_subquery_eq_ok {query : Select} :
    (Expr.subquery query).lower rules = .ok fragment ↔
      ∃ queryFragment, query.lower rules = .ok queryFragment ∧
        queryFragment.parenthesized = fragment := by
  simp only [lower, bind_eq_ok, pure_eq_ok]

theorem lower_existsQuery_eq_ok {query : Select} {negated : Bool} :
    (Expr.existsQuery query negated).lower rules = .ok fragment ↔
      ∃ queryFragment, query.lower rules = .ok queryFragment ∧
        negation negated ++ .ofToken .exists ++ queryFragment.parenthesized = fragment := by
  simp only [lower, bind_eq_ok, pure_eq_ok]

end Expr

section Parts

variable {fragments : List Fragment}

theorem lowerExprs_nil_eq_ok : lowerExprs rules [] = .ok fragments ↔ [] = fragments := by
  simp only [lowerExprs, Except.ok.injEq]

theorem lowerExprs_cons_eq_ok {expr : Expr} {rest : List Expr} :
    lowerExprs rules (expr :: rest) = .ok fragments ↔
      ∃ first, expr.lower rules = .ok first ∧
        ∃ others, lowerExprs rules rest = .ok others ∧ first :: others = fragments := by
  simp only [lowerExprs, bind_eq_ok, pure_eq_ok]

theorem lowerCondition_none_eq_ok {keyword : Token} :
    lowerCondition rules keyword none = .ok fragment ↔ .empty = fragment := by
  simp only [lowerCondition, Except.ok.injEq]

theorem lowerCondition_some_eq_ok {keyword : Token} {condition : Expr} :
    lowerCondition rules keyword (some condition) = .ok fragment ↔
      ∃ body, condition.lower rules = .ok body ∧ clauseOf [keyword] body = fragment := by
  simp only [lowerCondition, bind_eq_ok, pure_eq_ok]

theorem Projection.lower_eq_ok {projection : Projection} :
    projection.lower rules = .ok fragment ↔
      ∃ body, projection.expr.lower rules = .ok body ∧
        projection.label.elim body body.named = fragment := by
  rcases projection with ⟨expr, label⟩
  cases label <;>
    simp only [Projection.lower, bind_eq_ok, pure_eq_ok, Option.elim]

theorem lowerProjections_nil_eq_ok :
    lowerProjections rules [] = .ok fragments ↔ [] = fragments := by
  simp only [lowerProjections, Except.ok.injEq]

theorem lowerProjections_cons_eq_ok {projection : Projection} {rest : List Projection} :
    lowerProjections rules (projection :: rest) = .ok fragments ↔
      ∃ first, projection.lower rules = .ok first ∧
        ∃ others, lowerProjections rules rest = .ok others ∧ first :: others = fragments := by
  simp only [lowerProjections, bind_eq_ok, pure_eq_ok]

theorem Source.lower_table_eq_ok {table : Table} :
    (Source.table table).lower rules = .ok fragment ↔ table.lower = fragment := by
  simp only [Source.lower, Except.ok.injEq]

theorem Source.lower_query_eq_ok {query : Select} {name : String} :
    (Source.query query name).lower rules = .ok fragment ↔
      ∃ body, query.lower rules = .ok body ∧ body.parenthesized.named name = fragment := by
  simp only [Source.lower, bind_eq_ok, pure_eq_ok]

theorem lowerFrom_none_eq_ok : lowerFrom rules none = .ok fragment ↔ .empty = fragment := by
  simp only [lowerFrom, Except.ok.injEq]

theorem lowerFrom_some_eq_ok {source : Source} :
    lowerFrom rules (some source) = .ok fragment ↔
      ∃ body, source.lower rules = .ok body ∧ clauseOf [.from] body = fragment := by
  simp only [lowerFrom, bind_eq_ok, pure_eq_ok]

/-- A join lowers when its dialect has its kind and it has a condition unless it is a cross join. -/
theorem Join.lower_eq_ok {join : Join} :
    join.lower rules = .ok fragment ↔
      rules.supports join.kind = true ∧
        ∃ body, join.source.lower rules = .ok body ∧
          ((join.kind = .cross ∧ join.condition = none ∧
              clauseOf [join.kind.token, .join] body = fragment) ∨
            (join.kind ≠ .cross ∧ ∃ condition conditionFragment,
              join.condition = some condition ∧
                condition.lower rules = .ok conditionFragment ∧
                clauseOf [join.kind.token, .join] body ++ .ofToken .on ++ conditionFragment =
                  fragment)) := by
  rcases join with ⟨kind, source, condition⟩
  -- The kind and the condition are known before the match on them is opened.
  cases kind <;> cases condition <;> rw [Join.lower, guard_eq_ok] <;>
    simp only [bind_eq_ok] <;> simp [pure, Except.pure, throw, throwThe, MonadExceptOf.throw]

theorem lowerJoins_nil_eq_ok : lowerJoins rules [] = .ok fragment ↔ .empty = fragment := by
  simp only [lowerJoins, Except.ok.injEq]

theorem lowerJoins_cons_eq_ok {join : Join} {rest : List Join} :
    lowerJoins rules (join :: rest) = .ok fragment ↔
      ∃ first, join.lower rules = .ok first ∧
        ∃ others, lowerJoins rules rest = .ok others ∧ first ++ others = fragment := by
  simp only [lowerJoins, bind_eq_ok, pure_eq_ok]

theorem OrderTerm.lower_eq_ok {term : OrderTerm} :
    term.lower rules = .ok fragment ↔
      ∃ body, term.expr.lower rules = .ok body ∧
        body ++ .ofToken term.direction.token ++ nullsKeywords term.nulls = fragment := by
  rcases term with ⟨expr, direction, nulls⟩
  simp only [OrderTerm.lower, bind_eq_ok, pure_eq_ok]

theorem lowerOrderTerms_nil_eq_ok :
    lowerOrderTerms rules [] = .ok fragments ↔ [] = fragments := by
  simp only [lowerOrderTerms, Except.ok.injEq]

theorem lowerOrderTerms_cons_eq_ok {term : OrderTerm} {rest : List OrderTerm} :
    lowerOrderTerms rules (term :: rest) = .ok fragments ↔
      ∃ first, term.lower rules = .ok first ∧
        ∃ others, lowerOrderTerms rules rest = .ok others ∧ first :: others = fragments := by
  simp only [lowerOrderTerms, bind_eq_ok, pure_eq_ok]

theorem lowerPage_none_eq_ok {ordered : Bool} :
    lowerPage rules ordered none = .ok fragment ↔ .empty = fragment := by
  simp only [lowerPage, Except.ok.injEq]

/-- A page lowers when the order is there that its dialect may want and its clause holds two
arguments. -/
theorem lowerPage_some_eq_ok {ordered : Bool} {page : Page} :
    lowerPage rules ordered (some page) = .ok fragment ↔
      (rules.pagesNeedOrder = true → ordered = true) ∧
        ∃ body, rules.page page.bounds.1 page.bounds.2 = .ok body ∧
          body.argumentCount = 2 ∧ clauseOf [] body = fragment := by
  simp only [lowerPage, guard_eq_ok, bind_eq_ok, pure_eq_ok,
    Decidable.not_not, Bool.and_eq_true, Bool.not_eq_true', not_and, Bool.not_eq_false]

end Parts

section Statements

/-- A query lowers when its clauses do, each in its place. -/
theorem Select.lower_eq_ok {query : Select} :
    query.lower rules = .ok fragment ↔
      ∃ items, lowerProjections rules query.projections = .ok items ∧
      ∃ sourceClause, lowerFrom rules query.source = .ok sourceClause ∧
      ∃ joinClauses, lowerJoins rules query.joins = .ok joinClauses ∧
      ∃ filterClause, lowerCondition rules .where query.filter = .ok filterClause ∧
      ∃ groups, lowerExprs rules query.groupBy = .ok groups ∧
      ∃ havingClause, lowerCondition rules .having query.having = .ok havingClause ∧
      ∃ terms, lowerOrderTerms rules query.orderBy = .ok terms ∧
      ∃ pageClause, lowerPage rules (!query.orderBy.isEmpty) query.page = .ok pageClause ∧
        .ofToken .select ++ (if query.distinct then .ofToken .distinct else .empty) ++
          (if query.projections.isEmpty then .ofToken .star else commaSeparated items) ++
          sourceClause ++ joinClauses ++ filterClause ++
          (if query.groupBy.isEmpty then .empty
            else clauseOf [.group, .by] (commaSeparated groups)) ++
          havingClause ++
          (if query.orderBy.isEmpty then .empty
            else clauseOf [.order, .by] (commaSeparated terms)) ++
          pageClause = fragment := by
  rcases query with ⟨distinct, projections, source, joins, filter, groupBy, having, orderBy, page⟩
  simp only [Select.lower, bind_eq_ok, pure_eq_ok]

theorem lowerRows_nil_eq_ok {width index : Nat} {fragments : List Fragment} :
    lowerRows rules width index [] = .ok fragments ↔ [] = fragments := by
  simp only [lowerRows, Except.ok.injEq]

theorem lowerRows_cons_eq_ok {width index : Nat} {row : List Expr} {rest : List (List Expr)}
    {fragments : List Fragment} :
    lowerRows rules width index (row :: rest) = .ok fragments ↔
      row.length = width ∧
        ∃ values, lowerExprs rules row = .ok values ∧
          ∃ others, lowerRows rules width (index + 1) rest = .ok others ∧
            (commaSeparated values).parenthesized :: others = fragments := by
  rw [lowerRows, guard_eq_ok]
  simp only [bind_eq_ok, pure_eq_ok, Decidable.not_not]

/-- An `INSERT` lowers when it names columns, has rows, and its rows lower. -/
theorem Insert.lower_eq_ok {insertion : Insert} :
    insertion.lower rules = .ok fragment ↔
      ¬insertion.columns.isEmpty = true ∧ ¬insertion.rows.isEmpty = true ∧
        ∃ rows, lowerRows rules insertion.columns.length 0 insertion.rows = .ok rows ∧
          .ofToken .insert ++ .ofToken .into ++ .ofName insertion.table.name ++
            (commaSeparated
              (insertion.columns.map fun column => .ofName column.name)).parenthesized ++
            clauseOf [.values] (commaSeparated rows) = fragment := by
  rw [Insert.lower, guard_eq_ok, guard_eq_ok]
  simp only [bind_eq_ok, pure_eq_ok]

theorem lowerAssignments_nil_eq_ok {fragments : List Fragment} :
    lowerAssignments rules [] = .ok fragments ↔ [] = fragments := by
  simp only [lowerAssignments, Except.ok.injEq]

theorem lowerAssignments_cons_eq_ok {assignment : Assignment} {rest : List Assignment}
    {fragments : List Fragment} :
    lowerAssignments rules (assignment :: rest) = .ok fragments ↔
      ∃ value, assignment.value.lower rules = .ok value ∧
        ∃ others, lowerAssignments rules rest = .ok others ∧
          (Fragment.ofName assignment.column.name ++ .ofToken .equal ++ value) :: others =
            fragments := by
  simp only [lowerAssignments, bind_eq_ok, pure_eq_ok]

/-- An `UPDATE` lowers when it has assignments, and they and its filter lower. -/
theorem Update.lower_eq_ok {change : Update} :
    change.lower rules = .ok fragment ↔
      ¬change.assignments.isEmpty = true ∧
        ∃ assignments, lowerAssignments rules change.assignments = .ok assignments ∧
          ∃ filterClause, lowerCondition rules .where change.filter = .ok filterClause ∧
            .ofToken .update ++ change.table.lower ++
              clauseOf [.set] (commaSeparated assignments) ++ filterClause = fragment := by
  rw [Update.lower, guard_eq_ok]
  simp only [bind_eq_ok, pure_eq_ok]

theorem Delete.lower_eq_ok {removal : Delete} :
    removal.lower rules = .ok fragment ↔
      ∃ filterClause, lowerCondition rules .where removal.filter = .ok filterClause ∧
        .ofToken .delete ++ .ofToken .from ++ removal.table.lower ++ filterClause =
          fragment := by
  simp only [Delete.lower, bind_eq_ok, pure_eq_ok]

/-- Formatting succeeds when the statement lowers and its arguments encode. -/
theorem Formatter.format_eq_ok {formatter : Formatter} {statement : Statement}
    {compiled : Compiled} :
    formatter.format statement = .ok compiled ↔
      ∃ fragment, statement.lower formatter.rules = .ok fragment ∧
        ∃ encoded, Formatter.encodeArguments fragment.arguments = .ok encoded ∧
          { sql := fragment.render formatter.rules.signs formatter.layout, arguments := encoded } =
            compiled := by
  simp only [Formatter.format, Formatter.lower, bind_eq_ok, pure_eq_ok]

end Statements

end SqlMapper
