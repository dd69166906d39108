import SqlMapper.Proofs.Arguments.Traversal

/-!
# What lowering demands of a statement

Lowering refuses some shapes: a list behind an `IN` without elements, a join that its dialect does
not have, a page without the order that its dialect wants, rows of the wrong width. This file lists
the places of a statement, at every depth of nesting, where such a shape may stand, in the order in
which lowering comes to them. A statement lowers when the demand of every place is met, and fails
with the fault of the first place where it is not.

Whether a part fails never depends on the fragments of other parts. So the outcome of a sequence of
steps answers to the demands of the first step and then to those of the second, and the lists of the
places are put together as the lowering is.
-/

namespace SqlMapper

/-- A place of a statement that lowering checks. -/
inductive Demand where
  /-- The number of elements behind an `IN`. -/
  | inList (elements : Nat)
  | joinKind (kind : JoinKind)
  /-- A join, and whether it has a condition. -/
  | joinCondition (kind : JoinKind) (given : Bool)
  /-- A query with a page, and whether it has an order. -/
  | pageOrder (ordered : Bool)
  | pageBounds (page : Page)
  | insertColumns (table : String) (columns : Nat)
  | insertRows (table : String) (rows : Nat)
  /-- The number of values in a row, and that of the columns. -/
  | rowWidth (row values columns : Nat)
  | updateAssignments (table : String) (assignments : Nat)

namespace Demand

/-- What the place is to be like. -/
def Met (rules : DialectRules) : Demand → Prop
  | inList elements => 0 < elements
  | joinKind kind => rules.supports kind = true
  | joinCondition kind given => given = true ↔ kind ≠ .cross
  | pageOrder ordered => rules.pagesNeedOrder = true → ordered = true
  | pageBounds page =>
      ∃ clause, rules.page page.bounds.1 page.bounds.2 = .ok clause ∧ clause.argumentCount = 2
  | insertColumns _ columns => 0 < columns
  | insertRows _ rows => 0 < rows
  | rowWidth _ values columns => values = columns
  | updateAssignments _ assignments => 0 < assignments

/-- How lowering fails at a place that is not as it is to be. -/
def fault? (rules : DialectRules) : Demand → Option Error
  | inList elements => if elements = 0 then some (.unsupported .emptyInList) else none
  | joinKind kind =>
      if rules.supports kind then none else some (.unsupported (.join rules.name kind))
  | joinCondition .cross given => if given then some (.unsupported .crossJoinCondition) else none
  | joinCondition kind given =>
      if given then none else some (.unsupported (.missingJoinCondition kind))
  | pageOrder ordered =>
      if rules.pagesNeedOrder && !ordered then some (.unsupported (.unorderedPage rules.name))
      else none
  | pageBounds page =>
      match rules.page page.bounds.1 page.bounds.2 with
      | .error error => some error
      | .ok clause =>
          if clause.argumentCount ≠ 2 then
            some (.unsupported (.pageArguments rules.name clause.argumentCount))
          else none
  | insertColumns table columns =>
      if columns = 0 then some (.unsupported (.insertWithoutColumns table)) else none
  | insertRows table rows =>
      if rows = 0 then some (.unsupported (.insertWithoutRows table)) else none
  | rowWidth row values columns =>
      if values ≠ columns then some (.unsupported (.insertRowWidth row values columns)) else none
  | updateAssignments table assignments =>
      if assignments = 0 then some (.unsupported (.updateWithoutAssignments table)) else none

variable {rules : DialectRules}

theorem fault?_eq_none {demand : Demand} : demand.fault? rules = none ↔ demand.Met rules := by
  cases demand with
  | joinCondition kind given => cases kind <;> simp [fault?, Met]
  | pageBounds page =>
      rw [fault?, Met]
      cases rules.page page.bounds.1 page.bounds.2 <;> simp
  | _ => simp [fault?, Met, Nat.pos_iff_ne_zero]

end Demand

/-- The places of a page that may be missing. -/
def pageDemands (ordered : Bool) : Option Page → List Demand
  | none => []
  | some page => [.pageOrder ordered, .pageBounds page]

mutual

/-- The places of an expression that lowering checks. -/
def Expr.demands : Expr → List Demand
  | .column _ => []
  | .argument _ => []
  | .raw _ => []
  | .binary _ left right => left.demands ++ right.demands
  | .unary _ operand => operand.demands
  | .call _ arguments => exprDemands arguments
  | .isNull operand _ => operand.demands
  | .inList operand elements _ =>
      .inList elements.length :: (operand.demands ++ exprDemands elements)
  | .between operand low high _ => operand.demands ++ (low.demands ++ high.demands)
  | .like operand pattern _ => operand.demands ++ pattern.demands
  | .subquery query => query.demands
  | .existsQuery query _ => query.demands

/-- The places of expressions, one after the other. -/
def exprDemands : List Expr → List Demand
  | [] => []
  | expr :: rest => expr.demands ++ exprDemands rest

/-- The places of a condition that may be missing. -/
def conditionDemands : Option Expr → List Demand
  | none => []
  | some condition => condition.demands

/-- The places of a select list. -/
def projectionDemands : List Projection → List Demand
  | [] => []
  | ⟨expr, _⟩ :: rest => expr.demands ++ projectionDemands rest

/-- The places of a source. -/
def Source.demands : Source → List Demand
  | .table _ => []
  | .query query _ => query.demands

/-- The places of a first source that may be missing. -/
def sourceDemands : Option Source → List Demand
  | none => []
  | some source => source.demands

/-- The places of joins: for each its kind, its source, and its condition. -/
def joinDemands : List Join → List Demand
  | [] => []
  | ⟨kind, source, condition⟩ :: rest =>
      .joinKind kind ::
        (source.demands ++ .joinCondition kind condition.isSome :: conditionDemands condition) ++
        joinDemands rest

/-- The places of the terms of an order. -/
def orderDemands : List OrderTerm → List Demand
  | [] => []
  | ⟨expr, _, _⟩ :: rest => expr.demands ++ orderDemands rest

/-- The places of a query, clause by clause. -/
def Select.demands : Select → List Demand
  | { distinct := _, projections, source, joins, filter, groupBy, having, orderBy, page } =>
      projectionDemands projections ++ (sourceDemands source ++ (joinDemands joins ++
        (conditionDemands filter ++ (exprDemands groupBy ++ (conditionDemands having ++
          (orderDemands orderBy ++ pageDemands (!orderBy.isEmpty) page))))))

end

/-- The places of the rows of an `INSERT`: for each its width and its values. -/
def rowDemands (columns index : Nat) : List (List Expr) → List Demand
  | [] => []
  | row :: rest =>
      .rowWidth index row.length columns :: (exprDemands row ++ rowDemands columns (index + 1) rest)

/-- The places of a statement that lowering checks. -/
def Statement.demands : Statement → List Demand
  | .select query => query.demands
  | .insert insertion =>
      .insertColumns insertion.table.name insertion.columns.length ::
        .insertRows insertion.table.name insertion.rows.length ::
          rowDemands insertion.columns.length 0 insertion.rows
  | .update change =>
      .updateAssignments change.table.name change.assignments.length ::
        (exprDemands (change.assignments.map Assignment.value) ++ conditionDemands change.filter)
  | .delete removal => conditionDemands removal.filter

/-- The outcome is a failure with the fault of the first demand that is not met, and a success if
all of them are. -/
def AnswersTo {α : Type} (rules : DialectRules) (demands : List Demand)
    (outcome : Except Error α) : Prop :=
  match demands.findSome? (Demand.fault? rules) with
  | some error => outcome = .error error
  | none => ∃ value, outcome = .ok value

namespace AnswersTo

variable {α β : Type} {rules : DialectRules} {demand : Demand} {demands others : List Demand}
  {outcome : Except Error α}

theorem ok (value : α) : AnswersTo rules [] (.ok value) :=
  ⟨value, rfl⟩

theorem bind {next : α → Except Error β} (first : AnswersTo rules demands outcome)
    (second : ∀ value, AnswersTo rules others (next value)) :
    AnswersTo rules (demands ++ others) (outcome >>= next) := by
  rw [AnswersTo] at first
  rw [AnswersTo, List.findSome?_append]
  cases unmet : demands.findSome? (Demand.fault? rules) with
  | some error =>
      rw [unmet] at first
      rw [show outcome = .error error from first]
      rfl
  | none =>
      rw [unmet] at first
      rcases first with ⟨value, rfl⟩
      exact second value

theorem map {finish : α → β} (first : AnswersTo rules demands outcome) :
    AnswersTo rules demands (outcome >>= fun value => pure (finish value)) := by
  rw [← List.append_nil demands]
  exact first.bind fun value => ok (finish value)

theorem fail {error : Error} (unmet : demand.fault? rules = some error) :
    AnswersTo rules (demand :: demands) (throw error : Except Error α) := by
  rw [AnswersTo, List.findSome?_cons, unmet]
  rfl

theorem pass (met : demand.fault? rules = none) (rest : AnswersTo rules demands outcome) :
    AnswersTo rules (demand :: demands) outcome := by
  rw [AnswersTo, List.findSome?_cons, met]
  exact rest

/-- A check in front of a step, which refuses what the demand does. -/
theorem guard {refused : Prop} [Decidable refused] {error : Error}
    (check : demand.fault? rules = if refused then some error else none)
    (rest : AnswersTo rules demands outcome) :
    AnswersTo rules (demand :: demands)
      (if refused then throw error >>= fun (_ : PUnit) => outcome else outcome) := by
  split
  case isTrue holds =>
    apply fail
    rw [check, if_pos holds]
  case isFalse holds =>
    apply pass _ rest
    rw [check, if_neg holds]

theorem exists_eq_ok_iff (answers : AnswersTo rules demands outcome) :
    (∃ value, outcome = .ok value) ↔ ∀ demand ∈ demands, demand.Met rules := by
  have unfaulted : demands.findSome? (Demand.fault? rules) = none ↔
      ∀ demand ∈ demands, demand.Met rules := by
    rw [List.findSome?_eq_none_iff]
    apply forall₂_congr
    intro demand _
    exact Demand.fault?_eq_none
  rw [AnswersTo] at answers
  rw [← unfaulted]
  cases unmet : demands.findSome? (Demand.fault? rules) with
  | some error =>
      rw [unmet] at answers
      simp [show outcome = .error error from answers]
  | none =>
      rw [unmet] at answers
      simpa using answers

theorem eq_error_iff (answers : AnswersTo rules demands outcome) (error : Error) :
    outcome = .error error ↔ demands.findSome? (Demand.fault? rules) = some error := by
  rw [AnswersTo] at answers
  cases unmet : demands.findSome? (Demand.fault? rules) with
  | some fault =>
      rw [unmet] at answers
      simp [show outcome = .error fault from answers]
  | none =>
      rw [unmet] at answers
      rcases answers with ⟨value, rfl⟩
      simp

end AnswersTo

variable (rules : DialectRules)

theorem answersTo_lowerPage (ordered : Bool) (page : Option Page) :
    AnswersTo rules (pageDemands ordered page) (lowerPage rules ordered page) := by
  cases page with
  | none => exact AnswersTo.ok _
  | some page =>
      rw [lowerPage, pageDemands]
      apply AnswersTo.guard
      · rw [Demand.fault?]
      · dsimp only
        cases clause : rules.page page.bounds.1 page.bounds.2 with
        | error error =>
            apply AnswersTo.fail
            rw [Demand.fault?, clause]
        | ok body =>
            apply AnswersTo.guard
            · rw [Demand.fault?, clause]
            · exact AnswersTo.ok _

mutual

theorem Expr.answersTo_lower (expr : Expr) :
    AnswersTo rules expr.demands (expr.lower rules) := by
  cases expr with
  | column _ | argument _ | raw _ =>
      rw [Expr.lower, Expr.demands]
      exact AnswersTo.ok _
  | binary operator left right =>
      rw [Expr.lower, Expr.demands]
      apply AnswersTo.bind (Expr.answersTo_lower left)
      intro leftFragment
      exact AnswersTo.map (Expr.answersTo_lower right)
  | call function arguments =>
      rw [Expr.lower, Expr.demands]
      exact AnswersTo.map (answersTo_lowerExprs arguments)
  | unary _ operand | isNull operand _ =>
      rw [Expr.lower, Expr.demands]
      exact AnswersTo.map (Expr.answersTo_lower operand)
  | inList operand elements negated =>
      rw [Expr.lower, Expr.demands]
      apply AnswersTo.guard
      · cases elements <;> rfl
      · apply AnswersTo.bind (Expr.answersTo_lower operand)
        intro fragment
        exact AnswersTo.map (answersTo_lowerExprs elements)
  | between operand low high negated =>
      rw [Expr.lower, Expr.demands]
      apply AnswersTo.bind (Expr.answersTo_lower operand)
      intro fragment
      apply AnswersTo.bind (Expr.answersTo_lower low)
      intro lowFragment
      exact AnswersTo.map (Expr.answersTo_lower high)
  | like operand pattern negated =>
      rw [Expr.lower, Expr.demands]
      apply AnswersTo.bind (Expr.answersTo_lower operand)
      intro fragment
      exact AnswersTo.map (Expr.answersTo_lower pattern)
  | subquery query | existsQuery query _ =>
      rw [Expr.lower, Expr.demands]
      exact AnswersTo.map (Select.answersTo_lower query)

theorem answersTo_lowerExprs (exprs : List Expr) :
    AnswersTo rules (exprDemands exprs) (lowerExprs rules exprs) := by
  cases exprs with
  | nil =>
      rw [lowerExprs, exprDemands]
      exact AnswersTo.ok _
  | cons expr rest =>
      rw [lowerExprs, exprDemands]
      apply AnswersTo.bind (Expr.answersTo_lower expr)
      intro fragment
      exact AnswersTo.map (answersTo_lowerExprs rest)

theorem answersTo_lowerCondition (keyword : Token) (condition : Option Expr) :
    AnswersTo rules (conditionDemands condition) (lowerCondition rules keyword condition) := by
  cases condition with
  | none =>
      rw [lowerCondition, conditionDemands]
      exact AnswersTo.ok _
  | some condition =>
      rw [lowerCondition, conditionDemands]
      exact AnswersTo.map (Expr.answersTo_lower condition)

theorem answersTo_lowerProjections (projections : List Projection) :
    AnswersTo rules (projectionDemands projections) (lowerProjections rules projections) := by
  match projections with
  | [] =>
      rw [lowerProjections, projectionDemands]
      exact AnswersTo.ok _
  | ⟨expr, label⟩ :: rest =>
      rw [lowerProjections, projectionDemands, Projection.lower]
      apply AnswersTo.bind (AnswersTo.map (Expr.answersTo_lower expr))
      intro fragment
      exact AnswersTo.map (answersTo_lowerProjections rest)

theorem Source.answersTo_lower (source : Source) :
    AnswersTo rules source.demands (source.lower rules) := by
  cases source with
  | table table =>
      rw [Source.lower, Source.demands]
      exact AnswersTo.ok _
  | query query name =>
      rw [Source.lower, Source.demands]
      exact AnswersTo.map (Select.answersTo_lower query)

theorem answersTo_lowerFrom (source : Option Source) :
    AnswersTo rules (sourceDemands source) (lowerFrom rules source) := by
  cases source with
  | none =>
      rw [lowerFrom, sourceDemands]
      exact AnswersTo.ok _
  | some source =>
      rw [lowerFrom, sourceDemands]
      exact AnswersTo.map (Source.answersTo_lower source)

theorem answersTo_lowerJoins (joins : List Join) :
    AnswersTo rules (joinDemands joins) (lowerJoins rules joins) := by
  match joins with
  | [] =>
      rw [lowerJoins, joinDemands]
      exact AnswersTo.ok _
  | ⟨kind, source, condition⟩ :: rest =>
      rw [lowerJoins, joinDemands]
      apply AnswersTo.bind
      · rw [Join.lower]
        apply AnswersTo.guard
        · rw [Demand.fault?]
          cases rules.supports kind <;> rfl
        · apply AnswersTo.bind (Source.answersTo_lower source)
          intro sourceFragment
          cases condition with
          | none =>
              cases kind with
              | cross => exact AnswersTo.pass rfl (AnswersTo.ok _)
              | _ => exact AnswersTo.fail rfl
          | some condition =>
              rw [conditionDemands]
              cases kind with
              | cross => exact AnswersTo.fail rfl
              | _ => exact AnswersTo.pass rfl (AnswersTo.map (Expr.answersTo_lower condition))
      · intro fragment
        exact AnswersTo.map (answersTo_lowerJoins rest)

theorem answersTo_lowerOrderTerms (terms : List OrderTerm) :
    AnswersTo rules (orderDemands terms) (lowerOrderTerms rules terms) := by
  match terms with
  | [] =>
      rw [lowerOrderTerms, orderDemands]
      exact AnswersTo.ok _
  | ⟨expr, direction, nulls⟩ :: rest =>
      rw [lowerOrderTerms, orderDemands, OrderTerm.lower]
      apply AnswersTo.bind (AnswersTo.map (Expr.answersTo_lower expr))
      intro fragment
      exact AnswersTo.map (answersTo_lowerOrderTerms rest)

theorem Select.answersTo_lower (query : Select) :
    AnswersTo rules query.demands (query.lower rules) := by
  match query with
  | ⟨distinct, projections, source, joins, filter, groupBy, having, orderBy, page⟩ =>
      rw [Select.lower, Select.demands]
      apply AnswersTo.bind (answersTo_lowerProjections projections)
      intro items
      apply AnswersTo.bind (answersTo_lowerFrom source)
      intro sourceClause
      apply AnswersTo.bind (answersTo_lowerJoins joins)
      intro joinClauses
      apply AnswersTo.bind (answersTo_lowerCondition .where filter)
      intro filterClause
      apply AnswersTo.bind (answersTo_lowerExprs groupBy)
      intro groups
      apply AnswersTo.bind (answersTo_lowerCondition .having having)
      intro havingClause
      apply AnswersTo.bind (answersTo_lowerOrderTerms orderBy)
      intro terms
      exact AnswersTo.map (answersTo_lowerPage rules (!orderBy.isEmpty) page)

end

theorem answersTo_lowerRows (columns index : Nat) (rows : List (List Expr)) :
    AnswersTo rules (rowDemands columns index rows) (lowerRows rules columns index rows) := by
  induction rows generalizing index with
  | nil => exact AnswersTo.ok _
  | cons row rest ih =>
      rw [lowerRows, rowDemands]
      apply AnswersTo.guard
      · rw [Demand.fault?]
      · apply AnswersTo.bind (answersTo_lowerExprs rules row)
        intro values
        exact AnswersTo.map (ih (index + 1))

theorem answersTo_lowerAssignments (assignments : List Assignment) :
    AnswersTo rules (exprDemands (assignments.map Assignment.value))
      (lowerAssignments rules assignments) := by
  induction assignments with
  | nil => exact AnswersTo.ok _
  | cons assignment rest ih =>
      rw [lowerAssignments, List.map_cons, exprDemands]
      apply AnswersTo.bind (assignment.value.answersTo_lower rules)
      intro value
      exact AnswersTo.map ih

/-- Lowering a statement answers to the demands of its places. -/
theorem Statement.answersTo_lower (statement : Statement) :
    AnswersTo rules statement.demands (statement.lower rules) := by
  cases statement with
  | select query => exact query.answersTo_lower rules
  | insert insertion =>
      rw [Statement.lower, Insert.lower, Statement.demands]
      apply AnswersTo.guard
      · rw [Demand.fault?]
        cases insertion.columns <;> rfl
      · apply AnswersTo.guard
        · rw [Demand.fault?]
          cases insertion.rows <;> rfl
        · exact AnswersTo.map (answersTo_lowerRows rules insertion.columns.length 0 insertion.rows)
  | update change =>
      rw [Statement.lower, Update.lower, Statement.demands]
      apply AnswersTo.guard
      · rw [Demand.fault?]
        cases change.assignments <;> rfl
      · apply AnswersTo.bind (answersTo_lowerAssignments rules change.assignments)
        intro assignments
        exact AnswersTo.map (answersTo_lowerCondition rules .where change.filter)
  | delete removal =>
      rw [Statement.lower, Delete.lower, Statement.demands]
      exact AnswersTo.map (answersTo_lowerCondition rules .where removal.filter)

variable {rules} {statement : Statement}

/-- A statement lowers if the demands of all its places are met. -/
theorem Statement.exists_lower_eq_ok_iff :
    (∃ fragment, statement.lower rules = .ok fragment) ↔
      ∀ demand ∈ statement.demands, demand.Met rules :=
  (statement.answersTo_lower rules).exists_eq_ok_iff

/-- A statement fails to lower with the fault of the first place whose demand is not met. -/
theorem Statement.lower_eq_error_iff {error : Error} :
    statement.lower rules = .error error ↔
      statement.demands.findSome? (Demand.fault? rules) = some error :=
  (statement.answersTo_lower rules).eq_error_iff error

end SqlMapper
