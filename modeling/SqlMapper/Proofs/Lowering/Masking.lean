import SqlMapper.Proofs.Lowering.Success

/-!
# The text of a statement does not depend on its data

The data of a statement are its arguments and the bounds of its pages. Masking a statement puts the
same argument in place of all of them and keeps everything else; a bound that is no SQL integer is
kept as well, because a dialect refuses it by its number. Two statements differ in data only if
masking makes them the same. Lowering commutes with masking, and a fragment has the text of the
masked one, so such statements fail alike or are written alike.
-/

namespace SqlMapper

/-- The argument that stands for every other. -/
def Argument.masked (_ : Argument) : Argument := ⟨.integer 0, .integer⟩

/-- The argument of a chunk is masked. -/
def Chunk.masked : Chunk → Chunk
  | .argument bound => .argument bound.masked
  | chunk => chunk

/-- The arguments of a fragment are masked. -/
def Fragment.masked (fragment : Fragment) : Fragment :=
  ⟨fragment.chunks.map Chunk.masked⟩

/-- A bound that is a SQL integer is masked. -/
def Page.maskedBound (bound : Nat) : Nat :=
  if (bound : Int) ≤ greatestInteger then 0 else bound

/-- The bounds of a page are masked, those that it leaves out too. -/
def Page.masked (page : Page) : Page where
  offset := some (maskedBound page.bounds.1)
  limit := some (maskedBound page.bounds.2)

mutual

/-- The data of an expression are masked. -/
def Expr.masked : Expr → Expr
  | .column column => .column column
  | .argument argument => .argument argument.masked
  | .raw text => .raw text
  | .binary operator left right => .binary operator left.masked right.masked
  | .unary operator operand => .unary operator operand.masked
  | .call function arguments => .call function (maskedExprs arguments)
  | .isNull operand negated => .isNull operand.masked negated
  | .inList operand elements negated => .inList operand.masked (maskedExprs elements) negated
  | .between operand low high negated => .between operand.masked low.masked high.masked negated
  | .like operand pattern negated => .like operand.masked pattern.masked negated
  | .subquery query => .subquery query.masked
  | .existsQuery query negated => .existsQuery query.masked negated

def maskedExprs : List Expr → List Expr
  | [] => []
  | expr :: rest => expr.masked :: maskedExprs rest

def maskedCondition : Option Expr → Option Expr
  | none => none
  | some condition => some condition.masked

def maskedProjections : List Projection → List Projection
  | [] => []
  | ⟨expr, label⟩ :: rest => ⟨expr.masked, label⟩ :: maskedProjections rest

def Source.masked : Source → Source
  | .table table => .table table
  | .query query aliasName => .query query.masked aliasName

def maskedSource : Option Source → Option Source
  | none => none
  | some source => some source.masked

def maskedJoins : List Join → List Join
  | [] => []
  | ⟨kind, source, condition⟩ :: rest =>
      ⟨kind, source.masked, maskedCondition condition⟩ :: maskedJoins rest

def maskedOrderTerms : List OrderTerm → List OrderTerm
  | [] => []
  | ⟨expr, direction, nulls⟩ :: rest => ⟨expr.masked, direction, nulls⟩ :: maskedOrderTerms rest

/-- The data of a query are masked. -/
def Select.masked : Select → Select
  | { distinct, projections, source, joins, filter, groupBy, having, orderBy, page } =>
      { distinct
        projections := maskedProjections projections
        source := maskedSource source
        joins := maskedJoins joins
        filter := maskedCondition filter
        groupBy := maskedExprs groupBy
        having := maskedCondition having
        orderBy := maskedOrderTerms orderBy
        page := page.map Page.masked }

end

def Assignment.masked (assignment : Assignment) : Assignment :=
  { assignment with value := assignment.value.masked }

/-- The data of a statement are masked. -/
def Statement.masked : Statement → Statement
  | .select query => .select query.masked
  | .insert insertion => .insert { insertion with rows := insertion.rows.map maskedExprs }
  | .update change =>
      .update
        { change with
          assignments := change.assignments.map Assignment.masked
          filter := maskedCondition change.filter }
  | .delete removal => .delete { removal with filter := maskedCondition removal.filter }

namespace Fragment

@[simp]
theorem masked_empty : empty.masked = empty := rfl

@[simp]
theorem masked_append (first second : Fragment) :
    (first ++ second).masked = first.masked ++ second.masked := by
  ext1
  simp [masked]

@[simp]
theorem masked_ofToken (token : Token) : (ofToken token).masked = ofToken token := rfl

@[simp]
theorem masked_ofName (name : String) : (ofName name).masked = ofName name := rfl

@[simp]
theorem masked_ofArgument (argument : Argument) :
    (ofArgument argument).masked = ofArgument argument.masked := rfl

@[simp]
theorem masked_parenthesized (fragment : Fragment) :
    fragment.parenthesized.masked = fragment.masked.parenthesized := by
  ext1
  simp [masked, Chunk.masked]

@[simp]
theorem masked_named (fragment : Fragment) (name : String) :
    (fragment.named name).masked = fragment.masked.named name := by
  ext1
  simp [masked, Chunk.masked]

@[simp]
theorem masked_called (function : String) (fragment : Fragment) :
    (called function fragment).masked = called function fragment.masked := by
  ext1
  simp [masked, Chunk.masked]

@[simp]
theorem masked_parenthesizedIf (needed : Bool) (fragment : Fragment) :
    (parenthesizedIf needed fragment).masked = parenthesizedIf needed fragment.masked := by
  cases needed <;> simp [parenthesizedIf]

@[simp]
theorem masked_negation (negated : Bool) : (negation negated).masked = negation negated := by
  cases negated <;> rfl

@[simp]
theorem masked_clauseOf (keywords : List Token) (body : Fragment) :
    (clauseOf keywords body).masked = clauseOf keywords body.masked := by
  ext1
  simp [clauseOf, masked, Chunk.masked]

@[simp]
theorem masked_nullsKeywords (nulls : Option NullsOrder) :
    (nullsKeywords nulls).masked = nullsKeywords nulls := by
  rcases nulls with _ | _ | _ <;> rfl

@[simp]
theorem masked_table (table : Table) : table.lower.masked = table.lower := by
  rcases table with ⟨name, _ | aliasName, columns, key⟩ <;> rfl

@[simp]
theorem masked_commaSeparated (fragments : List Fragment) :
    (commaSeparated fragments).masked = commaSeparated (fragments.map masked) := by
  rw [commaSeparated, commaSeparated]
  induction fragments with
  | nil => rfl
  | cons first rest ih =>
      cases rest with
      | nil => rfl
      | cons second others =>
          have comma : (first.pushToken .comma).masked = first.masked.pushToken .comma := by
            ext1
            simp [masked, Chunk.masked]
          rw [join, masked_append, ih, comma]
          · rfl
          · simp

theorem arguments_masked (fragment : Fragment) :
    fragment.masked.arguments = fragment.arguments.map Argument.masked := by
  have argument?_masked : Chunk.argument? ∘ Chunk.masked =
      fun chunk => chunk.argument?.map Argument.masked := by
    funext chunk
    cases chunk <;> rfl
  rw [arguments, arguments, masked, List.filterMap_map, argument?_masked, List.map_filterMap]

theorem argumentCount_masked (fragment : Fragment) :
    fragment.masked.argumentCount = fragment.argumentCount := by
  rw [argumentCount, argumentCount, arguments_masked, List.length_map]

end Fragment

theorem Chunk.spaced_masked (current next : Chunk) :
    current.masked.spaced next.masked = current.spaced next := by
  cases current <;> cases next <;> rfl

namespace Rendering

variable (signs : Signs) (layout : Layout)

theorem spaceBehind_masked (chunk : Chunk) (rest : List Chunk) :
    spaceBehind chunk.masked (rest.map Chunk.masked) = spaceBehind chunk rest := by
  cases rest with
  | nil => rfl
  | cons next others => rw [List.map_cons, spaceBehind, spaceBehind, Chunk.spaced_masked]

theorem chunkText_masked (state : State) (last : Bool) (chunk : Chunk) :
    chunkText signs layout state last chunk.masked = chunkText signs layout state last chunk := by
  cases chunk <;> rfl

theorem advance_masked (state : State) (chunk : Chunk) (written : List Char) :
    state.advance chunk.masked written = state.advance chunk written := by
  cases chunk <;> rfl

theorem write_masked (state : State) (chunks : List Chunk) :
    write signs layout state (chunks.map Chunk.masked) = write signs layout state chunks := by
  induction chunks generalizing state with
  | nil => rfl
  | cons chunk rest ih =>
      simp only [List.map_cons, write, List.isEmpty_map, chunkText_masked, spaceBehind_masked,
        advance_masked, ih]

end Rendering

/-- A text does not show the arguments. -/
theorem Fragment.render_masked (fragment : Fragment) (signs : Signs) (layout : Layout) :
    fragment.masked.render signs layout = fragment.render signs layout := by
  rw [render, render, masked, Rendering.write_masked]

theorem Expr.isBinary_masked (expr : Expr) : expr.masked.isBinary = expr.isBinary := by
  cases expr <;> rw [Expr.masked] <;> rfl

theorem Expr.needsParens_masked (around : BinaryOperator) (side : Side) (expr : Expr) :
    expr.masked.needsParens around side = expr.needsParens around side := by
  cases expr <;> rw [Expr.masked] <;> rfl

theorem isEmpty_maskedExprs (exprs : List Expr) :
    (maskedExprs exprs).isEmpty = exprs.isEmpty := by
  cases exprs with
  | nil => rw [maskedExprs]
  | cons expr rest =>
      rw [maskedExprs]
      rfl

theorem length_maskedExprs (exprs : List Expr) : (maskedExprs exprs).length = exprs.length := by
  induction exprs with
  | nil => rw [maskedExprs]
  | cons expr rest ih => rw [maskedExprs, List.length_cons, List.length_cons, ih]

theorem isEmpty_maskedProjections (projections : List Projection) :
    (maskedProjections projections).isEmpty = projections.isEmpty := by
  cases projections with
  | nil => rw [maskedProjections]
  | cons projection rest =>
      rcases projection with ⟨expr, label⟩
      rw [maskedProjections]
      rfl

theorem isEmpty_maskedOrderTerms (terms : List OrderTerm) :
    (maskedOrderTerms terms).isEmpty = terms.isEmpty := by
  cases terms with
  | nil => rw [maskedOrderTerms]
  | cons term rest =>
      rcases term with ⟨expr, direction, nulls⟩
      rw [maskedOrderTerms]
      rfl

theorem countArgument_maskedBound (name : String) (count : Nat) :
    countArgument name (Page.maskedBound count) =
      (countArgument name count).map Argument.masked := by
  rw [Page.maskedBound, countArgument, countArgument]
  by_cases fits : (count : Int) ≤ greatestInteger
  · rw [if_pos fits, if_pos fits]
    rfl
  · rw [if_neg fits, if_neg fits]
    rfl

theorem pageClause_maskedBound (parts : List PagePart) (offset limit : Nat) :
    pageClause parts (Page.maskedBound offset) (Page.maskedBound limit) =
      (pageClause parts offset limit).map Fragment.masked := by
  induction parts with
  | nil => rfl
  | cons part rest ih =>
      cases part with
      | token token =>
          apply finish_eq_map ih
          intro clause
          simp
      | offset | limit =>
          apply bind_eq_map (countArgument_maskedBound _ _)
          intro argument
          apply finish_eq_map ih
          intro clause
          simp

section Lowering

variable (dialect : Dialect)

theorem lowerPage_masked (ordered : Bool) (page : Option Page) :
    lowerPage dialect.rules ordered (page.map Page.masked) =
      (lowerPage dialect.rules ordered page).map Fragment.masked := by
  cases page with
  | none => rfl
  | some page =>
      rw [Option.map_some, lowerPage, lowerPage]
      apply guard_eq_map
      apply bind_eq_map (pageClause_maskedBound dialect.pageParts page.bounds.1 page.bounds.2)
      intro clause
      rw [Fragment.argumentCount_masked]
      apply guard_eq_map
      exact congrArg Except.ok (Fragment.masked_clauseOf [] clause).symm

mutual

theorem Expr.lower_masked (expr : Expr) :
    expr.masked.lower dialect.rules = (expr.lower dialect.rules).map Fragment.masked := by
  cases expr with
  | column _ | raw _ =>
      rw [Expr.masked, Expr.lower]
      rfl
  | argument argument =>
      rw [Expr.masked, Expr.lower, Expr.lower]
      rfl
  | binary operator left right =>
      rw [Expr.masked, Expr.lower, Expr.lower]
      apply bind_eq_map (Expr.lower_masked left)
      intro leftFragment
      apply finish_eq_map (Expr.lower_masked right)
      intro rightFragment
      simp [Expr.needsParens_masked]
  | call function arguments =>
      rw [Expr.masked, Expr.lower, Expr.lower]
      apply finish_eq_map (lowerExprs_masked arguments)
      intro fragments
      simp
  | unary _ operand | isNull operand _ =>
      rw [Expr.masked, Expr.lower, Expr.lower]
      apply finish_eq_map (Expr.lower_masked operand)
      intro fragment
      simp [Expr.isBinary_masked]
  | inList operand elements negated =>
      rw [Expr.masked, Expr.lower, Expr.lower, isEmpty_maskedExprs]
      apply guard_eq_map
      apply bind_eq_map (Expr.lower_masked operand)
      intro fragment
      apply finish_eq_map (lowerExprs_masked elements)
      intro fragments
      simp [Expr.isBinary_masked]
  | between operand low high negated =>
      rw [Expr.masked, Expr.lower, Expr.lower]
      apply bind_eq_map (Expr.lower_masked operand)
      intro fragment
      apply bind_eq_map (Expr.lower_masked low)
      intro lowFragment
      apply finish_eq_map (Expr.lower_masked high)
      intro highFragment
      simp [Expr.isBinary_masked]
  | like operand pattern negated =>
      rw [Expr.masked, Expr.lower, Expr.lower]
      apply bind_eq_map (Expr.lower_masked operand)
      intro fragment
      apply finish_eq_map (Expr.lower_masked pattern)
      intro patternFragment
      simp [Expr.isBinary_masked]
  | subquery query | existsQuery query _ =>
      rw [Expr.masked, Expr.lower, Expr.lower]
      apply finish_eq_map (Select.lower_masked query)
      intro fragment
      simp

theorem lowerExprs_masked (exprs : List Expr) :
    lowerExprs dialect.rules (maskedExprs exprs) =
      (lowerExprs dialect.rules exprs).map (List.map Fragment.masked) := by
  cases exprs with
  | nil =>
      rw [maskedExprs, lowerExprs]
      rfl
  | cons expr rest =>
      rw [maskedExprs, lowerExprs, lowerExprs]
      apply bind_eq_map (Expr.lower_masked expr)
      intro fragment
      apply finish_eq_map (lowerExprs_masked rest)
      intro fragments
      rfl

theorem lowerCondition_masked (keyword : Token) (condition : Option Expr) :
    lowerCondition dialect.rules keyword (maskedCondition condition) =
      (lowerCondition dialect.rules keyword condition).map Fragment.masked := by
  cases condition with
  | none =>
      rw [maskedCondition, lowerCondition]
      rfl
  | some condition =>
      rw [maskedCondition, lowerCondition, lowerCondition]
      apply finish_eq_map (Expr.lower_masked condition)
      intro fragment
      simp

theorem lowerProjections_masked (projections : List Projection) :
    lowerProjections dialect.rules (maskedProjections projections) =
      (lowerProjections dialect.rules projections).map (List.map Fragment.masked) := by
  match projections with
  | [] =>
      rw [maskedProjections, lowerProjections]
      rfl
  | ⟨expr, label⟩ :: rest =>
      have item : Projection.lower dialect.rules ⟨expr.masked, label⟩ =
          (Projection.lower dialect.rules ⟨expr, label⟩).map Fragment.masked := by
        rw [Projection.lower, Projection.lower]
        apply finish_eq_map (Expr.lower_masked expr)
        intro fragment
        cases label <;> simp
      rw [maskedProjections, lowerProjections, lowerProjections]
      apply bind_eq_map item
      intro fragment
      apply finish_eq_map (lowerProjections_masked rest)
      intro fragments
      rfl

theorem Source.lower_masked (source : Source) :
    source.masked.lower dialect.rules = (source.lower dialect.rules).map Fragment.masked := by
  cases source with
  | table table =>
      rw [Source.masked, Source.lower]
      exact congrArg Except.ok (Fragment.masked_table table).symm
  | query query name =>
      rw [Source.masked, Source.lower, Source.lower]
      apply finish_eq_map (Select.lower_masked query)
      intro fragment
      simp

theorem lowerFrom_masked (source : Option Source) :
    lowerFrom dialect.rules (maskedSource source) =
      (lowerFrom dialect.rules source).map Fragment.masked := by
  cases source with
  | none =>
      rw [maskedSource, lowerFrom]
      rfl
  | some source =>
      rw [maskedSource, lowerFrom, lowerFrom]
      apply finish_eq_map (Source.lower_masked source)
      intro fragment
      simp

theorem lowerJoins_masked (joins : List Join) :
    lowerJoins dialect.rules (maskedJoins joins) =
      (lowerJoins dialect.rules joins).map Fragment.masked := by
  match joins with
  | [] =>
      rw [maskedJoins, lowerJoins]
      rfl
  | ⟨kind, source, condition⟩ :: rest =>
      have joined : Join.lower dialect.rules ⟨kind, source.masked, maskedCondition condition⟩ =
          (Join.lower dialect.rules ⟨kind, source, condition⟩).map Fragment.masked := by
        rw [Join.lower, Join.lower]
        apply guard_eq_map
        apply bind_eq_map (Source.lower_masked source)
        intro fragment
        have head : (clauseOf [kind.token, .join] fragment).masked =
          clauseOf [kind.token, .join] fragment.masked := Fragment.masked_clauseOf _ _
        cases condition with
        | none =>
            rw [maskedCondition]
            cases kind with
            | cross => exact congrArg Except.ok head.symm
            | _ => rfl
        | some condition =>
            rw [maskedCondition]
            cases kind with
            | cross => rfl
            | _ =>
                apply finish_eq_map (Expr.lower_masked condition)
                intro conditionFragment
                simp
      rw [maskedJoins, lowerJoins, lowerJoins]
      apply bind_eq_map joined
      intro fragment
      apply finish_eq_map (lowerJoins_masked rest)
      intro fragments
      simp

theorem lowerOrderTerms_masked (terms : List OrderTerm) :
    lowerOrderTerms dialect.rules (maskedOrderTerms terms) =
      (lowerOrderTerms dialect.rules terms).map (List.map Fragment.masked) := by
  match terms with
  | [] =>
      rw [maskedOrderTerms, lowerOrderTerms]
      rfl
  | ⟨expr, direction, nulls⟩ :: rest =>
      have ordered : OrderTerm.lower dialect.rules ⟨expr.masked, direction, nulls⟩ =
          (OrderTerm.lower dialect.rules ⟨expr, direction, nulls⟩).map Fragment.masked := by
        rw [OrderTerm.lower, OrderTerm.lower]
        apply finish_eq_map (Expr.lower_masked expr)
        intro fragment
        simp
      rw [maskedOrderTerms, lowerOrderTerms, lowerOrderTerms]
      apply bind_eq_map ordered
      intro fragment
      apply finish_eq_map (lowerOrderTerms_masked rest)
      intro fragments
      rfl

theorem Select.lower_masked (query : Select) :
    query.masked.lower dialect.rules = (query.lower dialect.rules).map Fragment.masked := by
  match query with
  | ⟨distinct, projections, source, joins, filter, groupBy, having, orderBy, page⟩ =>
      rw [Select.masked, Select.lower, Select.lower]
      apply bind_eq_map (lowerProjections_masked projections)
      intro items
      apply bind_eq_map (lowerFrom_masked source)
      intro sourceClause
      apply bind_eq_map (lowerJoins_masked joins)
      intro joinClauses
      apply bind_eq_map (lowerCondition_masked .where filter)
      intro filterClause
      apply bind_eq_map (lowerExprs_masked groupBy)
      intro groups
      apply bind_eq_map (lowerCondition_masked .having having)
      intro havingClause
      apply bind_eq_map (lowerOrderTerms_masked orderBy)
      intro terms
      rw [isEmpty_maskedOrderTerms]
      apply finish_eq_map (lowerPage_masked dialect (!orderBy.isEmpty) page)
      intro pageFragment
      simp [apply_ite Fragment.masked, isEmpty_maskedProjections, isEmpty_maskedExprs]

end

theorem lowerRows_masked (width index : Nat) (rows : List (List Expr)) :
    lowerRows dialect.rules width index (rows.map maskedExprs) =
      (lowerRows dialect.rules width index rows).map (List.map Fragment.masked) := by
  induction rows generalizing index with
  | nil => rfl
  | cons row rest ih =>
      rw [List.map_cons, lowerRows, lowerRows, length_maskedExprs]
      apply guard_eq_map
      apply bind_eq_map (lowerExprs_masked dialect row)
      intro values
      apply finish_eq_map (ih (index + 1))
      intro fragments
      simp

theorem lowerAssignments_masked (assignments : List Assignment) :
    lowerAssignments dialect.rules (assignments.map Assignment.masked) =
      (lowerAssignments dialect.rules assignments).map (List.map Fragment.masked) := by
  induction assignments with
  | nil => rfl
  | cons assignment rest ih =>
      rw [List.map_cons, lowerAssignments, lowerAssignments]
      apply bind_eq_map (assignment.value.lower_masked dialect)
      intro value
      apply finish_eq_map ih
      intro fragments
      simp [Assignment.masked]

/-- Lowering commutes with masking. -/
theorem Statement.lower_masked (statement : Statement) :
    statement.masked.lower dialect.rules =
      (statement.lower dialect.rules).map Fragment.masked := by
  cases statement with
  | select query => exact query.lower_masked dialect
  | insert insertion =>
      rw [Statement.masked, Statement.lower, Statement.lower, Insert.lower, Insert.lower]
      apply guard_eq_map
      rw [List.isEmpty_map]
      apply guard_eq_map
      apply finish_eq_map
        (lowerRows_masked dialect insertion.columns.length 0 insertion.rows)
      intro rows
      simp [Function.comp_def]
  | update change =>
      rw [Statement.masked, Statement.lower, Statement.lower, Update.lower, Update.lower,
        List.isEmpty_map]
      apply guard_eq_map
      apply bind_eq_map (lowerAssignments_masked dialect change.assignments)
      intro assignments
      apply finish_eq_map (lowerCondition_masked dialect .where change.filter)
      intro filterClause
      simp
  | delete removal =>
      rw [Statement.masked, Statement.lower, Statement.lower, Delete.lower, Delete.lower]
      apply finish_eq_map (lowerCondition_masked dialect .where removal.filter)
      intro filterClause
      simp

end Lowering

/-- Statements that differ in data only either fail with the same error or have the same text, with
as many placeholders, and fragments that differ in arguments only. -/
theorem Statement.lower_alike_of_masked_eq (dialect : Dialect) (layout : Layout)
    {first second : Statement} (alike : first.masked = second.masked) :
    (∀ error, first.lower dialect.rules = .error error ↔
      second.lower dialect.rules = .error error) ∧
    ∀ fragment, first.lower dialect.rules = .ok fragment →
      ∃ other, second.lower dialect.rules = .ok other ∧
        other.masked = fragment.masked ∧
        other.render dialect.rules.signs layout = fragment.render dialect.rules.signs layout ∧
        other.argumentCount = fragment.argumentCount := by
  have same : (first.lower dialect.rules).map Fragment.masked =
      (second.lower dialect.rules).map Fragment.masked := by
    rw [← first.lower_masked, ← second.lower_masked, alike]
  cases firstLowered : first.lower dialect.rules with
  | error fault =>
      cases secondLowered : second.lower dialect.rules with
      | error otherFault =>
          rw [firstLowered, secondLowered] at same
          cases same
          refine ⟨fun _ => Iff.rfl, ?_⟩
          intro fragment lowered
          cases lowered
      | ok other =>
          rw [firstLowered, secondLowered] at same
          cases same
  | ok fragment =>
      cases secondLowered : second.lower dialect.rules with
      | error otherFault =>
          rw [firstLowered, secondLowered] at same
          cases same
      | ok other =>
          rw [firstLowered, secondLowered] at same
          have sameMasked : other.masked = fragment.masked := (Except.ok.inj same).symm
          refine ⟨by simp, ?_⟩
          intro lowered isLowered
          cases isLowered
          refine ⟨other, rfl, sameMasked, ?_, ?_⟩
          · rw [← other.render_masked, sameMasked, fragment.render_masked]
          · rw [← other.argumentCount_masked, sameMasked, fragment.argumentCount_masked]

/-- A page of the rows that hold a value in a subquery. -/
def pageOfMatches (bound : Argument) (page : Page) : Statement :=
  .select
    { filter := some <|
        .existsQuery { filter := some (.binary .equal (.raw "a") (.argument bound)) } true
      orderBy := [⟨.raw "a", .ascending, none⟩]
      page := some page }

theorem Statement.lower_alike_pageOfMatches :
    (pageOfMatches ⟨.null, .integer⟩ { limit := some 7 }).masked =
        (pageOfMatches ⟨.text "1; --", .text⟩ { offset := some 3, limit := some 0 }).masked ∧
      ∃ fragment other,
        (pageOfMatches ⟨.null, .integer⟩ { limit := some 7 }).lower Dialect.sqlServer.rules =
            .ok fragment ∧
          (pageOfMatches ⟨.text "1; --", .text⟩ { offset := some 3, limit := some 0 }).lower
              Dialect.sqlServer.rules = .ok other ∧
          other.render Dialect.sqlServer.rules.signs (.beautified 2) =
            fragment.render Dialect.sqlServer.rules.signs (.beautified 2) := by
  have alike : (pageOfMatches ⟨.null, .integer⟩ { limit := some 7 }).masked =
      (pageOfMatches ⟨.text "1; --", .text⟩ { offset := some 3, limit := some 0 }).masked := rfl
  refine ⟨alike, ?_⟩
  rcases Statement.lower_alike_of_masked_eq .sqlServer (.beautified 2) alike with ⟨_, succeeds⟩
  rcases succeeds _ rfl with ⟨other, lowered, _, sameText, _⟩
  exact ⟨_, other, rfl, lowered, sameText⟩

end SqlMapper
