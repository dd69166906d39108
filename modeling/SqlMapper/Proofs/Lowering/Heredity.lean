import SqlMapper.Proofs.Lowering.Success

/-!
# Properties of every lowered fragment

A fragment is built of single chunks by appending, by parentheses and by calls. What holds of the
parts and passes on to what is built of them holds of every fragment that lowering returns, provided
that it holds of the page clauses, which the dialect writes on its own.
-/

namespace SqlMapper

namespace Chunk

theorem opens_token_eq_false {token : Token} (other : token ≠ .openParen) :
    (Chunk.token token).opens = false := by
  cases token <;> first | rfl | exact absurd rfl other

theorem closes_token_eq_false {token : Token} (other : token ≠ .closeParen) :
    (Chunk.token token).closes = false := by
  cases token <;> first | rfl | exact absurd rfl other

end Chunk

/-- The property passes from fragments to what lowering builds of them. -/
structure Fragment.Hereditary (holds : Fragment → Prop) : Prop where
  empty : holds .empty
  /-- A chunk that neither opens nor closes a nesting level. -/
  ofChunk : ∀ {chunk : Chunk}, chunk.opens = false → chunk.closes = false →
    holds (.ofChunk chunk)
  append : ∀ {first second : Fragment}, holds first → holds second → holds (first ++ second)
  parenthesized : ∀ {fragment : Fragment}, holds fragment → holds fragment.parenthesized
  called : ∀ {function : String} {fragment : Fragment}, holds fragment →
    holds (.called function fragment)

namespace Fragment.Hereditary

variable {holds : Fragment → Prop}

theorem ofToken (hereditary : Hereditary holds) (token : Token)
    (flat : token ≠ .openParen ∧ token ≠ .closeParen) : holds (.ofToken token) :=
  hereditary.ofChunk (Chunk.opens_token_eq_false flat.1) (Chunk.closes_token_eq_false flat.2)

theorem parenthesizedIf (hereditary : Hereditary holds) (needed : Bool) {fragment : Fragment}
    (part : holds fragment) : holds (parenthesizedIf needed fragment) := by
  cases needed with
  | true => exact hereditary.parenthesized part
  | false => exact part

theorem negation (hereditary : Hereditary holds) (negated : Bool) : holds (negation negated) := by
  cases negated with
  | true => exact hereditary.ofToken .not (by decide)
  | false => exact hereditary.empty

theorem named (hereditary : Hereditary holds) {fragment : Fragment} {name : String}
    (part : holds fragment) : holds (fragment.named name) := by
  have built : fragment.named name = fragment ++ .ofToken .as ++ .ofName name := by
    ext1
    simp
  rw [built]
  exact hereditary.append (hereditary.append part (hereditary.ofToken .as (by decide)))
    (hereditary.ofChunk rfl rfl)

theorem commaSeparated (hereditary : Hereditary holds) {fragments : List Fragment}
    (parts : ∀ fragment ∈ fragments, holds fragment) : holds (commaSeparated fragments) := by
  rw [SqlMapper.commaSeparated]
  induction fragments with
  | nil => exact hereditary.empty
  | cons first rest ih =>
      have firstHolds : holds first := parts first (by simp)
      have restHolds : holds (join .comma rest) := ih fun fragment member =>
        parts fragment (by simp [member])
      cases rest with
      | nil => exact firstHolds
      | cons second others =>
          exact hereditary.append
            (hereditary.append firstHolds (hereditary.ofToken .comma (by decide))) restHolds

theorem ofTokens (hereditary : Hereditary holds) {keywords : List Token}
    (flat : ∀ keyword ∈ keywords, keyword ≠ .openParen ∧ keyword ≠ .closeParen) :
    holds ⟨keywords.map .token⟩ := by
  induction keywords with
  | nil => exact hereditary.empty
  | cons keyword rest ih =>
      have restFlat : ∀ other ∈ rest, other ≠ .openParen ∧ other ≠ .closeParen :=
        fun other member => flat other (by simp [member])
      exact hereditary.append (hereditary.ofToken keyword (flat keyword (by simp))) (ih restFlat)

theorem clauseOf (hereditary : Hereditary holds) (keywords : List Token) {body : Fragment}
    (flat : ∀ keyword ∈ keywords, keyword ≠ .openParen ∧ keyword ≠ .closeParen)
    (part : holds body) : holds (clauseOf keywords body) := by
  have boundary : holds (.ofChunk .clauseBreak) := hereditary.ofChunk rfl rfl
  exact hereditary.append (hereditary.append boundary (hereditary.ofTokens flat)) part

theorem nullsKeywords (hereditary : Hereditary holds) (nulls : Option NullsOrder) :
    holds (nullsKeywords nulls) := by
  have keywords : ∀ place : Token, place ≠ .openParen ∧ place ≠ .closeParen →
      holds (.ofToken .nulls ++ .ofToken place) := fun place flat =>
    hereditary.append (hereditary.ofToken .nulls (by decide)) (hereditary.ofToken place flat)
  rcases nulls with _ | _ | _
  · exact hereditary.empty
  · exact keywords .first (by decide)
  · exact keywords .last (by decide)

theorem table (hereditary : Hereditary holds) (table : Table) : holds table.lower := by
  have base : holds (.ofName table.name) := hereditary.ofChunk rfl rfl
  unfold Table.lower
  split
  · exact hereditary.named base
  · exact base

theorem lowerPage (hereditary : Hereditary holds) {rules : DialectRules}
    (pages : ∀ offset limit clause, rules.page offset limit = .ok clause → holds clause)
    {ordered : Bool} {page : Option Page} {fragment : Fragment}
    (lowered : lowerPage rules ordered page = .ok fragment) : holds fragment := by
  cases page with
  | none =>
      rw [lowerPage_none_eq_ok] at lowered
      rw [← lowered]
      exact hereditary.empty
  | some page =>
      rw [lowerPage_some_eq_ok] at lowered
      rcases lowered with ⟨_, body, clause, _, rfl⟩
      exact hereditary.clauseOf [] (by simp) (pages _ _ body clause)

/-- The page clause of a built-in dialect is built of single tokens and arguments. -/
theorem pageClause (hereditary : Hereditary holds) {dialect : Dialect} {offset limit : Nat}
    {fragment : Fragment} (clause : dialect.rules.page offset limit = .ok fragment) :
    holds fragment := by
  have built : ∀ parts : List PagePart,
      (∀ token, .token token ∈ parts → token ≠ .openParen ∧ token ≠ .closeParen) →
      ∀ {fragment : Fragment}, SqlMapper.pageClause parts offset limit = .ok fragment →
        holds fragment := by
    intro parts flat fragment clause
    induction parts generalizing fragment with
    | nil =>
        rw [← Except.ok.inj clause]
        exact hereditary.empty
    | cons part rest ih =>
        have restFlat : ∀ token, PagePart.token token ∈ rest →
            token ≠ .openParen ∧ token ≠ .closeParen := fun token member =>
          flat token (by simp [member])
        cases part with
        | token token =>
            simp only [SqlMapper.pageClause, bind_eq_ok, pure_eq_ok] at clause
            rcases clause with ⟨body, bodyClause, rfl⟩
            have tokenFlat := flat token (by simp)
            exact hereditary.append (hereditary.ofToken token tokenFlat) (ih restFlat bodyClause)
        | offset =>
            simp only [SqlMapper.pageClause, bind_eq_ok, pure_eq_ok] at clause
            rcases clause with ⟨argument, _, body, bodyClause, rfl⟩
            exact hereditary.append (hereditary.ofChunk rfl rfl) (ih restFlat bodyClause)
        | limit =>
            simp only [SqlMapper.pageClause, bind_eq_ok, pure_eq_ok] at clause
            rcases clause with ⟨argument, _, body, bodyClause, rfl⟩
            exact hereditary.append (hereditary.ofChunk rfl rfl) (ih restFlat bodyClause)
  refine built dialect.pageParts ?_ clause
  cases dialect <;> simp [Dialect.pageParts, limitOffset, limitComma, offsetFetch]

end Fragment.Hereditary

section Lowering

variable {holds : Fragment → Prop} {rules : DialectRules}
  (hereditary : Fragment.Hereditary holds)
  (pages : ∀ offset limit clause, rules.page offset limit = .ok clause → holds clause)

include hereditary pages

-- The linter does not count a use that is passed on by the recursion.
set_option linter.unusedSectionVars false

mutual

/-- A hereditary property of a dialect's page clauses holds of every lowered expression. -/
theorem Expr.holds_lower (expr : Expr) {fragment : Fragment}
    (lowered : expr.lower rules = .ok fragment) : holds fragment := by
  cases expr with
  | column column =>
      rw [Expr.lower_column_eq_ok] at lowered
      rw [← lowered]
      exact hereditary.ofChunk rfl rfl
  | argument argument =>
      rw [Expr.lower_argument_eq_ok] at lowered
      rw [← lowered]
      exact hereditary.ofChunk rfl rfl
  | raw text =>
      rw [Expr.lower_raw_eq_ok] at lowered
      rw [← lowered]
      exact hereditary.ofChunk rfl rfl
  | binary operator left right =>
      rw [Expr.lower_binary_eq_ok] at lowered
      rcases lowered with ⟨leftFragment, leftLowered, rightFragment, rightLowered, rfl⟩
      have leftHolds := Expr.holds_lower left leftLowered
      have rightHolds := Expr.holds_lower right rightLowered
      have signHolds : holds (.ofToken operator.token) :=
        hereditary.ofToken _ (by cases operator <;> decide)
      exact hereditary.append (hereditary.append (hereditary.parenthesizedIf _ leftHolds) signHolds)
        (hereditary.parenthesizedIf _ rightHolds)
  | unary operator operand =>
      rw [Expr.lower_unary_eq_ok] at lowered
      rcases lowered with ⟨operandFragment, operandLowered, rfl⟩
      have operandHolds := Expr.holds_lower operand operandLowered
      have signHolds : holds (.ofToken operator.token) :=
        hereditary.ofToken _ (by cases operator <;> decide)
      exact hereditary.append signHolds (hereditary.parenthesizedIf _ operandHolds)
  | call function arguments =>
      rw [Expr.lower_call_eq_ok] at lowered
      rcases lowered with ⟨fragments, argumentsLowered, rfl⟩
      have argumentsHold := holds_lowerExprs arguments argumentsLowered
      exact hereditary.called (hereditary.commaSeparated argumentsHold)
  | isNull operand negated =>
      rw [Expr.lower_isNull_eq_ok] at lowered
      rcases lowered with ⟨operandFragment, operandLowered, rfl⟩
      have operandHolds := Expr.holds_lower operand operandLowered
      have tested := hereditary.append (hereditary.parenthesizedIf operand.isBinary operandHolds)
        (hereditary.ofToken .is (by decide))
      exact hereditary.append (hereditary.append tested (hereditary.negation negated))
        (hereditary.ofToken .null (by decide))
  | inList operand elements negated =>
      rw [Expr.lower_inList_eq_ok] at lowered
      rcases lowered with ⟨_, operandFragment, operandLowered, fragments, elementsLowered, rfl⟩
      have operandHolds := Expr.holds_lower operand operandLowered
      have elementsHold := holds_lowerExprs elements elementsLowered
      have tested := hereditary.append (hereditary.parenthesizedIf operand.isBinary operandHolds)
        (hereditary.negation negated)
      exact hereditary.append (hereditary.append tested (hereditary.ofToken .in (by decide)))
        (hereditary.parenthesized (hereditary.commaSeparated elementsHold))
  | between operand low high negated =>
      rw [Expr.lower_between_eq_ok] at lowered
      rcases lowered with
        ⟨operandFragment, operandLowered, lowFragment, lowLowered, highFragment, highLowered, rfl⟩
      have operandHolds := Expr.holds_lower operand operandLowered
      have lowHolds := Expr.holds_lower low lowLowered
      have highHolds := Expr.holds_lower high highLowered
      have tested := hereditary.append (hereditary.parenthesizedIf operand.isBinary operandHolds)
        (hereditary.negation negated)
      have headed := hereditary.append tested (hereditary.ofToken .between (by decide))
      have bounded := hereditary.append
        (hereditary.append headed (hereditary.parenthesizedIf low.isBinary lowHolds))
        (hereditary.ofToken .and (by decide))
      exact hereditary.append bounded (hereditary.parenthesizedIf high.isBinary highHolds)
  | like operand pattern negated =>
      rw [Expr.lower_like_eq_ok] at lowered
      rcases lowered with ⟨operandFragment, operandLowered, patternFragment, patternLowered, rfl⟩
      have operandHolds := Expr.holds_lower operand operandLowered
      have patternHolds := Expr.holds_lower pattern patternLowered
      have tested := hereditary.append (hereditary.parenthesizedIf operand.isBinary operandHolds)
        (hereditary.negation negated)
      have headed := hereditary.append tested (hereditary.ofToken .like (by decide))
      exact hereditary.append headed (hereditary.parenthesizedIf pattern.isBinary patternHolds)
  | subquery query =>
      rw [Expr.lower_subquery_eq_ok] at lowered
      rcases lowered with ⟨queryFragment, queryLowered, rfl⟩
      exact hereditary.parenthesized (Select.holds_lower query queryLowered)
  | existsQuery query negated =>
      rw [Expr.lower_existsQuery_eq_ok] at lowered
      rcases lowered with ⟨queryFragment, queryLowered, rfl⟩
      have queryHolds := Select.holds_lower query queryLowered
      have keywords := hereditary.append (hereditary.negation negated)
        (hereditary.ofToken .exists (by decide))
      exact hereditary.append keywords (hereditary.parenthesized queryHolds)

theorem holds_lowerExprs (exprs : List Expr) {fragments : List Fragment}
    (lowered : lowerExprs rules exprs = .ok fragments) :
    ∀ fragment ∈ fragments, holds fragment := by
  cases exprs with
  | nil =>
      rw [lowerExprs_nil_eq_ok] at lowered
      rw [← lowered]
      exact List.forall_mem_nil _
  | cons expr rest =>
      rw [lowerExprs_cons_eq_ok] at lowered
      rcases lowered with ⟨first, firstLowered, others, othersLowered, rfl⟩
      have firstHolds := Expr.holds_lower expr firstLowered
      have othersHold := holds_lowerExprs rest othersLowered
      exact List.forall_mem_cons.2 ⟨firstHolds, othersHold⟩

theorem holds_lowerCondition (keyword : Token) (flat : keyword ≠ .openParen ∧ keyword ≠ .closeParen)
    (condition : Option Expr) {fragment : Fragment}
    (lowered : lowerCondition rules keyword condition = .ok fragment) : holds fragment := by
  cases condition with
  | none =>
      rw [lowerCondition_none_eq_ok] at lowered
      rw [← lowered]
      exact hereditary.empty
  | some condition =>
      rw [lowerCondition_some_eq_ok] at lowered
      rcases lowered with ⟨body, bodyLowered, rfl⟩
      have bodyHolds := Expr.holds_lower condition bodyLowered
      exact hereditary.clauseOf [keyword] (by simpa using flat) bodyHolds

theorem holds_lowerProjections (projections : List Projection) {fragments : List Fragment}
    (lowered : lowerProjections rules projections = .ok fragments) :
    ∀ fragment ∈ fragments, holds fragment := by
  match projections with
  | [] =>
      rw [lowerProjections_nil_eq_ok] at lowered
      rw [← lowered]
      exact List.forall_mem_nil _
  | ⟨expr, label⟩ :: rest =>
      rw [lowerProjections_cons_eq_ok] at lowered
      rcases lowered with ⟨first, firstLowered, others, othersLowered, rfl⟩
      rw [Projection.lower_eq_ok] at firstLowered
      rcases firstLowered with ⟨body, bodyLowered, rfl⟩
      have bodyHolds := Expr.holds_lower expr bodyLowered
      have othersHold := holds_lowerProjections rest othersLowered
      refine List.forall_mem_cons.2 ⟨?_, othersHold⟩
      cases label with
      | none => exact bodyHolds
      | some name => exact hereditary.named bodyHolds

theorem Source.holds_lower (source : Source) {fragment : Fragment}
    (lowered : source.lower rules = .ok fragment) : holds fragment := by
  cases source with
  | table table =>
      rw [Source.lower_table_eq_ok] at lowered
      rw [← lowered]
      exact hereditary.table table
  | query query name =>
      rw [Source.lower_query_eq_ok] at lowered
      rcases lowered with ⟨body, bodyLowered, rfl⟩
      have bodyHolds := Select.holds_lower query bodyLowered
      exact hereditary.named (hereditary.parenthesized bodyHolds)

theorem holds_lowerFrom (source : Option Source) {fragment : Fragment}
    (lowered : lowerFrom rules source = .ok fragment) : holds fragment := by
  cases source with
  | none =>
      rw [lowerFrom_none_eq_ok] at lowered
      rw [← lowered]
      exact hereditary.empty
  | some source =>
      rw [lowerFrom_some_eq_ok] at lowered
      rcases lowered with ⟨body, bodyLowered, rfl⟩
      have bodyHolds := Source.holds_lower source bodyLowered
      exact hereditary.clauseOf [.from] (by decide) bodyHolds

theorem holds_lowerJoins (joins : List Join) {fragment : Fragment}
    (lowered : lowerJoins rules joins = .ok fragment) : holds fragment := by
  match joins with
  | [] =>
      rw [lowerJoins_nil_eq_ok] at lowered
      rw [← lowered]
      exact hereditary.empty
  | ⟨kind, source, none⟩ :: rest =>
      rw [lowerJoins_cons_eq_ok] at lowered
      rcases lowered with ⟨first, firstLowered, others, othersLowered, rfl⟩
      rw [Join.lower_eq_ok] at firstLowered
      rcases firstLowered with ⟨_, body, bodyLowered, ⟨_, _, rfl⟩ | ⟨_, _, _, missing, _⟩⟩
      · have bodyHolds := Source.holds_lower source bodyLowered
        have head := hereditary.clauseOf [kind.token, .join]
          (by cases kind <;> decide) bodyHolds
        exact hereditary.append head (holds_lowerJoins rest othersLowered)
      · cases missing
  | ⟨kind, source, some condition⟩ :: rest =>
      rw [lowerJoins_cons_eq_ok] at lowered
      rcases lowered with ⟨first, firstLowered, others, othersLowered, rfl⟩
      rw [Join.lower_eq_ok] at firstLowered
      rcases firstLowered with
        ⟨_, body, bodyLowered, ⟨_, excess, _⟩ | ⟨_, _, on, same, onLowered, rfl⟩⟩
      · cases excess
      · have bodyHolds := Source.holds_lower source bodyLowered
        have onHolds := Expr.holds_lower condition
          (Option.some.inj same ▸ onLowered)
        have head := hereditary.clauseOf [kind.token, .join]
          (by cases kind <;> decide) bodyHolds
        have whole := hereditary.append
          (hereditary.append head (hereditary.ofToken .on (by decide))) onHolds
        exact hereditary.append whole (holds_lowerJoins rest othersLowered)

theorem holds_lowerOrderTerms (terms : List OrderTerm) {fragments : List Fragment}
    (lowered : lowerOrderTerms rules terms = .ok fragments) :
    ∀ fragment ∈ fragments, holds fragment := by
  match terms with
  | [] =>
      rw [lowerOrderTerms_nil_eq_ok] at lowered
      rw [← lowered]
      exact List.forall_mem_nil _
  | ⟨expr, direction, nulls⟩ :: rest =>
      rw [lowerOrderTerms_cons_eq_ok] at lowered
      rcases lowered with ⟨first, firstLowered, others, othersLowered, rfl⟩
      rw [OrderTerm.lower_eq_ok] at firstLowered
      rcases firstLowered with ⟨body, bodyLowered, rfl⟩
      have bodyHolds := Expr.holds_lower expr bodyLowered
      have othersHold := holds_lowerOrderTerms rest othersLowered
      have directed := hereditary.append bodyHolds
        (hereditary.ofToken direction.token (by cases direction <;> decide))
      exact List.forall_mem_cons.2
        ⟨hereditary.append directed (hereditary.nullsKeywords nulls), othersHold⟩

/-- A hereditary property of a dialect's page clauses holds of every lowered query. -/
theorem Select.holds_lower (query : Select) {fragment : Fragment}
    (lowered : query.lower rules = .ok fragment) : holds fragment := by
  match query with
  | ⟨distinct, projections, source, joins, filter, groupBy, having, orderBy, page⟩ =>
      rw [Select.lower_eq_ok] at lowered
      dsimp only at lowered
      rcases lowered with ⟨items, itemsLowered, sourceClause, sourceLowered, joinClauses,
        joinsLowered, filterClause, filterLowered, groups, groupsLowered, havingClause,
        havingLowered, terms, termsLowered, pageClause, pageLowered, rfl⟩
      have itemsHold := holds_lowerProjections projections itemsLowered
      have sourceHolds := holds_lowerFrom source sourceLowered
      have joinsHold := holds_lowerJoins joins joinsLowered
      have filterHolds := holds_lowerCondition .where (by decide) filter
        filterLowered
      have groupsHold := holds_lowerExprs groupBy groupsLowered
      have havingHolds := holds_lowerCondition .having (by decide) having
        havingLowered
      have termsHold := holds_lowerOrderTerms orderBy termsLowered
      have pageHolds := hereditary.lowerPage pages pageLowered
      have marked : holds (if distinct then .ofToken .distinct else .empty) := by
        split
        · exact hereditary.ofToken .distinct (by decide)
        · exact hereditary.empty
      have listed : holds (if projections.isEmpty then .ofToken .star
          else commaSeparated items) := by
        split
        · exact hereditary.ofToken .star (by decide)
        · exact hereditary.commaSeparated itemsHold
      have grouped : holds (if groupBy.isEmpty then .empty
          else clauseOf [.group, .by] (commaSeparated groups)) := by
        split
        · exact hereditary.empty
        · exact hereditary.clauseOf [.group, .by] (by decide) (hereditary.commaSeparated groupsHold)
      have ordered : holds (if orderBy.isEmpty then .empty
          else clauseOf [.order, .by] (commaSeparated terms)) := by
        split
        · exact hereditary.empty
        · exact hereditary.clauseOf [.order, .by] (by decide) (hereditary.commaSeparated termsHold)
      have head := hereditary.append
        (hereditary.append (hereditary.ofToken .select (by decide)) marked) listed
      have read := hereditary.append (hereditary.append head sourceHolds) joinsHold
      have filtered := hereditary.append (hereditary.append read filterHolds) grouped
      exact hereditary.append (hereditary.append (hereditary.append filtered havingHolds) ordered)
        pageHolds

end

theorem holds_lowerRows {width index : Nat} (rows : List (List Expr)) {fragments : List Fragment}
    (lowered : lowerRows rules width index rows = .ok fragments) :
    ∀ fragment ∈ fragments, holds fragment := by
  induction rows generalizing index fragments with
  | nil =>
      rw [lowerRows_nil_eq_ok] at lowered
      rw [← lowered]
      exact List.forall_mem_nil _
  | cons row rest ih =>
      rw [lowerRows_cons_eq_ok] at lowered
      rcases lowered with ⟨_, values, valuesLowered, others, othersLowered, rfl⟩
      have valuesHold := holds_lowerExprs hereditary pages row valuesLowered
      have rowHolds := hereditary.parenthesized (hereditary.commaSeparated valuesHold)
      exact List.forall_mem_cons.2 ⟨rowHolds, ih othersLowered⟩

theorem holds_lowerAssignments (assignments : List Assignment) {fragments : List Fragment}
    (lowered : lowerAssignments rules assignments = .ok fragments) :
    ∀ fragment ∈ fragments, holds fragment := by
  induction assignments generalizing fragments with
  | nil =>
      rw [lowerAssignments_nil_eq_ok] at lowered
      rw [← lowered]
      exact List.forall_mem_nil _
  | cons assignment rest ih =>
      rw [lowerAssignments_cons_eq_ok] at lowered
      rcases lowered with ⟨value, valueLowered, others, othersLowered, rfl⟩
      have valueHolds := Expr.holds_lower hereditary pages assignment.value valueLowered
      have target : holds (.ofName assignment.column.name ++ .ofToken .equal) :=
        hereditary.append (hereditary.ofChunk rfl rfl) (hereditary.ofToken .equal (by decide))
      exact List.forall_mem_cons.2 ⟨hereditary.append target valueHolds, ih othersLowered⟩

/-- A hereditary property of a dialect's page clauses holds of every lowered statement. -/
theorem Statement.holds_lower (statement : Statement) {fragment : Fragment}
    (lowered : statement.lower rules = .ok fragment) : holds fragment := by
  have word (token : Token) (flat : token ≠ .openParen ∧ token ≠ .closeParen) :
      holds (.ofToken token) := hereditary.ofToken token flat
  cases statement with
  | select query => exact query.holds_lower hereditary pages lowered
  | insert insertion =>
      rw [Statement.lower, Insert.lower_eq_ok] at lowered
      rcases lowered with ⟨_, _, rows, rowsLowered, rfl⟩
      have rowsHold := holds_lowerRows hereditary pages insertion.rows rowsLowered
      have columns : ∀ name ∈ insertion.columns.map fun column => Fragment.ofName column.name,
          holds name := by
        intro name member
        rcases List.mem_map.1 member with ⟨column, _, rfl⟩
        exact hereditary.ofChunk rfl rfl
      have keywords := hereditary.append (word .insert (by decide)) (word .into (by decide))
      have name : holds (.ofName insertion.table.name) := hereditary.ofChunk rfl rfl
      have target := hereditary.append keywords name
      have head := hereditary.append target
        (hereditary.parenthesized (hereditary.commaSeparated columns))
      exact hereditary.append head
        (hereditary.clauseOf [.values] (by decide) (hereditary.commaSeparated rowsHold))
  | update change =>
      rw [Statement.lower, Update.lower_eq_ok] at lowered
      rcases lowered with ⟨_, assignments, assignmentsLowered, filterClause, filterLowered, rfl⟩
      have assignmentsHold :=
        holds_lowerAssignments hereditary pages change.assignments assignmentsLowered
      have filterHolds := holds_lowerCondition hereditary pages .where (by decide) change.filter
        filterLowered
      have head := hereditary.append (word .update (by decide)) (hereditary.table change.table)
      have assigned := hereditary.append head
        (hereditary.clauseOf [.set] (by decide) (hereditary.commaSeparated assignmentsHold))
      exact hereditary.append assigned filterHolds
  | delete removal =>
      rw [Statement.lower, Delete.lower_eq_ok] at lowered
      rcases lowered with ⟨filterClause, filterLowered, rfl⟩
      have filterHolds := holds_lowerCondition hereditary pages .where (by decide) removal.filter
        filterLowered
      have keywords := hereditary.append (word .delete (by decide)) (word .from (by decide))
      exact hereditary.append (hereditary.append keywords (hereditary.table removal.table))
        filterHolds

end Lowering

end SqlMapper
