import SqlMapper.Proofs.Grammar.Derivation

/-!
# Units of lowered expressions

An expression that lowers for a dialect with balanced page clauses is readable: its columns,
arguments, raw text, calls and queries become units of the grammar. Columns, arguments and raw text
do so whatever the dialect is.
-/

namespace SqlMapper

open Grammar

namespace Expr

/-- The expression is read as a unit. -/
def isUnit : Expr → Bool
  | .column _ | .argument _ | .raw _ | .call .. | .subquery _ => true
  | .existsQuery _ negated => !negated
  | _ => false

mutual

/-- The units of the expression are units of the grammar. -/
def Readable (rules : DialectRules) : Expr → Prop
  | .binary _ left right => left.Readable rules ∧ right.Readable rules
  | .unary _ operand => operand.Readable rules
  | .isNull operand _ => operand.Readable rules
  | .inList operand elements _ => operand.Readable rules ∧ AllReadable rules elements
  | .between operand low high _ =>
      operand.Readable rules ∧ low.Readable rules ∧ high.Readable rules
  | .like operand pattern _ => operand.Readable rules ∧ pattern.Readable rules
  | .existsQuery query _ => IsUnit ((Expr.existsQuery query false).chunks rules)
  | atom => IsUnit (atom.chunks rules)

/-- The expressions are readable. -/
def AllReadable (rules : DialectRules) : List Expr → Prop
  | [] => True
  | expr :: rest => expr.Readable rules ∧ AllReadable rules rest

end

theorem reading_of_isUnit {rules : DialectRules} {expr : Expr} (unit : expr.isUnit = true) :
    expr.reading rules = .unit (expr.chunks rules) := by
  cases expr with
  | existsQuery query negated =>
      cases negated with
      | true => cases unit
      | false => rfl
  | binary | unary | isNull | inList | between | like => cases unit
  | _ => rfl

theorem Readable.isUnit {rules : DialectRules} {expr : Expr} (readable : expr.Readable rules)
    (unit : expr.isUnit = true) : IsUnit (expr.chunks rules) := by
  cases expr with
  | existsQuery query negated =>
      cases negated with
      | true => cases unit
      | false => exact readable
  | binary | unary | isNull | inList | between | like => cases unit
  | _ => exact readable

theorem derives_of_isUnit {rules : DialectRules} {expr : Expr} {fragment : Fragment}
    {level reach : Nat} (unit : expr.isUnit = true) (readable : expr.Readable rules)
    (lowered : expr.lower rules = .ok fragment) :
    Derives level reach (expr.reading rules) fragment.chunks := by
  have isUnit := readable.isUnit unit
  rw [reading_of_isUnit unit, ← chunks_eq lowered]
  exact .unit isUnit

/-- A negated `EXISTS` is written as `NOT` before the one that is not negated. -/
theorem lower_negated_exists {rules : DialectRules} {query : Select} {fragment : Fragment}
    (lowered : (Expr.existsQuery query true).lower rules = .ok fragment) :
    ∃ plain, (Expr.existsQuery query false).lower rules = .ok plain ∧
      fragment.chunks = .token .not :: plain.chunks ∧
      (Expr.existsQuery query true).reading rules = .unary .not (.unit plain.chunks) := by
  rw [lower_existsQuery_eq_ok] at lowered
  rcases lowered with ⟨queryFragment, queryLowered, rfl⟩
  have plain : (Expr.existsQuery query false).lower rules =
      .ok (negation false ++ .ofToken .exists ++ queryFragment.parenthesized) :=
    lower_existsQuery_eq_ok.2 ⟨queryFragment, queryLowered, rfl⟩
  refine ⟨_, plain, rfl, ?_⟩
  rw [reading, chunks_eq plain]

end Expr

/-- A query starts with its keyword, and what follows it is balanced. -/
theorem Select.chunks_lower {rules : DialectRules} (pages : rules.PagesBalanced) {query : Select}
    {fragment : Fragment} (lowered : query.lower rules = .ok fragment) :
    ∃ body, fragment.chunks = .token .select :: body ∧ Chunk.Balanced body := by
  have balanced := Select.balanced_lower pages lowered
  rw [Select.lower_eq_ok] at lowered
  rcases lowered with ⟨_, _, _, _, _, _, _, _, _, _, _, _, _, _, _, _, rfl⟩
  simp only [Fragment.chunks_append, Fragment.chunks_ofToken, List.cons_append] at balanced ⊢
  exact ⟨_, rfl, balanced⟩

mutual

/-- What lowers for a dialect with balanced page clauses is readable. -/
theorem DialectRules.PagesBalanced.readable {rules : DialectRules} (pages : rules.PagesBalanced)
    (expr : Expr) {fragment : Fragment} (lowered : expr.lower rules = .ok fragment) :
    expr.Readable rules := by
  cases expr with
  | column column => exact .column _ _
  | argument bound => exact .argument bound
  | raw text => exact .raw text
  | binary operator left right =>
      rw [Expr.lower_binary_eq_ok] at lowered
      rcases lowered with ⟨leftFragment, leftLowered, rightFragment, rightLowered, _⟩
      exact ⟨pages.readable left leftLowered, pages.readable right rightLowered⟩
  | unary operator operand =>
      rw [Expr.lower_unary_eq_ok] at lowered
      rcases lowered with ⟨operandFragment, operandLowered, _⟩
      exact pages.readable operand operandLowered
  | call function arguments =>
      have whole := Expr.chunks_eq lowered
      rw [Expr.lower_call_eq_ok] at lowered
      rcases lowered with ⟨fragments, argumentsLowered, rfl⟩
      rw [Expr.Readable, whole, Fragment.chunks_called]
      · exact .call function (balanced_lowerExprs pages argumentsLowered)
      all_goals simp
  | isNull operand negated =>
      rw [Expr.lower_isNull_eq_ok] at lowered
      rcases lowered with ⟨operandFragment, operandLowered, _⟩
      exact pages.readable operand operandLowered
  | inList operand elements negated =>
      rw [Expr.lower_inList_eq_ok] at lowered
      rcases lowered with ⟨_, operandFragment, operandLowered, fragments, elementsLowered, _⟩
      exact ⟨pages.readable operand operandLowered,
        pages.allReadable elements elementsLowered⟩
  | between operand low high negated =>
      rw [Expr.lower_between_eq_ok] at lowered
      rcases lowered with
        ⟨operandFragment, operandLowered, lowFragment, lowLowered, highFragment, highLowered, _⟩
      exact ⟨pages.readable operand operandLowered, pages.readable low lowLowered,
        pages.readable high highLowered⟩
  | like operand pattern negated =>
      rw [Expr.lower_like_eq_ok] at lowered
      rcases lowered with ⟨operandFragment, operandLowered, patternFragment, patternLowered, _⟩
      exact ⟨pages.readable operand operandLowered, pages.readable pattern patternLowered⟩
  | subquery query =>
      have whole := Expr.chunks_eq lowered
      rw [Expr.lower_subquery_eq_ok] at lowered
      rcases lowered with ⟨queryFragment, queryLowered, rfl⟩
      rcases Select.chunks_lower pages queryLowered with ⟨body, written, balanced⟩
      rw [Expr.Readable, whole, Fragment.chunks_parenthesized, written]
      · exact .query balanced
      all_goals simp
  | existsQuery query negated =>
      rw [Expr.lower_existsQuery_eq_ok] at lowered
      rcases lowered with ⟨queryFragment, queryLowered, _⟩
      have plain : (Expr.existsQuery query false).lower rules =
          .ok (negation false ++ .ofToken .exists ++ queryFragment.parenthesized) :=
        Expr.lower_existsQuery_eq_ok.2 ⟨queryFragment, queryLowered, rfl⟩
      rw [Expr.Readable, Expr.chunks_eq plain]
      exact .existsQuery (Select.balanced_lower pages queryLowered)

theorem DialectRules.PagesBalanced.allReadable {rules : DialectRules} (pages : rules.PagesBalanced)
    (exprs : List Expr) {fragments : List Fragment}
    (lowered : lowerExprs rules exprs = .ok fragments) : Expr.AllReadable rules exprs := by
  cases exprs with
  | nil => trivial
  | cons expr rest =>
      rw [lowerExprs_cons_eq_ok] at lowered
      rcases lowered with ⟨first, firstLowered, others, othersLowered, _⟩
      exact ⟨pages.readable expr firstLowered, pages.allReadable rest othersLowered⟩

end

/-- What lowers for a built-in dialect is readable. -/
theorem Expr.readable_of_lower {dialect : Dialect} (expr : Expr) {fragment : Fragment}
    (lowered : expr.lower dialect.rules = .ok fragment) : expr.Readable dialect.rules :=
  dialect.pagesBalanced.readable expr lowered

end SqlMapper
