import SqlMapper.Statement.Lowering

/-!
# Readings of expressions

A reading says which operator owns which operands. Columns, arguments, raw text, calls and queries
are units: a reading keeps their chunks as they are. The reading of an expression is the tree that
its chunks should be read as.

Operators and predicates bind with strengths, twice the precedence of a binary operator, so that the
strengths in between are free for `NOT`, which binds more loosely than the comparisons and more
tightly than `AND`, and for what stands on the right of an operator that groups to the left.
-/

namespace SqlMapper

/-- How strongly a binary operator binds. -/
def BinaryOperator.strength (operator : BinaryOperator) : Nat :=
  2 * operator.precedence

/-- How strongly an operator binds that stands before its operand: `NOT` lies between `AND` and the
comparisons, the sign binds more tightly than every binary operator. -/
def UnaryOperator.strength : UnaryOperator → Nat
  | .not => 2 * BinaryOperator.and.precedence + 1
  | .negate => 2 * BinaryOperator.concat.precedence + 1

/-- How strongly a predicate binds: it stands at the level of the comparisons. -/
def predicateStrength : Nat :=
  BinaryOperator.equal.strength

/-- Which operator of an expression owns which operands. -/
inductive Reading where
  /-- A column, an argument, raw text, a call or a query. -/
  | unit (chunks : List Chunk)
  | binary (operator : BinaryOperator) (left right : Reading)
  | unary (operator : UnaryOperator) (operand : Reading)
  | isNull (operand : Reading) (negated : Bool)
  | inList (operand : Reading) (elements : List Reading) (negated : Bool)
  | between (operand low high : Reading) (negated : Bool)
  | like (operand pattern : Reading) (negated : Bool)

namespace Expr

/-- The chunks of an expression that lowers. -/
def chunks (rules : DialectRules) (expr : Expr) : List Chunk :=
  match expr.lower rules with
  | .ok fragment => fragment.chunks
  | .error _ => []

theorem chunks_eq {rules : DialectRules} {expr : Expr} {fragment : Fragment}
    (lowered : expr.lower rules = .ok fragment) : expr.chunks rules = fragment.chunks := by
  rw [chunks, lowered]

mutual

/-- The reading of an expression, in which every node owns its own operands. A negated `EXISTS`
reads as `NOT` of an `EXISTS`. -/
def reading (rules : DialectRules) : Expr → Reading
  | .binary operator left right => .binary operator (left.reading rules) (right.reading rules)
  | .unary operator operand => .unary operator (operand.reading rules)
  | .isNull operand negated => .isNull (operand.reading rules) negated
  | .inList operand elements negated =>
      .inList (operand.reading rules) (readings rules elements) negated
  | .between operand low high negated =>
      .between (operand.reading rules) (low.reading rules) (high.reading rules) negated
  | .like operand pattern negated =>
      .like (operand.reading rules) (pattern.reading rules) negated
  | .existsQuery query true => .unary .not (.unit ((Expr.existsQuery query false).chunks rules))
  | atom => .unit (atom.chunks rules)

/-- The readings of expressions. -/
def readings (rules : DialectRules) : List Expr → List Reading
  | [] => []
  | expr :: rest => expr.reading rules :: readings rules rest

end

end Expr

end SqlMapper
