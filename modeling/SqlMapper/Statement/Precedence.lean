import SqlMapper.Sql.Fragment
import SqlMapper.Statement.Tree

/-!
# Precedence of operators

A binary operand is written in parentheses when its own operator binds more loosely than the one
around it, or as strongly but on the right of an operator that does not associate. A predicate
stands at the level of the comparisons.
-/

namespace SqlMapper

namespace BinaryOperator

/-- How the operator is written. -/
def token : BinaryOperator → Token
  | equal => .equal
  | notEqual => .notEqual
  | less => .less
  | lessEqual => .lessEqual
  | greater => .greater
  | greaterEqual => .greaterEqual
  | and => .and
  | or => .or
  | add => .plus
  | subtract => .minus
  | multiply => .star
  | divide => .slash
  | concat => .concat

/-- How strongly the operator binds. -/
def precedence : BinaryOperator → Nat
  | or => 1
  | and => 2
  | equal | notEqual | less | lessEqual | greater | greaterEqual => 3
  | add | subtract => 4
  | multiply | divide => 5
  | concat => 6

/-- Operands may be regrouped without a change of the value. -/
def associates : BinaryOperator → Bool
  | and | or | add | multiply | concat => true
  | _ => false

end BinaryOperator

/-- How the operator is written. -/
def UnaryOperator.token : UnaryOperator → Token
  | not => .not
  | negate => .minus

/-- The side of a binary operator on which an operand stands. -/
inductive Side where
  | left
  | right
  deriving DecidableEq, Repr

namespace Expr

/-- The expression is a binary operation. -/
def isBinary : Expr → Bool
  | .binary .. => true
  | _ => false

/-- As an operand of a binary operator the expression stands in parentheses. -/
def needsParens (around : BinaryOperator) (side : Side) : Expr → Bool
  | .binary operator _ _ =>
      operator.precedence < around.precedence ||
        (side == .right && operator.precedence == around.precedence && !around.associates)
  | .isNull .. | .inList .. | .between .. | .like .. =>
      BinaryOperator.equal.precedence < around.precedence
  | _ => false

end Expr

/-- The fragment, in parentheses if it needs them. -/
def parenthesizedIf (needed : Bool) (fragment : Fragment) : Fragment :=
  if needed then fragment.parenthesized else fragment

end SqlMapper
