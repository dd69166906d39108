import SqlMapper.Proofs.Lowering.Failures

/-!
# Bracketings of a chain

The operands between operators that associate may be bracketed in many ways. The bracketing does not
show: on either side of such an operator an operand is in parentheses for the same reasons, and an
operation of the operator itself is in none. So all the trees over the same operands are written as
one chain, and they fail with the fault of the first operand that has one.
-/

namespace SqlMapper

/-- A binary tree over operands. -/
inductive Bracketing where
  | operand (expr : Expr)
  | pair (left right : Bracketing)

namespace Bracketing

/-- The expression with an operator between the two sides of every pair. -/
def expr (operator : BinaryOperator) : Bracketing → Expr
  | operand expr => expr
  | pair left right => .binary operator (left.expr operator) (right.expr operator)

/-- The operands from left to right. -/
def operands : Bracketing → List Expr
  | operand expr => [expr]
  | pair left right => left.operands ++ right.operands

theorem operands_ne_nil (tree : Bracketing) : tree.operands ≠ [] := by
  induction tree with
  | operand expr => simp [operands]
  | pair left right ihLeft _ => simp [operands, ihLeft]

theorem operands_pair_ne_singleton (left right : Bracketing) (expr : Expr) :
    (pair left right).operands ≠ [expr] := by
  intro same
  have two := congrArg List.length same
  have first := List.length_pos_iff.2 left.operands_ne_nil
  have second := List.length_pos_iff.2 right.operands_ne_nil
  simp only [operands, List.length_append, List.length_singleton] at two
  omega

end Bracketing

namespace BinaryOperator

/-- An operand of the operator, in parentheses if it needs them on the left. -/
def lowerOperand (rules : DialectRules) (operator : BinaryOperator) (operand : Expr) :
    Except Error Fragment := do
  let fragment ← operand.lower rules
  return parenthesizedIf (operand.needsParens operator .left) fragment

/-- Operands with the operator between each two. -/
def lowerChain (rules : DialectRules) (operator : BinaryOperator) :
    List Expr → Except Error Fragment
  | [] => .ok .empty
  | [operand] => operator.lowerOperand rules operand
  | operand :: rest => do
      let first ← operator.lowerOperand rules operand
      let others ← operator.lowerChain rules rest
      return first ++ .ofToken operator.token ++ others

/-- The operators whose operations may be regrouped. -/
def chained : List BinaryOperator :=
  [.and, .or, .add, .multiply, .concat]

variable {rules : DialectRules} {operator : BinaryOperator} {first second : List Expr}
  {left right : Expr} {error : Error}

theorem lowerOperand_eq_error (operator : BinaryOperator) {operand : Expr} :
    operator.lowerOperand rules operand = .error error ↔ operand.lower rules = .error error :=
  map_eq_error

theorem exists_lowerOperand_eq_ok (operator : BinaryOperator) {operand : Expr} :
    (∃ fragment, operator.lowerOperand rules operand = .ok fragment) ↔
      ∃ fragment, operand.lower rules = .ok fragment :=
  exists_map_eq_ok

theorem lowerChain_cons {operand : Expr} (more : second ≠ []) :
    operator.lowerChain rules (operand :: second) = (do
      let before ← operator.lowerOperand rules operand
      let behind ← operator.lowerChain rules second
      return before ++ .ofToken operator.token ++ behind) := by
  cases second with
  | nil => exact absurd rfl more
  | cons next rest => rfl

theorem lowerChain_append (some : first ≠ []) (more : second ≠ []) :
    operator.lowerChain rules (first ++ second) = (do
      let before ← operator.lowerChain rules first
      let behind ← operator.lowerChain rules second
      return before ++ .ofToken operator.token ++ behind) := by
  induction first with
  | nil => exact absurd rfl some
  | cons operand rest ih =>
      rcases rest with _ | ⟨next, rest⟩
      · exact lowerChain_cons more
      · have joined := ih (List.cons_ne_nil next rest)
        rw [List.cons_append, lowerChain_cons (by simp), joined,
          lowerChain_cons (List.cons_ne_nil next rest)]
        simp [Fragment.append_assoc]

/-- A chain fails with the fault of its first operand that has one. -/
theorem lowerChain_eq_error (some : first ≠ []) :
    operator.lowerChain rules first = .error error ↔
      ∃ before failing behind, first = before ++ failing :: behind ∧
        (∀ operand ∈ before, ∃ fragment, operand.lower rules = .ok fragment) ∧
        failing.lower rules = .error error := by
  induction first with
  | nil => exact absurd rfl some
  | cons operand rest ih =>
      rw [exists_first_cons]
      rcases rest with _ | ⟨next, rest⟩
      · simp [lowerChain, lowerOperand_eq_error]
      · have more := List.cons_ne_nil next rest
        rw [lowerChain_cons more, bind_eq_error, lowerOperand_eq_error, ← ih more,
          ← exists_lowerOperand_eq_ok operator]
        simp only [map_eq_error, exists_and_right]

theorem needsParens_right (known : operator ∈ chained) (operand : Expr) :
    operand.needsParens operator .right = operand.needsParens operator .left := by
  have associates : operator.associates = true := by
    revert operator
    decide
  cases operand <;> simp [Expr.needsParens, associates]

/-- Both operands of an operator of a chain are written as operands of the chain. -/
theorem lower_binary (known : operator ∈ chained) :
    (Expr.binary operator left right).lower rules = (do
      let before ← operator.lowerOperand rules left
      let behind ← operator.lowerOperand rules right
      return before ++ .ofToken operator.token ++ behind) := by
  simp [Expr.lower, lowerOperand, needsParens_right known]

/-- An operation of the operator itself is in no parentheses. -/
theorem lowerOperand_binary :
    operator.lowerOperand rules (.binary operator left right) =
      (Expr.binary operator left right).lower rules := by
  simp [lowerOperand, Expr.needsParens, parenthesizedIf]

end BinaryOperator

namespace Bracketing

open BinaryOperator

variable {rules : DialectRules} {operator : BinaryOperator} {first second : Bracketing}

/-- As an operand of the operator, every tree is written as the chain of its operands. -/
theorem lowerOperand_expr (known : operator ∈ chained) (tree : Bracketing) :
    operator.lowerOperand rules (tree.expr operator) =
      operator.lowerChain rules tree.operands := by
  induction tree with
  | operand expr => rfl
  | pair left right ihLeft ihRight =>
      rw [expr, lowerOperand_binary, lower_binary known, ihLeft, ihRight, operands,
        lowerChain_append left.operands_ne_nil right.operands_ne_nil]

/-- Two trees over the same operands are written alike: the operator's trees lower to the same
fragment, or they fail with the fault of the first operand that has one. -/
theorem lower_eq_of_operands_eq (known : operator ∈ chained)
    (same : first.operands = second.operands) :
    (first.expr operator).lower rules = (second.expr operator).lower rules ∧
      ∀ error, (first.expr operator).lower rules = .error error ↔
        ∃ before failing behind, first.operands = before ++ failing :: behind ∧
          (∀ operand ∈ before, ∃ fragment, operand.lower rules = .ok fragment) ∧
          failing.lower rules = .error error := by
  constructor
  · cases first with
    | operand expr =>
        cases second with
        | operand other =>
            cases same
            rfl
        | pair left right => exact absurd same.symm (operands_pair_ne_singleton left right expr)
    | pair left right =>
        cases second with
        | operand other => exact absurd same (operands_pair_ne_singleton left right other)
        | pair before behind =>
            have written : operator.lowerOperand rules ((pair left right).expr operator) =
                operator.lowerOperand rules ((pair before behind).expr operator) := by
              rw [lowerOperand_expr known, lowerOperand_expr known, same]
            simpa only [expr, lowerOperand_binary] using written
  · intro error
    rw [← lowerOperand_eq_error operator, lowerOperand_expr known]
    exact lowerChain_eq_error first.operands_ne_nil

/-- Three summands, the first two taken together. -/
def leaningLeft (first second third : Expr) : Bracketing :=
  .pair (.pair (.operand first) (.operand second)) (.operand third)

/-- Three summands, the last two taken together. -/
def leaningRight (first second third : Expr) : Bracketing :=
  .pair (.operand first) (.pair (.operand second) (.operand third))

/-- A difference, which binds as strongly as a sum. -/
def difference : Expr :=
  .binary .subtract (.raw "a") (.raw "b")

/-- A comparison, which binds more loosely. -/
def comparison : Expr :=
  .binary .equal (.raw "c") (.raw "d")

/-- A membership in no list at all. -/
def nowhere : Expr :=
  .inList (.raw "e") [] false

/-- A difference, a comparison and a difference add up alike, whichever two are taken together, and
a summand with a fault makes both sums fail. -/
theorem lower_eq_of_threeSummands :
    .add ∈ chained ∧
      ((leaningLeft difference comparison difference).expr .add).lower Dialect.sqlite.rules =
        ((leaningRight difference comparison difference).expr .add).lower Dialect.sqlite.rules ∧
      ((leaningRight difference nowhere comparison).expr .add).lower Dialect.sqlite.rules =
        .error (.unsupported .emptyInList) := by
  have known : .add ∈ chained := by decide
  refine ⟨known, (lower_eq_of_operands_eq known rfl).1, ?_⟩
  have same : (leaningRight difference nowhere comparison).operands =
      (leaningLeft difference nowhere comparison).operands := rfl
  refine ((lower_eq_of_operands_eq known same).2 _).2
    ⟨[difference], nowhere, [comparison], rfl, ?_, rfl⟩
  exact List.forall_mem_singleton.2 ⟨_, rfl⟩

end Bracketing

end SqlMapper
