import SqlMapper.Proofs.Grouping.Separation

/-!
# The value of what is written

A tree of binary operators over columns and arguments always lowers, and its chunks always parse.
What is parsed has the value of the tree, unless a product has a quotient in the chain on its right.
Then the values differ somewhere, if no column or argument occurs twice.
-/

namespace SqlMapper

open Grammar

namespace Expr

/-- A column or an argument. -/
def isOperand : Expr → Bool
  | .column _ | .argument _ => true
  | _ => false

theorem isUnit_of_isOperand {expr : Expr} (operand : expr.isOperand = true) :
    expr.isUnit = true := by
  cases expr with
  | column column => rfl
  | argument bound => rfl
  | _ => cases operand

theorem isBinaryTree_isUnit (expr : Expr) (tree : expr.isBinaryTree isOperand = true) :
    expr.isBinaryTree isUnit = true := by
  cases expr with
  | binary operator left right =>
      rw [isBinaryTree, Bool.and_eq_true] at tree ⊢
      exact ⟨left.isBinaryTree_isUnit tree.1, right.isBinaryTree_isUnit tree.2⟩
  | _ => exact isUnit_of_isOperand tree

/-- Columns and arguments lower and are readable whatever the dialect is. -/
theorem lowers_of_isBinaryTree (rules : DialectRules) (expr : Expr)
    (tree : expr.isBinaryTree isOperand = true) :
    (∃ fragment, expr.lower rules = .ok fragment) ∧ expr.Readable rules := by
  cases expr with
  | column column => exact ⟨⟨_, rfl⟩, .column _ _⟩
  | argument bound => exact ⟨⟨_, rfl⟩, .argument bound⟩
  | binary operator left right =>
      rw [isBinaryTree, Bool.and_eq_true] at tree
      rcases lowers_of_isBinaryTree rules left tree.1 with ⟨⟨leftFragment, leftLowered⟩, leftRead⟩
      rcases lowers_of_isBinaryTree rules right tree.2 with
        ⟨⟨rightFragment, rightLowered⟩, rightRead⟩
      have lowered : (binary operator left right).lower rules = .ok _ :=
        lower_binary_eq_ok.2 ⟨leftFragment, leftLowered, rightFragment, rightLowered, rfl⟩
      exact ⟨⟨_, lowered⟩, leftRead, rightRead⟩
  | _ => cases tree

theorem isOperation_reading (rules : DialectRules) (expr : Expr)
    (tree : expr.isBinaryTree isOperand = true) :
    (expr.reading rules).isOperation (fun _ => true) = true := by
  cases expr with
  | column column => rfl
  | argument bound => rfl
  | binary operator left right =>
      rw [isBinaryTree, Bool.and_eq_true] at tree
      have leftOperation := left.isOperation_reading rules tree.1
      have rightOperation := right.isOperation_reading rules tree.2
      rw [reading, Reading.isOperation, leftOperation, rightOperation]
      rfl
  | _ => cases tree

/-- What the chunks of a tree of binary operators are read as has the value of the tree under every
assignment, if no product has a quotient in the chain on its right. Over different units that
condition is exact, for arithmetic even whatever a division by zero gives. -/
theorem value_parse_lower (rules : DialectRules) (expr : Expr)
    (tree : expr.isBinaryTree isOperand = true) :
    ∃ fragment parsed, expr.lower rules = .ok fragment ∧ parse fragment.chunks = some parsed ∧
      ((expr.reading rules).splitsQuotient = false → ∀ meaning assignment,
        parsed.value meaning assignment = (expr.reading rules).value meaning assignment) ∧
      ((expr.reading rules).splitsQuotient = true → (expr.reading rules).units.Nodup →
        (∃ meaning assignment,
          parsed.value meaning assignment ≠ (expr.reading rules).value meaning assignment) ∧
        ((expr.reading rules).isArithmetic = true → ∀ meaning, ∃ assignment,
          parsed.value meaning assignment ≠ (expr.reading rules).value meaning assignment)) := by
  rcases lowers_of_isBinaryTree rules expr tree with ⟨⟨fragment, lowered⟩, readable⟩
  have parsed := parse_eq_regrouped (expr.isBinaryTree_isUnit tree) readable lowered
  refine ⟨fragment, _, lowered, parsed, ?_, ?_⟩
  · intro whole meaning assignment
    exact Reading.value_regrouped _ whole
  · intro splits different
    constructor
    · have operation := expr.isOperation_reading rules tree
      rcases Reading.separation_bits.exists_told _ operation different splits with
        ⟨one, other, opposite, assignment, told⟩
      refine ⟨Reading.unitMeaning, assignment, told.ne ?_⟩
      omega
    · intro arithmetic meaning
      rcases (Reading.separation_arithmetic meaning).exists_told _ arithmetic different splits with
        ⟨one, other, apart, assignment, told⟩
      exact ⟨assignment, told.ne apart.1⟩

/-- A product with a quotient on its right. -/
def productOfQuotient : Expr :=
  .binary .multiply (.argument ⟨.integer 4, .integer⟩)
    (.binary .divide (.argument ⟨.integer 1, .integer⟩) (.argument ⟨.integer 2, .integer⟩))

/-- A difference of a column and a difference, taken three times. -/
def tripledDifference : Expr :=
  .binary .multiply
    (.binary .subtract (.column { table := "emp", name := "id", type := .integer })
      (.binary .subtract (.argument ⟨.integer 1, .integer⟩) (.argument ⟨.integer 2, .integer⟩)))
    (.argument ⟨.integer 3, .integer⟩)

/-- Concatenation is taken to add, and a division by zero to give nothing. -/
def plainMeaning : Meaning where
  concat := (· + ·)
  concat_assoc := Int.add_assoc
  quotientByZero _ := none

/-- An argument has its own value. -/
def ownValue : List Chunk → Int
  | [.argument ⟨.integer number, _⟩] => number.toInt
  | _ => 0

/-- Both sides of the condition occur. -/
theorem value_parse_lower_applies :
    (∃ fragment parsed, tripledDifference.lower Dialect.sqlite.rules = .ok fragment ∧
      parse fragment.chunks = some parsed ∧ ∀ meaning assignment,
        parsed.value meaning assignment =
          (tripledDifference.reading Dialect.sqlite.rules).value meaning assignment) ∧
    ∃ fragment parsed, productOfQuotient.lower Dialect.sqlite.rules = .ok fragment ∧
      parse fragment.chunks = some parsed ∧ ∀ meaning, ∃ assignment,
        parsed.value meaning assignment ≠
          (productOfQuotient.reading Dialect.sqlite.rules).value meaning assignment := by
  constructor
  · rcases value_parse_lower Dialect.sqlite.rules tripledDifference rfl with
      ⟨fragment, parsed, lowered, read, kept, _⟩
    exact ⟨fragment, parsed, lowered, read, kept rfl⟩
  · rcases value_parse_lower Dialect.sqlite.rules productOfQuotient rfl with
      ⟨fragment, parsed, lowered, read, _, changed⟩
    exact ⟨fragment, parsed, lowered, read, (changed rfl (by decide)).2 rfl⟩

/-- Four times the quotient of one by two is zero, but it is read as the quotient of four by two. -/
theorem value_productOfQuotient :
    (parse (productOfQuotient.chunks Dialect.sqlite.rules)).bind
        (Reading.value plainMeaning ownValue) = some 2 ∧
      (productOfQuotient.reading Dialect.sqlite.rules).value plainMeaning ownValue = some 0 := by
  constructor <;> rfl

end Expr

end SqlMapper
