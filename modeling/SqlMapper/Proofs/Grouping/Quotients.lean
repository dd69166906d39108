import SqlMapper.Proofs.Grouping.Arithmetic

/-!
# Chains of products and quotients

Where a product stands before a chain of its precedence, regrouping lets the chain go on from the
left operand of the product. This file follows the value of such a chain, and says when a tree, the
tree regrouped and the chain that it opens have one value together.
-/

namespace SqlMapper

namespace Reading

/-- The units of a tree of binary operators, from left to right. -/
def units : Reading → List (List Chunk)
  | .unit chunks => [chunks]
  | .binary _ left right => left.units ++ right.units
  | _ => []

/-- The value of a chain of products and quotients that goes on from a number. -/
def continued (meaning : Meaning) (assignment : List Chunk → Int) (start : Int) :
    Reading → Option Int
  | .binary operator first second =>
      if operator.precedence = BinaryOperator.multiply.precedence then
        (continued meaning assignment start first).bind fun value =>
          (second.value meaning assignment).bind fun next => operator.apply meaning value next
      else ((binary operator first second).value meaning assignment).map (start * ·)
  | tree => (tree.value meaning assignment).map (start * ·)

variable {meaning : Meaning} {assignment other : List Chunk → Int} {operator : BinaryOperator}
  {left middle right tree : Reading} {number : Int}

theorem units_attach : (attach operator left right).units = left.units ++ right.units := by
  fun_induction attach operator left right with
  | case1 inner first second same ih => rw [units, ih, units, List.append_assoc]
  | case2 inner first second different => rfl
  | case3 tree notBinary => rfl

theorem units_combine : (combine operator left right).units = left.units ++ right.units := by
  unfold combine
  split
  · exact units_attach
  · rfl

theorem units_regrouped (tree : Reading) : tree.regrouped.units = tree.units := by
  cases tree with
  | binary operator left right =>
      rw [regrouped, units_combine, units_regrouped left, units_regrouped right, units]
  | _ => rfl

/-- The value depends on the units alone. -/
theorem value_congr (meaning : Meaning) (tree : Reading)
    (agree : ∀ chunks ∈ tree.units, assignment chunks = other chunks) :
    tree.value meaning assignment = tree.value meaning other := by
  cases tree with
  | unit chunks => rw [value, value, agree chunks (by simp [units])]
  | binary operator left right =>
      have leftAgree : ∀ chunks ∈ left.units, assignment chunks = other chunks :=
        fun chunks member => agree chunks (by simp [units, member])
      have rightAgree : ∀ chunks ∈ right.units, assignment chunks = other chunks :=
        fun chunks member => agree chunks (by simp [units, member])
      rw [value, value_congr meaning left leftAgree, value_congr meaning right rightAgree, value]
  | _ => rfl

theorem continued_congr (tree : Reading) (start : Int)
    (agree : ∀ chunks ∈ tree.units, assignment chunks = other chunks) :
    continued meaning assignment start tree = continued meaning other start tree := by
  have same := value_congr meaning tree agree
  cases tree with
  | binary operator first second =>
      have firstAgree : ∀ chunks ∈ first.units, assignment chunks = other chunks :=
        fun chunks member => agree chunks (by simp [units, member])
      have secondAgree : ∀ chunks ∈ second.units, assignment chunks = other chunks :=
        fun chunks member => agree chunks (by simp [units, member])
      rw [continued, continued, same, continued_congr first start firstAgree,
        value_congr meaning second secondAgree]
  | _ => simp only [continued, same]

theorem value_regrouped_congr (meaning : Meaning) (tree : Reading)
    (agree : ∀ chunks ∈ tree.units, assignment chunks = other chunks) :
    tree.regrouped.value meaning assignment = tree.regrouped.value meaning other := by
  apply value_congr
  rw [units_regrouped]
  exact agree

theorem continued_regrouped_congr (tree : Reading) (start : Int)
    (agree : ∀ chunks ∈ tree.units, assignment chunks = other chunks) :
    continued meaning assignment start tree.regrouped =
      continued meaning other start tree.regrouped := by
  apply continued_congr
  rw [units_regrouped]
  exact agree

theorem value_multiply :
    (binary .multiply left right).value meaning assignment =
      (left.value meaning assignment).bind fun start =>
        (right.value meaning assignment).map (start * ·) := by
  rw [value]
  cases left.value meaning assignment with
  | none => rfl
  | some start => cases right.value meaning assignment <;> rfl

theorem continued_of_ne (other : right.precedence? ≠ some BinaryOperator.multiply.precedence)
    (start : Int) :
    continued meaning assignment start right =
      (right.value meaning assignment).map (start * ·) := by
  cases right with
  | binary operator first second =>
      rw [continued, if_neg]
      intro same
      exact other (by rw [precedence?, same])
  | _ => rfl

theorem continued_divide (start : Int) :
    continued meaning assignment start (binary .divide left right) =
      (continued meaning assignment start left).bind fun value =>
        (right.value meaning assignment).bind fun next =>
          BinaryOperator.divide.apply meaning value next := by
  have chain : BinaryOperator.divide.precedence = BinaryOperator.multiply.precedence := rfl
  rw [continued, if_pos chain]

/-- A product attached to a chain has the value of the chain going on from the left operand. -/
theorem value_attach_multiply :
    (attach .multiply left right).value meaning assignment =
      (left.value meaning assignment).bind
        fun start => continued meaning assignment start right := by
  fun_induction attach .multiply left right with
  | case1 inner first second same ih =>
      rw [value, ih, Option.bind_assoc]
      simp only [continued, if_pos same]
  | case2 inner first second different =>
      rw [value_multiply]
      simp only [continued, if_neg different]
  | case3 tree notBinary =>
      rw [value_multiply]
      simp only [continued_of_ne (precedence?_ne_of_notBinary notBinary _)]

/-- A chain attached to a chain goes on where the first one ends. -/
theorem continued_attach (start : Int) :
    continued meaning assignment start (attach .multiply middle right) =
      (continued meaning assignment start middle).bind
        fun value => continued meaning assignment value right := by
  have lone : ∀ tree : Reading, tree.precedence? ≠ some BinaryOperator.multiply.precedence →
      continued meaning assignment start (binary .multiply middle tree) =
        (continued meaning assignment start middle).bind
          fun value => continued meaning assignment value tree := by
    intro tree different
    rw [continued, if_pos rfl]
    simp only [continued_of_ne different]
    cases continued meaning assignment start middle with
    | none => rfl
    | some reached => cases tree.value meaning assignment <;> rfl
  fun_induction attach .multiply middle right with
  | case1 inner first second same ih =>
      rw [continued, if_pos same, ih, Option.bind_assoc]
      simp only [continued, if_pos same]
  | case2 inner first second different =>
      apply lone
      intro same
      exact different (Option.some.inj same)
  | case3 tree notBinary =>
      apply lone
      exact precedence?_ne_of_notBinary notBinary _

/-- The assignment gives the tree the number, at once as it is, regrouped, and as a chain that goes
on from any other number. -/
structure Yields (meaning : Meaning) (assignment : List Chunk → Int) (tree : Reading)
    (number : Int) : Prop where
  value : tree.value meaning assignment = some number
  regrouped : tree.regrouped.value meaning assignment = some number
  continued : ∀ start : Int,
    continued meaning assignment start tree.regrouped = some (start * number)

theorem Yields.congr (yields : Yields meaning assignment tree number)
    (agree : ∀ chunks ∈ tree.units, other chunks = assignment chunks) :
    Yields meaning other tree number := by
  constructor
  · rw [value_congr meaning tree agree, yields.value]
  · rw [value_regrouped_congr meaning tree agree, yields.regrouped]
  · intro start
    rw [continued_regrouped_congr tree start agree, yields.continued]

/-- Where no chain goes on, an operator is applied to what its operands yield. -/
theorem Yields.binary {first second : Int}
    (other : operator.precedence ≠ BinaryOperator.multiply.precedence)
    (leftYields : Yields meaning assignment left first)
    (rightYields : Yields meaning assignment right second)
    (applied : operator.apply meaning first second = some number) :
    Yields meaning assignment (.binary operator left right) number := by
  have sum : ¬(operator = .multiply ∧ right.regrouped.opensQuotient = true) := by
    rintro ⟨rfl, _⟩
    exact other rfl
  have value : (Reading.binary operator left right).value meaning assignment = some number := by
    rw [Reading.value, leftYields.value, rightYields.value]
    exact applied
  have regrouped : (Reading.binary operator left right).regrouped.value meaning assignment =
      some number := by
    rw [Reading.regrouped, value_combine sum, Reading.value, leftYields.regrouped,
      rightYields.regrouped]
    exact applied
  refine ⟨value, regrouped, ?_⟩
  intro start
  have different : (Reading.binary operator left right).regrouped.precedence? ≠
      some BinaryOperator.multiply.precedence := by
    rw [precedence?_regrouped]
    intro same
    exact other (Option.some.inj same)
  rw [continued_of_ne different, regrouped]
  rfl

/-- A product of what its operands yield. -/
theorem Yields.multiply {first second : Int} (leftYields : Yields meaning assignment left first)
    (rightYields : Yields meaning assignment right second) :
    Yields meaning assignment (.binary .multiply left right) (first * second) := by
  constructor
  · rw [value_multiply, leftYields.value, rightYields.value]
    rfl
  · rw [regrouped_multiply, value_attach_multiply, leftYields.regrouped, Option.bind_some,
      rightYields.continued]
  · intro start
    rw [regrouped_multiply, continued_attach, leftYields.continued, Option.bind_some,
      rightYields.continued, Int.mul_assoc]

/-- A quotient of what its operands yield goes on from any number if it divides by one. -/
theorem Yields.divide_one (leftYields : Yields meaning assignment left number)
    (rightYields : Yields meaning assignment right 1) :
    Yields meaning assignment (.binary .divide left right) number := by
  have unchanged : ∀ value : Int, BinaryOperator.divide.apply meaning value 1 = some value := by
    intro value
    simp [BinaryOperator.apply]
  constructor
  · rw [Reading.value, leftYields.value, rightYields.value]
    exact unchanged number
  · rw [regrouped_divide, Reading.value, leftYields.regrouped, rightYields.regrouped]
    exact unchanged number
  · intro start
    rw [regrouped_divide, continued_divide, leftYields.continued, rightYields.regrouped]
    exact unchanged (start * number)

end Reading

end SqlMapper
