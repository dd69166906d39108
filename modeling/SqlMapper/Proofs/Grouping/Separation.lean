import SqlMapper.Proofs.Grouping.Quotients

/-!
# A quotient taken apart changes the value

The condition under which regrouping keeps the value is exact for trees over different units: where
it takes a quotient apart, some assignment tells the two trees apart. The units of the two operands
of an operator are different, so each operand can be given a value on its own, at once in the tree
and in the tree regrouped. Trees of sums, differences, products and quotients take every value,
whatever a division by zero gives. Trees of all operators take zero and one, and that suffices if a
division by zero gives one.
-/

namespace SqlMapper

namespace Reading

/-- A tree of the given binary operators. -/
def isOperation (known : BinaryOperator → Bool) : Reading → Bool
  | .unit _ => true
  | .binary operator left right =>
      known operator && left.isOperation known && right.isOperation known
  | _ => false

variable {meaning : Meaning} {left right tree : Reading} {first second : List (List Chunk)}

/-- What holds of an assignment depends on its values of the units alone. -/
def Local (units : List (List Chunk)) (holds : (List Chunk → Int) → Prop) : Prop :=
  ∀ assignment other, (∀ chunks ∈ units, other chunks = assignment chunks) →
    holds assignment → holds other

/-- What holds of two assignments of different units holds of one assignment. -/
theorem exists_joint (different : (first ++ second).Nodup)
    {holds also : (List Chunk → Int) → Prop} (holdsLocal : Local first holds)
    (alsoLocal : Local second also) (holdsSomewhere : ∃ assignment, holds assignment)
    (alsoSomewhere : ∃ assignment, also assignment) :
    ∃ assignment, holds assignment ∧ also assignment := by
  rcases holdsSomewhere with ⟨assignment, held⟩
  rcases alsoSomewhere with ⟨other, otherHeld⟩
  refine ⟨fun chunks => if chunks ∈ first then assignment chunks else other chunks, ?_, ?_⟩
  · apply holdsLocal assignment _ _ held
    intro chunks member
    exact if_pos member
  · apply alsoLocal other _ _ otherHeld
    intro chunks member
    have elsewhere : chunks ∉ first := fun both =>
      (List.nodup_append.1 different).2.2 chunks both chunks member rfl
    exact if_neg elsewhere

theorem local_yields (meaning : Meaning) (tree : Reading) (number : Int) :
    Local tree.units fun assignment => Yields meaning assignment tree number :=
  fun _ _ agree yields => yields.congr agree

/-- The tree is worth one, but as a chain it goes on from the start to the end. -/
structure Jumps (meaning : Meaning) (tree : Reading) (start finish : Int)
    (assignment : List Chunk → Int) : Prop where
  value : tree.value meaning assignment = some 1
  continued : continued meaning assignment start tree.regrouped = some finish

theorem local_jumps (meaning : Meaning) (tree : Reading) (start finish : Int) :
    Local tree.units (Jumps meaning tree start finish) := by
  intro assignment other agree jumps
  constructor
  · rw [value_congr meaning tree agree, jumps.value]
  · rw [continued_regrouped_congr tree start agree, jumps.continued]

/-- The tree has the one value and the tree regrouped the other. -/
structure Told (meaning : Meaning) (tree : Reading) (one other : Int)
    (assignment : List Chunk → Int) : Prop where
  value : tree.value meaning assignment = some one
  regrouped : tree.regrouped.value meaning assignment = some other

theorem Told.ne {one other : Int} {assignment : List Chunk → Int}
    (told : Told meaning tree one other assignment) (different : one ≠ other) :
    tree.regrouped.value meaning assignment ≠ tree.value meaning assignment := by
  rw [told.value, told.regrouped]
  intro same
  exact different (Option.some.inj same).symm

theorem local_told (meaning : Meaning) (tree : Reading) (one other : Int) :
    Local tree.units (Told meaning tree one other) := by
  intro assignment another agree told
  constructor
  · rw [value_congr meaning tree agree, told.value]
  · rw [value_regrouped_congr meaning tree agree, told.regrouped]

/-- What it takes to tell trees of the operators apart: some numbers, among them one, that are
values of every operator at such numbers; a relation that each operator passes on from either
operand when its other operand is such a number; and a quotient of two such numbers that is one by
itself but not behind a product. -/
structure Separation (meaning : Meaning) (known : BinaryOperator → Bool) (numbers : Int → Prop)
    (apart : Int → Int → Prop) : Prop where
  one : numbers 1
  operands : ∀ {operator number}, known operator = true → numbers number →
    ∃ first second, numbers first ∧ numbers second ∧
      operator.apply meaning first second = some number
  left : ∀ {operator first second}, known operator = true → apart first second →
    ∃ chosen, numbers chosen ∧ ∃ one other, operator.apply meaning first chosen = some one ∧
      operator.apply meaning second chosen = some other ∧ apart one other
  right : ∀ {operator first second}, known operator = true → apart first second →
    ∃ chosen, numbers chosen ∧ ∃ one other, operator.apply meaning chosen first = some one ∧
      operator.apply meaning chosen second = some other ∧ apart one other
  quotient : ∃ start dividend divisor finish,
    numbers start ∧ numbers dividend ∧ numbers divisor ∧ apart start finish ∧
      BinaryOperator.divide.apply meaning dividend divisor = some 1 ∧
      BinaryOperator.divide.apply meaning (start * dividend) divisor = some finish

namespace Separation

variable {known : BinaryOperator → Bool} {numbers : Int → Prop} {apart : Int → Int → Prop}

/-- A tree over different units takes each of the numbers. -/
theorem exists_yields (separation : Separation meaning known numbers apart) (tree : Reading)
    (operation : tree.isOperation known = true) (different : tree.units.Nodup) {number : Int}
    (chosen : numbers number) : ∃ assignment, Yields meaning assignment tree number := by
  cases tree with
  | unit chunks => exact ⟨fun _ => number, rfl, rfl, fun start => rfl⟩
  | binary operator left right =>
      simp only [isOperation, Bool.and_eq_true] at operation
      rcases operation with ⟨⟨isKnown, leftOperation⟩, rightOperation⟩
      have leftDifferent : left.units.Nodup := (List.nodup_append.1 different).1
      have rightDifferent : right.units.Nodup := (List.nodup_append.1 different).2.1
      have both : ∀ {first second : Int}, numbers first → numbers second → ∃ assignment,
          Yields meaning assignment left first ∧ Yields meaning assignment right second := by
        intro first second firstChosen secondChosen
        exact exists_joint different (local_yields meaning left first)
          (local_yields meaning right second)
          (separation.exists_yields left leftOperation leftDifferent firstChosen)
          (separation.exists_yields right rightOperation rightDifferent secondChosen)
      by_cases chain : operator.precedence = BinaryOperator.multiply.precedence
      · rcases both chosen separation.one with ⟨assignment, leftYields, rightYields⟩
        cases operator with
        | multiply =>
            have product := leftYields.multiply rightYields
            rw [Int.mul_one] at product
            exact ⟨assignment, product⟩
        | divide => exact ⟨assignment, leftYields.divide_one rightYields⟩
        | _ => cases chain
      · rcases separation.operands isKnown chosen with
          ⟨first, second, firstChosen, secondChosen, applied⟩
        rcases both firstChosen secondChosen with ⟨assignment, leftYields, rightYields⟩
        exact ⟨assignment, .binary chain leftYields rightYields applied⟩
  | _ => cases operation

/-- A chain that opens a quotient jumps as the quotient does. -/
theorem exists_jumps (separation : Separation meaning known numbers apart)
    {start dividend divisor finish : Int} (dividendChosen : numbers dividend)
    (divisorChosen : numbers divisor)
    (whole : BinaryOperator.divide.apply meaning dividend divisor = some 1)
    (behind : BinaryOperator.divide.apply meaning (start * dividend) divisor = some finish)
    (tree : Reading) (operation : tree.isOperation known = true) (different : tree.units.Nodup)
    (opens : tree.opensQuotient = true) :
    ∃ assignment, Jumps meaning tree start finish assignment := by
  cases tree with
  | binary operator left right =>
      simp only [isOperation, Bool.and_eq_true] at operation
      rcases operation with ⟨⟨_, leftOperation⟩, rightOperation⟩
      have leftDifferent : left.units.Nodup := (List.nodup_append.1 different).1
      have rightDifferent : right.units.Nodup := (List.nodup_append.1 different).2.1
      cases operator with
      | divide =>
          rcases exists_joint different (local_yields meaning left dividend)
            (local_yields meaning right divisor)
            (separation.exists_yields left leftOperation leftDifferent dividendChosen)
            (separation.exists_yields right rightOperation rightDifferent divisorChosen) with
            ⟨assignment, leftYields, rightYields⟩
          refine ⟨assignment, ?_, ?_⟩
          · rw [value, leftYields.value, rightYields.value]
            exact whole
          · rw [regrouped_divide, continued_divide, leftYields.continued, rightYields.regrouped]
            exact behind
      | multiply =>
          cases leftOpens : left.opensQuotient with
          | true =>
              rcases exists_joint different (local_jumps meaning left start finish)
                (local_yields meaning right 1)
                (separation.exists_jumps dividendChosen divisorChosen whole behind left
                  leftOperation leftDifferent leftOpens)
                (separation.exists_yields right rightOperation rightDifferent separation.one) with
                ⟨assignment, leftJumps, rightYields⟩
              refine ⟨assignment, ?_, ?_⟩
              · rw [value_multiply, leftJumps.value, rightYields.value]
                rfl
              · rw [regrouped_multiply, continued_attach, leftJumps.continued, Option.bind_some,
                  rightYields.continued, Int.mul_one]
          | false =>
              rw [opensQuotient, leftOpens, Bool.false_or] at opens
              rcases exists_joint different (local_yields meaning left 1)
                (local_jumps meaning right start finish)
                (separation.exists_yields left leftOperation leftDifferent separation.one)
                (separation.exists_jumps dividendChosen divisorChosen whole behind right
                  rightOperation rightDifferent opens) with
                ⟨assignment, leftYields, rightJumps⟩
              refine ⟨assignment, ?_, ?_⟩
              · rw [value_multiply, leftYields.value, rightJumps.value]
                rfl
              · rw [regrouped_multiply, continued_attach, leftYields.continued, Option.bind_some,
                  Int.mul_one, rightJumps.continued]
      | _ => cases opens
  | _ => cases opens

/-- Where regrouping takes a quotient apart, some assignment tells the two trees apart. -/
theorem exists_told (separation : Separation meaning known numbers apart) (tree : Reading)
    (operation : tree.isOperation known = true) (different : tree.units.Nodup)
    (splits : tree.splitsQuotient = true) :
    ∃ one other, apart one other ∧ ∃ assignment, Told meaning tree one other assignment := by
  cases tree with
  | binary operator left right =>
      simp only [isOperation, Bool.and_eq_true] at operation
      rcases operation with ⟨⟨isKnown, leftOperation⟩, rightOperation⟩
      have leftDifferent : left.units.Nodup := (List.nodup_append.1 different).1
      have rightDifferent : right.units.Nodup := (List.nodup_append.1 different).2.1
      by_cases here : operator = .multiply ∧ right.opensQuotient = true
      · rcases here with ⟨rfl, opens⟩
        rcases separation.quotient with
          ⟨start, dividend, divisor, finish, startChosen, dividendChosen, divisorChosen, split,
            whole, behind⟩
        rcases exists_joint different (local_yields meaning left start)
          (local_jumps meaning right start finish)
          (separation.exists_yields left leftOperation leftDifferent startChosen)
          (separation.exists_jumps dividendChosen divisorChosen whole behind right rightOperation
            rightDifferent opens) with
          ⟨assignment, leftYields, rightJumps⟩
        refine ⟨start, finish, split, assignment, ?_, ?_⟩
        · rw [value_multiply, leftYields.value, rightJumps.value, Option.bind_some,
            Option.map_some, Int.mul_one]
        · rw [regrouped_multiply, value_attach_multiply, leftYields.regrouped, Option.bind_some,
            rightJumps.continued]
      · have regroupedValue : ∀ assignment : List Chunk → Int,
            (binary operator left right).regrouped.value meaning assignment =
              (left.regrouped.value meaning assignment).bind fun first =>
                (right.regrouped.value meaning assignment).bind fun second =>
                  operator.apply meaning first second := by
          intro assignment
          have kept : ¬(operator = .multiply ∧ right.regrouped.opensQuotient = true) := by
            rwa [opensQuotient_regrouped]
          rw [regrouped, value_combine kept, value]
        cases leftSplits : left.splitsQuotient with
        | true =>
            rcases separation.exists_told left leftOperation leftDifferent leftSplits with
              ⟨first, second, split, leftTold⟩
            rcases separation.left isKnown split with
              ⟨chosen, isNumber, one, other, applied, regroupedApplied, stillSplit⟩
            rcases exists_joint different (local_told meaning left first second)
              (local_yields meaning right chosen) leftTold
              (separation.exists_yields right rightOperation rightDifferent isNumber) with
              ⟨assignment, told, rightYields⟩
            refine ⟨one, other, stillSplit, assignment, ?_, ?_⟩
            · rw [value, told.value, rightYields.value]
              exact applied
            · rw [regroupedValue, told.regrouped, rightYields.regrouped]
              exact regroupedApplied
        | false =>
            have notHere : (operator == .multiply && right.opensQuotient) = false :=
              Bool.eq_false_iff.2 (by simpa using here)
            have rightSplits : right.splitsQuotient = true := by
              rwa [splitsQuotient, leftSplits, notHere, Bool.false_or, Bool.or_false] at splits
            rcases separation.exists_told right rightOperation rightDifferent rightSplits with
              ⟨first, second, split, rightTold⟩
            rcases separation.right isKnown split with
              ⟨chosen, isNumber, one, other, applied, regroupedApplied, stillSplit⟩
            rcases exists_joint different (local_yields meaning left chosen)
              (local_told meaning right first second)
              (separation.exists_yields left leftOperation leftDifferent isNumber) rightTold with
              ⟨assignment, leftYields, told⟩
            refine ⟨one, other, stillSplit, assignment, ?_, ?_⟩
            · rw [value, leftYields.value, told.value]
              exact applied
            · rw [regroupedValue, leftYields.regrouped, told.regrouped]
              exact regroupedApplied
  | _ => cases splits

end Separation

/-- The operators of integer arithmetic. -/
def isArithmeticOperator (operator : BinaryOperator) : Bool :=
  [.add, .subtract, .multiply, .divide].contains operator

/-- A tree of sums, differences, products and quotients. -/
def isArithmetic (tree : Reading) : Bool :=
  tree.isOperation isArithmeticOperator

/-- On the right of an arithmetic operator some number changes nothing. -/
theorem exists_neutral (meaning : Meaning) {operator : BinaryOperator}
    (isKnown : isArithmeticOperator operator = true) :
    ∃ neutral : Int, ∀ number : Int, operator.apply meaning number neutral = some number := by
  cases operator with
  | add => exact ⟨0, fun number => by simp [BinaryOperator.apply]⟩
  | subtract => exact ⟨0, fun number => by simp [BinaryOperator.apply]⟩
  | multiply => exact ⟨1, fun number => by simp [BinaryOperator.apply]⟩
  | divide => exact ⟨1, fun number => by simp [BinaryOperator.apply]⟩
  | _ => cases isKnown

/-- Arithmetic takes every number, and keeps different numbers apart if neither is zero. -/
theorem separation_arithmetic (meaning : Meaning) :
    Separation meaning isArithmeticOperator (fun _ => True)
      (fun first second => first ≠ second ∧ first ≠ 0 ∧ second ≠ 0) where
  one := trivial
  operands := by
    intro operator number isKnown _
    rcases exists_neutral meaning isKnown with ⟨neutral, unchanged⟩
    exact ⟨number, neutral, trivial, trivial, unchanged number⟩
  left := by
    intro operator first second isKnown apart
    rcases exists_neutral meaning isKnown with ⟨neutral, unchanged⟩
    exact ⟨neutral, trivial, first, second, unchanged first, unchanged second, apart⟩
  right := by
    intro operator first second isKnown apart
    rcases apart with ⟨different, firstNonzero, secondNonzero⟩
    cases operator with
    | add => exact ⟨0, trivial, first, second, by simp [BinaryOperator.apply, *]⟩
    | subtract => exact ⟨0, trivial, -first, -second, by simp [BinaryOperator.apply, *]⟩
    | multiply => exact ⟨1, trivial, first, second, by simp [BinaryOperator.apply, *]⟩
    | divide =>
        refine ⟨first * second, trivial, second, first, ?_, ?_, different.symm, secondNonzero,
          firstNonzero⟩
        · simp [BinaryOperator.apply, firstNonzero]
        · simp [BinaryOperator.apply, secondNonzero]
    | _ => cases isKnown
  quotient := ⟨3, 3, 2, 4, trivial, trivial, trivial, by decide, rfl, rfl⟩

/-- A division by zero gives one, and concatenation adds. -/
def unitMeaning : Meaning where
  concat := (· + ·)
  concat_assoc := Int.add_assoc
  quotientByZero _ := some 1

/-- The number is zero or one. -/
abbrev IsBit (number : Int) : Prop :=
  number = 0 ∨ number = 1

/-- One of the numbers is zero and the other is one. -/
abbrev AreOpposite (first second : Int) : Prop :=
  first = 0 ∧ second = 1 ∨ first = 1 ∧ second = 0

/-- Every operator takes zero and one at zeros and ones. -/
theorem exists_bits (operator : BinaryOperator) {number : Int} (bit : IsBit number) :
    ∃ first second, IsBit first ∧ IsBit second ∧
      operator.apply unitMeaning first second = some number := by
  rcases bit with rfl | rfl
  · cases operator with
    | equal => exact ⟨1, 0, by decide⟩
    | lessEqual => exact ⟨1, 0, by decide⟩
    | greaterEqual => exact ⟨0, 1, by decide⟩
    | divide => exact ⟨0, 1, by decide⟩
    | _ => exact ⟨0, 0, by decide⟩
  · cases operator with
    | less => exact ⟨0, 1, by decide⟩
    | notEqual => exact ⟨1, 0, by decide⟩
    | greater => exact ⟨1, 0, by decide⟩
    | and => exact ⟨1, 1, by decide⟩
    | or => exact ⟨1, 0, by decide⟩
    | add => exact ⟨1, 0, by decide⟩
    | subtract => exact ⟨1, 0, by decide⟩
    | multiply => exact ⟨1, 1, by decide⟩
    | concat => exact ⟨1, 0, by decide⟩
    | _ => exact ⟨0, 0, by decide⟩

/-- Before some zero or one, every operator has opposite values at zero and one. -/
theorem exists_opposite_left (operator : BinaryOperator) :
    ∃ chosen, IsBit chosen ∧ ∃ one other, operator.apply unitMeaning 0 chosen = some one ∧
      operator.apply unitMeaning 1 chosen = some other ∧ AreOpposite one other := by
  cases operator with
  | equal => exact ⟨0, Or.inl rfl, 1, 0, by decide⟩
  | lessEqual => exact ⟨0, Or.inl rfl, 1, 0, by decide⟩
  | less => exact ⟨1, Or.inr rfl, 1, 0, by decide⟩
  | greaterEqual => exact ⟨1, Or.inr rfl, 0, 1, by decide⟩
  | and => exact ⟨1, Or.inr rfl, 0, 1, by decide⟩
  | multiply => exact ⟨1, Or.inr rfl, 0, 1, by decide⟩
  | divide => exact ⟨1, Or.inr rfl, 0, 1, by decide⟩
  | _ => exact ⟨0, Or.inl rfl, 0, 1, by decide⟩

/-- Behind some zero or one, every operator has opposite values at zero and one. -/
theorem exists_opposite_right (operator : BinaryOperator) :
    ∃ chosen, IsBit chosen ∧ ∃ one other, operator.apply unitMeaning chosen 0 = some one ∧
      operator.apply unitMeaning chosen 1 = some other ∧ AreOpposite one other := by
  cases operator with
  | equal => exact ⟨0, Or.inl rfl, 1, 0, by decide⟩
  | greaterEqual => exact ⟨0, Or.inl rfl, 1, 0, by decide⟩
  | divide => exact ⟨0, Or.inl rfl, 1, 0, by decide⟩
  | greater => exact ⟨1, Or.inr rfl, 1, 0, by decide⟩
  | subtract => exact ⟨1, Or.inr rfl, 1, 0, by decide⟩
  | lessEqual => exact ⟨1, Or.inr rfl, 0, 1, by decide⟩
  | and => exact ⟨1, Or.inr rfl, 0, 1, by decide⟩
  | multiply => exact ⟨1, Or.inr rfl, 0, 1, by decide⟩
  | _ => exact ⟨0, Or.inl rfl, 0, 1, by decide⟩

theorem separation_bits : Separation unitMeaning (fun _ => true) IsBit AreOpposite where
  one := Or.inr rfl
  operands _ bit := exists_bits _ bit
  left := by
    intro operator first second _ opposite
    rcases exists_opposite_left operator with
      ⟨chosen, bit, one, other, atZero, atOne, stillOpposite⟩
    rcases opposite with ⟨rfl, rfl⟩ | ⟨rfl, rfl⟩
    · exact ⟨chosen, bit, one, other, atZero, atOne, stillOpposite⟩
    · exact ⟨chosen, bit, other, one, atOne, atZero, by omega⟩
  right := by
    intro operator first second _ opposite
    rcases exists_opposite_right operator with
      ⟨chosen, bit, one, other, atZero, atOne, stillOpposite⟩
    rcases opposite with ⟨rfl, rfl⟩ | ⟨rfl, rfl⟩
    · exact ⟨chosen, bit, one, other, atZero, atOne, stillOpposite⟩
    · exact ⟨chosen, bit, other, one, atOne, atZero, by omega⟩
  quotient := ⟨0, 0, 0, 1, by decide⟩

end Reading

end SqlMapper
