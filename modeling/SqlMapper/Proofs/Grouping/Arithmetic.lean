import SqlMapper.Proofs.Grouping.Regrouping

/-!
# What regrouping does to the value

Regrouping keeps the value of a tree of binary operators unless a product has a quotient in the
chain on its right: with truncating division `x * (y / z)` is not `(x * y) / z`, yet the parentheses
are left out. For arithmetic over different units that condition is exact.
-/

namespace SqlMapper

/-- What is left open about integer operators: any associative concatenation, and what a division by
zero gives, if it gives anything. -/
structure Meaning where
  concat : Int → Int → Int
  concat_assoc : ∀ first second third : Int,
    concat (concat first second) third = concat first (concat second third)
  quotientByZero : Int → Option Int

/-- One if the condition holds, else zero. -/
def truth (condition : Prop) [Decidable condition] : Int :=
  if condition then 1 else 0

theorem truth_ne_zero {condition : Prop} [Decidable condition] :
    truth condition ≠ 0 ↔ condition := by
  unfold truth
  split <;> simp_all

/-- The value of an operator on integers. -/
def BinaryOperator.apply (meaning : Meaning) (operator : BinaryOperator) (first second : Int) :
    Option Int :=
  match operator with
  | .equal => some (truth (first = second))
  | .notEqual => some (truth (first ≠ second))
  | .less => some (truth (first < second))
  | .lessEqual => some (truth (first ≤ second))
  | .greater => some (truth (first > second))
  | .greaterEqual => some (truth (first ≥ second))
  | .and => some (truth (first ≠ 0 ∧ second ≠ 0))
  | .or => some (truth (first ≠ 0 ∨ second ≠ 0))
  | .add => some (first + second)
  | .subtract => some (first - second)
  | .multiply => some (first * second)
  | .divide =>
      if second = 0 then meaning.quotientByZero first else some (first.tdiv second)
  | .concat => some (meaning.concat first second)

/-- An operator that associates may be applied first, whatever operator of its precedence follows,
except that a product may not be taken before a quotient on its right. -/
theorem BinaryOperator.apply_apply {meaning : Meaning} {operator inner : BinaryOperator}
    (associates : operator.associates = true) (same : inner.precedence = operator.precedence)
    (whole : ¬(operator = .multiply ∧ inner = .divide)) (first second third : Int) :
    ((operator.apply meaning first second).bind fun value => inner.apply meaning value third) =
      (inner.apply meaning second third).bind fun value => operator.apply meaning first value := by
  cases operator with
  | and =>
      cases inner <;> first | (cases same; done) | skip
      simp only [apply, Option.bind_some, truth_ne_zero, and_assoc]
  | or =>
      cases inner <;> first | (cases same; done) | skip
      simp only [apply, Option.bind_some, truth_ne_zero, or_assoc]
  | add =>
      cases inner <;> first | (cases same; done) | skip
      all_goals
        simp only [apply, Option.bind_some, Option.some.injEq]
        omega
  | multiply =>
      cases inner <;> first | (cases same; done) | exact absurd ⟨rfl, rfl⟩ whole | skip
      simp only [apply, Option.bind_some, Int.mul_assoc]
  | concat =>
      cases inner <;> first | (cases same; done) | skip
      simp only [apply, Option.bind_some, meaning.concat_assoc]
  | _ => cases associates

namespace Reading

/-- The value of a tree of binary operators, its units being assigned integers. -/
def value (meaning : Meaning) (assignment : List Chunk → Int) : Reading → Option Int
  | .unit chunks => some (assignment chunks)
  | .binary operator left right =>
      (left.value meaning assignment).bind fun first =>
        (right.value meaning assignment).bind fun second => operator.apply meaning first second
  | _ => none

/-- The chain of products and quotients that the tree opens holds a quotient. -/
def opensQuotient : Reading → Bool
  | .binary .divide _ _ => true
  | .binary .multiply left right => left.opensQuotient || right.opensQuotient
  | _ => false

/-- Somewhere in the tree regrouping takes a quotient apart, on the right of a product. -/
def splitsQuotient : Reading → Bool
  | .binary operator left right =>
      left.splitsQuotient || right.splitsQuotient ||
        (operator == .multiply && right.opensQuotient)
  | _ => false

variable {meaning : Meaning} {assignment : List Chunk → Int} {operator : BinaryOperator}
  {left right tree : Reading}

theorem regrouped_multiply :
    (binary .multiply left right).regrouped =
      attach .multiply left.regrouped right.regrouped := by
  rfl

theorem regrouped_divide :
    (binary .divide left right).regrouped = binary .divide left.regrouped right.regrouped := by
  rfl

theorem opensQuotient_of_ne (other : tree.precedence? ≠ some BinaryOperator.multiply.precedence) :
    tree.opensQuotient = false := by
  cases tree with
  | binary operator left right => cases operator <;> first | rfl | exact absurd rfl other
  | _ => rfl

theorem opensQuotient_attach :
    (attach .multiply left right).opensQuotient = (left.opensQuotient || right.opensQuotient) := by
  fun_induction attach .multiply left right with
  | case1 inner first second same ih =>
      cases inner <;> first | (cases same; done) | skip
      · rw [opensQuotient, opensQuotient, ih, Bool.or_assoc]
      · rw [opensQuotient, opensQuotient, Bool.or_true]
  | case2 inner first second other => rfl
  | case3 tree notBinary => rfl

theorem opensQuotient_regrouped (tree : Reading) :
    tree.regrouped.opensQuotient = tree.opensQuotient := by
  by_cases chain : tree.precedence? = some BinaryOperator.multiply.precedence
  · cases tree with
    | binary operator left right =>
        cases operator <;> first | (cases chain; done) | skip
        · rw [regrouped_multiply, opensQuotient_attach, opensQuotient_regrouped left,
            opensQuotient_regrouped right, opensQuotient]
        · rfl
    | _ => cases chain
  · rw [opensQuotient_of_ne chain]
    exact opensQuotient_of_ne (by simpa using chain)

/-- Regrouping at one operator keeps the value, unless it takes a quotient apart. -/
theorem value_attach (associates : operator.associates = true)
    (whole : ¬(operator = .multiply ∧ right.opensQuotient = true)) :
    (attach operator left right).value meaning assignment =
      (binary operator left right).value meaning assignment := by
  fun_induction attach operator left right with
  | case1 inner first second same ih =>
      have firstWhole : ¬(operator = .multiply ∧ first.opensQuotient = true) := by
        rintro ⟨rfl, opens⟩
        apply whole
        cases inner <;> first | (cases same; done) | simp [opensQuotient, opens]
      have innerWhole : ¬(operator = .multiply ∧ inner = .divide) := by
        rintro ⟨rfl, rfl⟩
        exact whole ⟨rfl, rfl⟩
      rw [value, ih firstWhole]
      simp only [value]
      cases left.value meaning assignment with
      | none => rfl
      | some x =>
          cases first.value meaning assignment with
          | none => rfl
          | some y =>
              cases second.value meaning assignment with
              | none => simp
              | some z => exact BinaryOperator.apply_apply associates same innerWhole x y z
  | case2 inner first second other => rfl
  | case3 tree notBinary => rfl

theorem value_combine (whole : ¬(operator = .multiply ∧ right.opensQuotient = true)) :
    (combine operator left right).value meaning assignment =
      (binary operator left right).value meaning assignment := by
  unfold combine
  split
  · rename_i associates
    exact value_attach associates whole
  · rfl

/-- Regrouping keeps the value of a tree in which it takes no quotient apart. -/
theorem value_regrouped (tree : Reading) (whole : tree.splitsQuotient = false) :
    tree.regrouped.value meaning assignment = tree.value meaning assignment := by
  cases tree with
  | binary operator left right =>
      rw [splitsQuotient, Bool.or_eq_false_iff, Bool.or_eq_false_iff] at whole
      rcases whole with ⟨⟨leftWhole, rightWhole⟩, whole⟩
      have kept : ¬(operator = .multiply ∧ right.regrouped.opensQuotient = true) := by
        rintro ⟨rfl, opens⟩
        rw [opensQuotient_regrouped] at opens
        simp [opens] at whole
      rw [regrouped, value_combine kept, value, value_regrouped left leftWhole,
        value_regrouped right rightWhole, value]
  | _ => rfl

end Reading

end SqlMapper
