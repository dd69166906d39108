import SqlMapper.Proofs.Grammar.Recognition
import SqlMapper.Proofs.Grammar.Written
import SqlMapper.Proofs.Grouping.Regrouping

/-!
# Which operator owns which operand

Lowering puts binary operands in parentheses, but `NOT`, the sign and tests for NULL mostly stand
without. A `NOT` at the open end of an operand takes over what follows it, a test for NULL behind a
sign or on the right of a comparison takes over what stands before it. These are the only trees of
operators, leaning left, that are not read back as they are.
-/

namespace SqlMapper

open Grammar

/-- The operator compares. -/
def BinaryOperator.isComparison (operator : BinaryOperator) : Bool :=
  operator.precedence == BinaryOperator.equal.precedence

namespace Expr

/-- A tree of binary operators, `NOT`, signs, tests for NULL and `EXISTS` over columns, arguments,
raw text, calls and queries. -/
def isOperatorTree : Expr → Bool
  | .binary _ left right => left.isOperatorTree && right.isOperatorTree
  | .unary _ operand => operand.isOperatorTree
  | .isNull operand _ => operand.isOperatorTree
  | .inList .. | .between .. | .like .. => false
  | _ => true

/-- The precedence of a binary operation. -/
def precedence? : Expr → Option Nat
  | .binary operator _ _ => some operator.precedence
  | _ => none

/-- No binary operation has one of its own precedence on its right. -/
def leansLeft : Expr → Bool
  | .binary operator left right =>
      left.leansLeft && right.leansLeft && right.precedence? != some operator.precedence
  | .unary _ operand => operand.leansLeft
  | .isNull operand _ => operand.leansLeft
  | _ => true

/-- The expression is a test for NULL. -/
def isNullTest : Expr → Bool
  | .isNull .. => true
  | _ => false

/-- As it is written, the expression ends in an operand of a `NOT`, outside of parentheses. -/
def endsInNot : Expr → Bool
  | .unary .not _ => true
  | .unary .negate operand => !operand.isBinary && operand.endsInNot
  | .binary operator _ right => !right.needsParens operator .right && right.endsInNot
  | .existsQuery _ negated => negated
  | _ => false

/-- Nowhere does a `NOT` end an operand before a comparison, an arithmetic operator or a test for
NULL, nor is a test for NULL the operand of a sign or the right operand of a comparison. -/
def keepsOwners : Expr → Bool
  | .binary operator left right =>
      left.keepsOwners && right.keepsOwners &&
        (decide (operator.strength < UnaryOperator.not.strength) ||
          left.needsParens operator .left || !left.endsInNot) &&
        !(operator.isComparison && right.isNullTest)
  | .unary .not operand => operand.keepsOwners
  | .unary .negate operand => operand.keepsOwners && !operand.isNullTest
  | .isNull operand _ => operand.keepsOwners && (operand.isBinary || !operand.endsInNot)
  | _ => true

variable {rules : DialectRules} {fragment : Fragment}

theorem strength_of_ne {expr : Expr} (tree : expr.isOperatorTree = true)
    (simple : expr.isBinary = false) (other : expr.isNullTest = false) :
    expr.strength = UnaryOperator.negate.strength := by
  cases expr with
  | binary operator left right => cases simple
  | isNull operand negated => cases other
  | inList | between | like => cases tree
  | _ => rfl

theorem predicateStrength_le {expr : Expr} (simple : expr.isBinary = false) :
    predicateStrength ≤ expr.strength := by
  have tightest : predicateStrength ≤ UnaryOperator.negate.strength := by decide
  cases expr with
  | binary operator left right => cases simple
  | isNull | inList | between | like => exact Nat.le_refl _
  | _ => exact tightest

/-- The right operand of an operator, written without parentheses in a tree that leans left, binds
more strongly, unless a comparison has a test for NULL there. -/
theorem strength_lt_of_bare {operator : BinaryOperator} {right : Expr}
    (tree : right.isOperatorTree = true)
    (leans : (right.precedence? != some operator.precedence) = true)
    (apart : (operator.isComparison && right.isNullTest) = false)
    (bare : right.needsParens operator .right = false) : operator.strength < right.strength := by
  have atLeast := strength_le_of_right bare
  apply Nat.lt_of_le_of_ne atLeast
  intro same
  cases right with
  | binary inner first second =>
      have equal : inner.precedence = operator.precedence :=
        (Nat.eq_of_mul_eq_mul_left (by decide : 0 < 2) same).symm
      rw [precedence?, equal, bne_self_eq_false] at leans
      cases leans
  | isNull operand negated =>
      have comparison : operator.isComparison = true := by
        have equal : operator.precedence = BinaryOperator.equal.precedence :=
          Nat.eq_of_mul_eq_mul_left (by decide : 0 < 2) same
        rw [BinaryOperator.isComparison, equal, beq_self_eq_true]
      rw [comparison] at apart
      cases apart
  | inList | between | like => cases tree
  | _ => cases operator <;> cases same

/-- Where the expression may stand: the level and the reach are within its strength, and the reach
does not pass an open `NOT` at its end. -/
structure FitsAt (level reach : Nat) (expr : Expr) : Prop where
  binds : level ≤ expr.strength
  below : reach ≤ expr.strength
  loose : reach < UnaryOperator.negate.strength
  ends : expr.endsInNot = true → reach < UnaryOperator.not.strength

/-- Between parentheses every expression may stand. -/
theorem fitsAt_zero (expr : Expr) : FitsAt 0 0 expr where
  binds := Nat.zero_le _
  below := Nat.zero_le _
  loose := by decide
  ends _ := by decide

namespace FitsAt

variable {operator : BinaryOperator} {left right operand : Expr} {level reach : Nat}

/-- On the left of an operator an operand without parentheses stands within its strength. -/
theorem left_operand (fits : (binary operator left right).FitsAt level reach)
    (keeps : (binary operator left right).keepsOwners = true)
    (bare : left.needsParens operator .left = false) : left.FitsAt level operator.strength := by
  simp only [keepsOwners, Bool.and_eq_true, Bool.or_eq_true, decide_eq_true_eq,
    Bool.not_eq_true'] at keeps
  rcases keeps with ⟨⟨_, leftEnds⟩, _⟩
  have atLeast := strength_le_of_left bare
  have signLoose : operator.strength < UnaryOperator.negate.strength := by
    cases operator <;> decide
  refine ⟨Nat.le_trans fits.binds atLeast, atLeast, signLoose, ?_⟩
  intro open_
  rcases leftEnds with (looser | needed) | closed
  · exact looser
  · rw [bare] at needed
    cases needed
  · rw [open_] at closed
    cases closed

/-- On the right of an operator an operand without parentheses binds more strongly, and ends as the
whole does. -/
theorem right_operand (fits : (binary operator left right).FitsAt level reach)
    (tree : right.isOperatorTree = true) (leans : (binary operator left right).leansLeft = true)
    (keeps : (binary operator left right).keepsOwners = true)
    (bare : right.needsParens operator .right = false) :
    right.FitsAt (operator.strength + 1) reach := by
  simp only [keepsOwners, leansLeft, Bool.and_eq_true, Bool.not_eq_true'] at keeps leans
  have more := strength_lt_of_bare tree leans.2 keeps.2 bare
  refine ⟨more, Nat.le_trans fits.below (Nat.le_of_lt more), fits.loose, ?_⟩
  intro open_
  apply fits.ends
  rw [endsInNot, bare, open_]
  rfl

theorem reach_lt {operator : UnaryOperator} (fits : (unary operator operand).FitsAt level reach) :
    reach < operator.strength := by
  cases operator with
  | not => exact fits.ends rfl
  | negate => exact fits.loose

/-- Behind `NOT` or a sign an operand without parentheses reaches as far as the whole. -/
theorem unary_operand {operator : UnaryOperator}
    (fits : (unary operator operand).FitsAt level reach) (tree : operand.isOperatorTree = true)
    (keeps : (unary operator operand).keepsOwners = true) (simple : operand.isBinary = false) :
    operand.FitsAt operator.strength reach := by
  cases operator with
  | not =>
      have under : reach < UnaryOperator.not.strength := fits.reach_lt
      have atLeast : UnaryOperator.not.strength ≤ operand.strength :=
        Nat.le_trans (by decide) (predicateStrength_le simple)
      have below := Nat.le_trans (Nat.le_of_lt under) atLeast
      exact ⟨atLeast, below, fits.loose, fun _ => under⟩
  | negate =>
      simp only [keepsOwners, Bool.and_eq_true, Bool.not_eq_true'] at keeps
      have tight := strength_of_ne tree simple keeps.2
      have below : reach ≤ operand.strength := tight ▸ Nat.le_of_lt fits.loose
      refine ⟨Nat.le_of_eq tight.symm, below, fits.loose, ?_⟩
      intro open_
      apply fits.ends
      rw [endsInNot, simple, open_]
      rfl

/-- Before a test for NULL an operand without parentheses does not end in a `NOT`. -/
theorem tested_operand {negated : Bool} (fits : (isNull operand negated).FitsAt level reach)
    (keeps : (isNull operand negated).keepsOwners = true) (simple : operand.isBinary = false) :
    operand.FitsAt level predicateStrength := by
  simp only [keepsOwners, Bool.and_eq_true, Bool.or_eq_true, Bool.not_eq_true'] at keeps
  have atLeast := predicateStrength_le simple
  refine ⟨Nat.le_trans fits.binds atLeast, atLeast, by decide, ?_⟩
  intro open_
  rcases keeps.2 with binary | closed
  · rw [simple] at binary
    cases binary
  · rw [open_] at closed
    cases closed

end FitsAt

/-- The fragment is derived as the expression, as it is, wherever the expression may stand. -/
def DerivesAsIs (rules : DialectRules) (expr : Expr) (fragment : Fragment) : Prop :=
  ∀ ⦃level reach : Nat⦄, expr.FitsAt level reach →
    Derives level reach (expr.reading rules) fragment.chunks

namespace DerivesAsIs

variable {left right operand : Expr} {leftFragment rightFragment : Fragment}

/-- An operand is derived as it is between parentheses, and without them where it fits. -/
theorem enclosedIf {needed : Bool} {level reach : Nat}
    (asIs : operand.DerivesAsIs rules fragment)
    (fits : needed = false → operand.FitsAt level reach) :
    Derives level reach (operand.reading rules) (parenthesizedIf needed fragment).chunks :=
  .parenthesizedIf (fun _ => asIs operand.fitsAt_zero) (fun bare => asIs (fits bare))

theorem binary {operator : BinaryOperator} (tree : right.isOperatorTree = true)
    (leans : (binary operator left right).leansLeft = true)
    (keeps : (binary operator left right).keepsOwners = true)
    (leftAsIs : left.DerivesAsIs rules leftFragment)
    (rightAsIs : right.DerivesAsIs rules rightFragment) :
    (Expr.binary operator left right).DerivesAsIs rules
      (parenthesizedIf (left.needsParens operator .left) leftFragment ++
        .ofToken operator.token ++
        parenthesizedIf (right.needsParens operator .right) rightFragment) := by
  intro level reach fits
  refine .binary fits.binds fits.below (leftAsIs.enclosedIf ?_) (rightAsIs.enclosedIf ?_)
  · exact fits.left_operand keeps
  · exact fits.right_operand tree leans keeps

theorem unary {operator : UnaryOperator} (tree : operand.isOperatorTree = true)
    (keeps : (unary operator operand).keepsOwners = true)
    (asIs : operand.DerivesAsIs rules fragment) :
    (Expr.unary operator operand).DerivesAsIs rules
      (.ofToken operator.token ++ parenthesizedIf operand.isBinary fragment) := by
  intro level reach fits
  refine .unary fits.reach_lt (asIs.enclosedIf ?_)
  exact fits.unary_operand tree keeps

end DerivesAsIs

/-- A tree that leans left and keeps its owners is derived as it is wherever it may stand. -/
theorem derivesAsIs (expr : Expr) (tree : expr.isOperatorTree = true)
    (leans : expr.leansLeft = true) (keeps : expr.keepsOwners = true)
    (readable : expr.Readable rules) {fragment : Fragment}
    (lowered : expr.lower rules = .ok fragment) : expr.DerivesAsIs rules fragment := by
  cases expr with
  | binary operator left right =>
      rw [isOperatorTree, Bool.and_eq_true] at tree
      have operandsLean : left.leansLeft = true ∧ right.leansLeft = true := by
        simp only [leansLeft, Bool.and_eq_true] at leans
        exact leans.1
      have operandsKeep : left.keepsOwners = true ∧ right.keepsOwners = true := by
        simp only [keepsOwners, Bool.and_eq_true] at keeps
        exact keeps.1.1
      rw [lower_binary_eq_ok] at lowered
      rcases lowered with ⟨leftFragment, leftLowered, rightFragment, rightLowered, rfl⟩
      apply DerivesAsIs.binary tree.2 leans keeps
      · exact derivesAsIs left tree.1 operandsLean.1 operandsKeep.1 readable.1 leftLowered
      · exact derivesAsIs right tree.2 operandsLean.2 operandsKeep.2 readable.2 rightLowered
  | unary operator operand =>
      rw [lower_unary_eq_ok] at lowered
      rcases lowered with ⟨operandFragment, operandLowered, rfl⟩
      have operandTree : operand.isOperatorTree = true := tree
      apply DerivesAsIs.unary operandTree keeps
      have operandKeeps : operand.keepsOwners = true := by
        cases operator with
        | not => exact keeps
        | negate => exact (Bool.and_eq_true_iff.1 keeps).1
      exact derivesAsIs operand operandTree leans operandKeeps readable operandLowered
  | isNull operand negated =>
      intro level reach fits
      rw [lower_isNull_eq_ok] at lowered
      rcases lowered with ⟨operandFragment, operandLowered, rfl⟩
      have operandKeeps : operand.keepsOwners = true := (Bool.and_eq_true_iff.1 keeps).1
      have operandAsIs : operand.DerivesAsIs rules operandFragment :=
        derivesAsIs operand tree leans operandKeeps readable operandLowered
      rw [chunks_isNull]
      exact .isNull fits.binds (operandAsIs.enclosedIf (fits.tested_operand keeps))
  | existsQuery query negated =>
      intro level reach fits
      cases negated with
      | true =>
          rcases lower_negated_exists lowered with ⟨plain, plainLowered, written, kept⟩
          have unit : IsUnit plain.chunks := by
            rw [← chunks_eq plainLowered]
            exact readable
          rw [written, kept]
          exact .unary (fits.ends rfl) (.unit unit)
      | false => exact derives_of_isUnit rfl readable lowered
  | inList | between | like => cases tree
  | _ =>
      intro level reach _
      exact derives_of_isUnit rfl readable lowered

/-- The tree keeps its owners, an open `NOT` at its end does not take what the reach lets follow,
and a test for NULL is not above its level. -/
structure KeepsOwnersAt (level reach : Nat) (expr : Expr) : Prop where
  keeps : expr.keepsOwners = true
  closed : UnaryOperator.not.strength ≤ reach → expr.endsInNot = false
  low : expr.isNullTest = true → level ≤ predicateStrength

/-- An operand that is derived as it is written keeps its owners, and outside of parentheses it does
so where it stands. -/
theorem keepsOwners_of_parenthesizedIf {dialect : Dialect} {operand : Expr} {needed : Bool}
    {level reach : Nat} (lowered : operand.lower dialect.rules = .ok fragment)
    (compound : needed = true → operand.isUnit = false)
    (keepsAt : ∀ {level reach : Nat},
      Derives level reach (operand.reading dialect.rules) fragment.chunks →
        KeepsOwnersAt level reach operand)
    (derives : Derives level reach (operand.reading dialect.rules)
      (parenthesizedIf needed fragment).chunks) :
    operand.keepsOwners = true ∧ (needed = false → KeepsOwnersAt level reach operand) := by
  rcases derives_of_parenthesizedIf lowered compound derives with ⟨inside, bare⟩
  cases needed with
  | true => exact ⟨(keepsAt (inside rfl)).keeps, fun bare => by cases bare⟩
  | false => exact ⟨(keepsAt (bare rfl)).keeps, fun _ => keepsAt (bare rfl)⟩

/-- A test for NULL is written without parentheses unless an operator binds more strongly than a
comparison. -/
theorem needsParens_of_isNullTest {operator : BinaryOperator} {side : Side} {expr : Expr}
    (test : expr.isNullTest = true) : expr.needsParens operator side =
      decide (BinaryOperator.equal.precedence < operator.precedence) := by
  cases expr with
  | isNull operand negated => rfl
  | _ => cases test

namespace KeepsOwnersAt

variable {left right operand : Expr} {level reach : Nat}

/-- The right operand of a comparison is no test for NULL: the test would stand at a level that it
does not reach. -/
theorem isComparison_and_isNullTest {operator : BinaryOperator}
    (bare : right.needsParens operator .right = false →
      right.KeepsOwnersAt (operator.strength + 1) reach) :
    (operator.isComparison && right.isNullTest) = false := by
  rw [Bool.and_eq_false_iff]
  by_cases comparison : operator.isComparison = true
  · right
    cases test : right.isNullTest with
    | false => rfl
    | true =>
        have same : operator.precedence = BinaryOperator.equal.precedence := eq_of_beq comparison
        have strength : operator.strength = predicateStrength := congrArg (2 * ·) same
        have unneeded : right.needsParens operator .right = false := by
          rw [needsParens_of_isNullTest test, same]
          rfl
        have low := (bare unneeded).low test
        omega
  · exact Or.inl (Bool.eq_false_iff.2 comparison)

theorem binary {operator : BinaryOperator}
    (leftKeeps : left.keepsOwners = true ∧ (left.needsParens operator .left = false →
      left.KeepsOwnersAt level operator.strength))
    (rightKeeps : right.keepsOwners = true ∧ (right.needsParens operator .right = false →
      right.KeepsOwnersAt (operator.strength + 1) reach)) :
    (binary operator left right).KeepsOwnersAt level reach := by
  have leftEnds : (decide (operator.strength < UnaryOperator.not.strength) ||
      left.needsParens operator .left || !left.endsInNot) = true := by
    by_cases looser : operator.strength < UnaryOperator.not.strength
    · simp [looser]
    · cases needed : left.needsParens operator .left with
      | true => simp
      | false => simp [(leftKeeps.2 needed).closed (Nat.le_of_not_lt looser)]
  refine ⟨?_, ?_, fun test => by cases test⟩
  · rw [keepsOwners, leftKeeps.1, rightKeeps.1, leftEnds, isComparison_and_isNullTest rightKeeps.2]
    rfl
  · intro tight
    cases needed : right.needsParens operator .right with
    | true => simp [endsInNot, needed]
    | false => simp [endsInNot, (rightKeeps.2 needed).closed tight]

theorem unary {operator : UnaryOperator} (below : reach < operator.strength)
    (operandKeeps : operand.keepsOwners = true ∧ (operand.isBinary = false →
      operand.KeepsOwnersAt operator.strength reach)) :
    (unary operator operand).KeepsOwnersAt level reach := by
  cases operator with
  | not =>
      refine ⟨operandKeeps.1, ?_, fun test => by cases test⟩
      intro beyond
      exact absurd below (Nat.not_lt.2 beyond)
  | negate =>
      have other : operand.isNullTest = false := by
        cases test : operand.isNullTest with
        | false => rfl
        | true =>
            have simple : operand.isBinary = false := by
              cases operand with
              | isNull tested negated => rfl
              | _ => cases test
            exact absurd ((operandKeeps.2 simple).low test) (by decide)
      refine ⟨?_, ?_, fun test => by cases test⟩
      · rw [keepsOwners, operandKeeps.1, other]
        rfl
      · intro tight
        cases simple : operand.isBinary with
        | true => simp [endsInNot, simple]
        | false => simp [endsInNot, (operandKeeps.2 simple).closed tight]

theorem isNull {negated : Bool} (low : level ≤ predicateStrength)
    (operandKeeps : operand.keepsOwners = true ∧ (operand.isBinary = false →
      operand.KeepsOwnersAt level predicateStrength)) :
    (isNull operand negated).KeepsOwnersAt level reach := by
  refine ⟨?_, fun _ => rfl, fun _ => low⟩
  cases simple : operand.isBinary with
  | true => simp [keepsOwners, operandKeeps.1, simple]
  | false => simp [keepsOwners, operandKeeps.1, (operandKeeps.2 simple).closed (by decide)]

end KeepsOwnersAt

/-- What is derived as it is keeps its owners. -/
theorem keepsOwnersAt_of_derives {dialect : Dialect} (expr : Expr)
    (tree : expr.isOperatorTree = true) {fragment : Fragment}
    (lowered : expr.lower dialect.rules = .ok fragment) {level reach : Nat}
    (derives : Derives level reach (expr.reading dialect.rules) fragment.chunks) :
    KeepsOwnersAt level reach expr := by
  cases expr with
  | binary operator left right =>
      rw [isOperatorTree, Bool.and_eq_true] at tree
      rw [lower_binary_eq_ok] at lowered
      rcases lowered with ⟨leftFragment, leftLowered, rightFragment, rightLowered, rfl⟩
      have leftWritten := writtenOut_parenthesizedIf (left.needsParens operator .left) leftLowered
      rcases derives.binary_split leftWritten.balanced leftWritten.nonempty leftWritten.count with
        ⟨_, _, leftDerives, rightDerives⟩
      apply KeepsOwnersAt.binary
      · exact keepsOwners_of_parenthesizedIf leftLowered isUnit_eq_false_of_needsParens
          (keepsOwnersAt_of_derives left tree.1 leftLowered) leftDerives
      · exact keepsOwners_of_parenthesizedIf rightLowered isUnit_eq_false_of_needsParens
          (keepsOwnersAt_of_derives right tree.2 rightLowered) rightDerives
  | unary operator operand =>
      rw [lower_unary_eq_ok] at lowered
      rcases lowered with ⟨operandFragment, operandLowered, rfl⟩
      rcases derives.unary_split with ⟨below, operandDerives⟩
      apply KeepsOwnersAt.unary below
      exact keepsOwners_of_parenthesizedIf operandLowered isUnit_eq_false_of_isBinary
        (keepsOwnersAt_of_derives operand tree operandLowered) operandDerives
  | isNull operand negated =>
      rw [lower_isNull_eq_ok] at lowered
      rcases lowered with ⟨operandFragment, operandLowered, rfl⟩
      rw [chunks_isNull] at derives
      have written := writtenOut_parenthesizedIf operand.isBinary operandLowered
      rcases derives.isNull_split written.balanced written.nonempty with ⟨low, operandDerives⟩
      apply KeepsOwnersAt.isNull low
      exact keepsOwners_of_parenthesizedIf operandLowered isUnit_eq_false_of_isBinary
        (keepsOwnersAt_of_derives operand tree operandLowered) operandDerives
  | existsQuery query negated =>
      cases negated with
      | true =>
          rcases lower_negated_exists lowered with ⟨plain, _, written, kept⟩
          rw [written, kept] at derives
          have under : reach < UnaryOperator.not.strength := derives.unary_split.1
          refine ⟨rfl, ?_, fun test => by cases test⟩
          intro beyond
          exact absurd under (Nat.not_lt.2 beyond)
      | false => exact ⟨rfl, fun _ => rfl, fun test => by cases test⟩
  | inList | between | like => cases tree
  | _ => exact ⟨rfl, fun _ => rfl, fun test => by cases test⟩

end Expr

/-- A tree of operators that leans left and lowers is read back as it is exactly when it keeps its
owners. -/
theorem Expr.parse_lower_eq_reading_iff {dialect : Dialect} {expr : Expr} {fragment : Fragment}
    (tree : expr.isOperatorTree = true) (leans : expr.leansLeft = true)
    (lowered : expr.lower dialect.rules = .ok fragment) :
    parse fragment.chunks = some (expr.reading dialect.rules) ↔ expr.keepsOwners = true := by
  rw [parse_eq_some_iff]
  constructor
  · intro derives
    exact (keepsOwnersAt_of_derives expr tree lowered derives).keeps
  · intro keeps
    have readable := expr.readable_of_lower lowered
    exact derivesAsIs expr tree leans keeps readable lowered expr.fitsAt_zero

/-- The negation of a column under a comparison. -/
def Expr.comparedNegation : Expr :=
  .binary .equal (.unary .not (.column { table := "task", name := "done", type := .boolean }))
    (.column { table := "task", name := "late", type := .boolean })

/-- The negation of a comparison, and a test whether a negated sum is missing. -/
def Expr.negatedConjuncts : Expr :=
  .binary .and
    (.unary .not (.binary .less (.column { table := "task", name := "cost", type := .integer })
      (.unary .negate (.argument ⟨.integer 3, .integer⟩))))
    (.isNull (.unary .negate (.binary .add
      (.column { table := "task", name := "cost", type := .integer })
      (.argument ⟨.integer 1, .integer⟩))) true)

/-- Both sides of the equivalence occur. -/
theorem Expr.parse_lower_eq_reading_applies :
    (∃ fragment, negatedConjuncts.lower Dialect.sqlite.rules = .ok fragment ∧
      parse fragment.chunks = some (negatedConjuncts.reading Dialect.sqlite.rules)) ∧
    ∃ fragment, comparedNegation.lower Dialect.sqlite.rules = .ok fragment ∧
      parse fragment.chunks ≠ some (comparedNegation.reading Dialect.sqlite.rules) := by
  constructor
  · refine ⟨_, rfl, ?_⟩
    have keeps : negatedConjuncts.keepsOwners = true := rfl
    exact (parse_lower_eq_reading_iff rfl rfl rfl).2 keeps
  · refine ⟨_, rfl, ?_⟩
    intro read
    have keeps : comparedNegation.keepsOwners = true :=
      (parse_lower_eq_reading_iff rfl rfl rfl).1 read
    cases keeps

/-- A comparison whose left side is a negation is read as the negation of a comparison. -/
theorem Expr.parse_comparedNegation :
    parse (comparedNegation.chunks Dialect.sqlite.rules) =
        some (.unary .not (.binary .equal
          (.unit [.qualified "task" "done"]) (.unit [.qualified "task" "late"]))) ∧
      parse (comparedNegation.chunks Dialect.sqlite.rules) ≠
        some (comparedNegation.reading Dialect.sqlite.rules) := by
  have read : parse (comparedNegation.chunks Dialect.sqlite.rules) =
      some (.unary .not (.binary .equal
        (.unit [.qualified "task" "done"]) (.unit [.qualified "task" "late"]))) := rfl
  refine ⟨read, ?_⟩
  rw [read]
  intro same
  cases same

end SqlMapper
