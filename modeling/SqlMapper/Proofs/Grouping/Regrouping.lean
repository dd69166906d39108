import SqlMapper.Proofs.Grammar.Recognition
import SqlMapper.Proofs.Grammar.Units

/-!
# How binary operators are regrouped

On the right of an operator that associates, an operand of the same precedence is written without
parentheses. Its operators then form one chain with the operator before them, and the chain is read
from the left. The chunks of a tree of binary operators read as the tree regrouped in this way.
-/

namespace SqlMapper

open Grammar

namespace Reading

/-- The precedence of the outermost operator, if it is a binary one. -/
def precedence? : Reading → Option Nat
  | .binary operator _ _ => some operator.precedence
  | _ => none

/-- An operator between a left operand and a chain of its precedence, read from the left. -/
def attach (operator : BinaryOperator) (left : Reading) : Reading → Reading
  | .binary inner first second =>
      if inner.precedence = operator.precedence then
        .binary inner (attach operator left first) second
      else .binary operator left (.binary inner first second)
  | tree => .binary operator left tree

/-- An operator between its operands, as it is read when it is written without the parentheses that
its own associativity spares. -/
def combine (operator : BinaryOperator) (left right : Reading) : Reading :=
  if operator.associates then attach operator left right else .binary operator left right

/-- The tree as its chunks are read. -/
def regrouped : Reading → Reading
  | .binary operator left right => combine operator left.regrouped right.regrouped
  | tree => tree

variable {operator outer : BinaryOperator} {left middle right tree : Reading}

theorem attach_of_ne (other : right.precedence? ≠ some operator.precedence) :
    attach operator left right = .binary operator left right := by
  cases right with
  | binary inner first second =>
      rw [attach, if_neg]
      intro same
      exact other (by rw [precedence?, same])
  | _ => rfl

theorem attach_binary (same : operator.precedence = outer.precedence) :
    attach outer left (.binary operator middle right) =
      .binary operator (attach outer left middle) right := by
  rw [attach, if_pos same]

@[simp]
theorem precedence?_attach :
    (attach operator left right).precedence? = some operator.precedence := by
  cases right with
  | binary inner first second =>
      rw [attach]
      split
      · rename_i same
        rw [precedence?, same]
      · rfl
  | _ => rfl

@[simp]
theorem precedence?_combine :
    (combine operator left right).precedence? = some operator.precedence := by
  unfold combine
  split
  · exact precedence?_attach
  · rfl

@[simp]
theorem precedence?_regrouped : tree.regrouped.precedence? = tree.precedence? := by
  cases tree with
  | binary operator left right => rw [regrouped, precedence?_combine, precedence?]
  | _ => rfl

theorem precedence?_ne_of_notBinary
    (notBinary : ∀ inner first second, tree = binary inner first second → False)
    (precedence : Nat) : tree.precedence? ≠ some precedence := by
  cases tree with
  | binary inner first second => exact absurd rfl (notBinary inner first second)
  | _ => simp [precedence?]

/-- A chain that goes on by a chain is one chain. -/
theorem attach_attach (same : operator.precedence = outer.precedence) :
    attach outer left (attach operator middle right) =
      attach operator (attach outer left middle) right := by
  fun_induction attach operator middle right with
  | case1 inner first second sameInner ih =>
      rw [attach_binary (sameInner.trans same), ih, attach_binary sameInner]
  | case2 inner first second otherInner =>
      have other : (binary inner first second).precedence? ≠ some operator.precedence :=
        fun sameInner => otherInner (Option.some.inj sameInner)
      rw [attach_binary same]
      exact (attach_of_ne other).symm
  | case3 tree notBinary =>
      rw [attach_binary same]
      exact (attach_of_ne (precedence?_ne_of_notBinary notBinary _)).symm

theorem attach_combine (same : operator.precedence = outer.precedence) :
    attach outer left (combine operator middle right) =
      combine operator (attach outer left middle) right := by
  unfold combine
  split
  · exact attach_attach same
  · exact attach_binary same

end Reading

namespace Expr

/-- A tree of binary operators over atoms. -/
def isBinaryTree (isAtom : Expr → Bool) : Expr → Bool
  | .binary _ left right => left.isBinaryTree isAtom && right.isBinaryTree isAtom
  | atom => isAtom atom

/-- How strongly the outermost operator or predicate binds; whatever is neither is held together as
tightly as a sign and its operand. -/
def strength : Expr → Nat
  | .binary operator _ _ => operator.strength
  | .isNull .. | .inList .. | .between .. | .like .. => predicateStrength
  | _ => UnaryOperator.negate.strength

variable {operator : BinaryOperator} {expr : Expr}

/-- An operand on the left that is written as it is binds at least as strongly as its operator. -/
theorem strength_le_of_left (bare : expr.needsParens operator .left = false) :
    operator.strength ≤ expr.strength := by
  have tightest : operator.strength ≤ UnaryOperator.negate.strength := by
    cases operator <;> decide
  have predicate : decide (BinaryOperator.equal.precedence < operator.precedence) = false →
      operator.strength ≤ predicateStrength := by
    cases operator <;> decide
  cases expr with
  | binary inner left right =>
      rw [needsParens, Bool.or_eq_false_iff, decide_eq_false_iff_not, Nat.not_lt] at bare
      exact Nat.mul_le_mul_left 2 bare.1
  | isNull operand negated => exact predicate bare
  | inList operand elements negated => exact predicate bare
  | between operand low high negated => exact predicate bare
  | like operand pattern negated => exact predicate bare
  | _ => exact tightest

/-- An operand on the right that is written as it is binds at least as strongly as its operator. -/
theorem strength_le_of_right (bare : expr.needsParens operator .right = false) :
    operator.strength ≤ expr.strength := by
  apply strength_le_of_left
  cases expr with
  | binary inner left right =>
      rw [needsParens, Bool.or_eq_false_iff] at bare ⊢
      exact ⟨bare.1, rfl⟩
  | _ => exact bare

/-- On the right of an operator that does not associate, a binary operand that is written as it is
binds more strongly. -/
theorem strength_lt_of_right {inner : BinaryOperator} {left right : Expr}
    (bare : (binary inner left right).needsParens operator .right = false)
    (rigid : operator.associates = false) : operator.strength < inner.strength := by
  simp only [needsParens, rigid, Bool.or_eq_false_iff, decide_eq_false_iff_not, Nat.not_lt,
    beq_self_eq_true, Bool.true_and, Bool.not_false, Bool.and_true, beq_eq_false_iff_ne] at bare
  rcases bare with ⟨atLeast, different⟩
  unfold BinaryOperator.strength
  omega

theorem strength_lt_of_isBinaryTree (operator : BinaryOperator)
    (tree : expr.isBinaryTree isUnit = true)
    (leaf : expr.isBinary = false) : operator.strength < expr.strength := by
  have tightest : operator.strength < UnaryOperator.negate.strength := by
    cases operator <;> decide
  cases expr with
  | binary inner left right => cases leaf
  | isNull operand negated => cases tree
  | inList operand elements negated => cases tree
  | between operand low high negated => cases tree
  | like operand pattern negated => cases tree
  | _ => exact tightest

/-- Under parentheses there is no chain to go on with. -/
theorem precedence?_ne_of_needsParens (rules : DialectRules) {side : Side}
    (needed : expr.needsParens operator side = true)
    (free : side = .left ∨ operator.associates = true) :
    (expr.reading rules).precedence? ≠ some operator.precedence := by
  cases expr with
  | binary inner left right =>
      have looser : inner.precedence < operator.precedence := by
        rcases free with rfl | associates
        · simpa [needsParens] using needed
        · simpa [needsParens, associates] using needed
      intro same
      exact Nat.ne_of_lt looser (Option.some.inj same)
  | existsQuery query negated => cases negated <;> simp [reading, Reading.precedence?]
  | _ => simp [reading, Reading.precedence?]

end Expr

/-- An operand in parentheses or not is derived as it is written. -/
theorem Grammar.Derives.parenthesizedIf {level reach : Nat} {tree : Reading} {fragment : Fragment}
    {needed : Bool} (inside : needed = true → Derives 0 0 tree fragment.chunks)
    (bare : needed = false → Derives level reach tree fragment.chunks) :
    Derives level reach tree (parenthesizedIf needed fragment).chunks := by
  cases needed with
  | true => exact .group (inside rfl)
  | false => exact bare rfl

/-- The chunks of a lowered expression are read as its reading regrouped, by themselves and behind
an operator that binds no more strongly. -/
structure Expr.Regroups (rules : DialectRules) (expr : Expr) (fragment : Fragment) : Prop where
  alone : ∀ level reach, level ≤ expr.strength → reach ≤ expr.strength →
    Derives level reach (expr.reading rules).regrouped fragment.chunks
  behind : ∀ (operator : BinaryOperator) left chunks level reach,
    operator.strength ≤ expr.strength → level ≤ operator.strength → reach ≤ operator.strength →
    Derives level operator.strength left chunks →
    Derives level reach (.attach operator left (expr.reading rules).regrouped)
      (chunks ++ (Link.binary operator).chunks ++ fragment.chunks)

namespace Expr.Regroups

variable {rules : DialectRules} {operator : BinaryOperator} {expr left right : Expr}
  {fragment leftFragment rightFragment : Fragment}

theorem enclosed (regroups : expr.Regroups rules fragment) :
    Derives 0 0 (expr.reading rules).regrouped fragment.chunks :=
  regroups.alone 0 0 (Nat.zero_le _) (Nat.zero_le _)

theorem of_isUnit (unit : expr.isUnit = true) (readable : expr.Readable rules)
    (lowered : expr.lower rules = .ok fragment) : expr.Regroups rules fragment := by
  have kept : (expr.reading rules).regrouped = expr.reading rules := by
    rw [Expr.reading_of_isUnit unit]
    rfl
  have leaf : (expr.reading rules).precedence? = none := by
    rw [Expr.reading_of_isUnit unit]
    rfl
  constructor
  · intro level reach _ _
    rw [kept]
    exact Expr.derives_of_isUnit unit readable lowered
  · intro operator left chunks level reach _ binds below leftDerives
    rw [kept, Reading.attach_of_ne (by simp [leaf])]
    exact .binary binds below leftDerives (Expr.derives_of_isUnit unit readable lowered)

/-- An operator and its right operand behind what was read before them. -/
theorem behind_combine (regroups : right.Regroups rules rightFragment)
    (tight : right.isBinary = false → operator.strength < right.strength)
    {tree : Reading} {chunks : List Chunk} {level reach : Nat} (binds : level ≤ operator.strength)
    (below : reach ≤ operator.strength) (derives : Derives level operator.strength tree chunks) :
    Derives level reach (.combine operator tree (right.reading rules).regrouped)
      (chunks ++ (Link.binary operator).chunks ++
        (parenthesizedIf (right.needsParens operator .right) rightFragment).chunks) := by
  cases associates : operator.associates with
  | true =>
      rw [Reading.combine, if_pos associates]
      cases needed : right.needsParens operator .right with
      | true =>
          have other := Expr.precedence?_ne_of_needsParens rules needed (Or.inr associates)
          rw [Reading.attach_of_ne (by simpa using other)]
          exact .binary binds below derives (.group regroups.enclosed)
      | false =>
          have atLeast := Expr.strength_le_of_right needed
          exact regroups.behind operator tree chunks level reach atLeast binds below derives
  | false =>
      rw [Reading.combine, if_neg (by simp [associates])]
      refine .binary binds below derives (.parenthesizedIf (fun _ => regroups.enclosed) ?_)
      intro bare
      have more : operator.strength < right.strength := by
        cases right with
        | binary inner first second => exact Expr.strength_lt_of_right bare associates
        | _ => exact tight rfl
      exact regroups.alone _ _ more (Nat.le_trans below (Nat.le_of_lt more))

/-- The left operand of an operator, behind another operator of the same precedence. -/
theorem behind_left (regroups : left.Regroups rules leftFragment) {outer : BinaryOperator}
    (same : operator.precedence = outer.precedence) {tree : Reading} {chunks : List Chunk}
    {level : Nat} (binds : level ≤ outer.strength)
    (derives : Derives level outer.strength tree chunks) :
    Derives level operator.strength (.attach outer tree (left.reading rules).regrouped)
      (chunks ++ (Link.binary outer).chunks ++
        (parenthesizedIf (left.needsParens operator .left) leftFragment).chunks) := by
  have equally : operator.strength = outer.strength := congrArg (2 * ·) same
  cases needed : left.needsParens operator .left with
  | true =>
      have other := Expr.precedence?_ne_of_needsParens rules needed (Or.inl rfl)
      rw [Reading.attach_of_ne (by simpa [← same] using other)]
      exact .binary binds (Nat.le_of_eq equally) derives (.group regroups.enclosed)
  | false =>
      have atLeast := Expr.strength_le_of_left needed
      exact regroups.behind outer tree chunks level operator.strength (equally ▸ atLeast) binds
        (Nat.le_of_eq equally) derives

theorem of_isBinaryTree (expr : Expr) (tree : expr.isBinaryTree Expr.isUnit = true)
    (readable : expr.Readable rules) {fragment : Fragment}
    (lowered : expr.lower rules = .ok fragment) : expr.Regroups rules fragment := by
  cases expr with
  | binary operator left right =>
      rw [Expr.isBinaryTree, Bool.and_eq_true] at tree
      rw [Expr.lower_binary_eq_ok] at lowered
      rcases lowered with ⟨leftFragment, leftLowered, rightFragment, rightLowered, rfl⟩
      have leftRegroups := of_isBinaryTree left tree.1 readable.1 leftLowered
      have rightRegroups := of_isBinaryTree right tree.2 readable.2 rightLowered
      have tight := Expr.strength_lt_of_isBinaryTree operator tree.2
      have alone : ∀ level reach, level ≤ operator.strength → reach ≤ operator.strength →
          Derives level reach
            (.combine operator (left.reading rules).regrouped (right.reading rules).regrouped)
            ((parenthesizedIf (left.needsParens operator .left) leftFragment).chunks ++
              (Link.binary operator).chunks ++
              (parenthesizedIf (right.needsParens operator .right) rightFragment).chunks) := by
        intro level reach binds below
        refine behind_combine rightRegroups tight binds below (.parenthesizedIf ?_ ?_)
        · intro _
          exact leftRegroups.enclosed
        · intro bare
          have atLeast := Expr.strength_le_of_left bare
          exact leftRegroups.alone level _ (Nat.le_trans binds atLeast) atLeast
      refine ⟨alone, ?_⟩
      intro outer before chunks level reach atMost binds below derives
      have kept : ((Expr.binary operator left right).reading rules).regrouped =
          .combine operator (left.reading rules).regrouped (right.reading rules).regrouped := rfl
      rw [kept]
      rcases Nat.lt_or_eq_of_le atMost with looser | (equally : outer.strength = operator.strength)
      · have other : (Reading.combine operator (left.reading rules).regrouped
            (right.reading rules).regrouped).precedence? ≠ some outer.precedence := by
          rw [Reading.precedence?_combine]
          intro same
          have equal : operator.strength = outer.strength :=
            congrArg (2 * ·) (Option.some.inj same)
          exact Nat.ne_of_gt looser equal
        rw [Reading.attach_of_ne other]
        exact .binary binds below derives
          (alone _ _ looser (Nat.le_trans below (Nat.le_of_lt looser)))
      · -- The chain before the tree goes on with the tree's own chain.
        have same : operator.precedence = outer.precedence :=
          Nat.eq_of_mul_eq_mul_left (by decide : 0 < 2) equally.symm
        have behindLeft := behind_left leftRegroups same binds derives
        rw [Reading.attach_combine same]
        have whole := behind_combine rightRegroups tight (equally ▸ binds) (equally ▸ below)
          behindLeft
        simpa [Link.chunks] using whole
  | _ => exact of_isUnit tree readable lowered

end Expr.Regroups

/-- The chunks of a tree of binary operators over units are read as the tree regrouped. -/
theorem Expr.parse_eq_regrouped {rules : DialectRules} {expr : Expr} {fragment : Fragment}
    (tree : expr.isBinaryTree Expr.isUnit = true) (readable : expr.Readable rules)
    (lowered : expr.lower rules = .ok fragment) :
    parse fragment.chunks = some (expr.reading rules).regrouped := by
  rw [parse_eq_some_iff]
  exact (Expr.Regroups.of_isBinaryTree expr tree readable lowered).enclosed

end SqlMapper
