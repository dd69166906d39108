import SqlMapper.Proofs.Grouping.Ownership

/-!
# Predicates among comparisons

Comparisons and predicates (tests for NULL, memberships, ranges and pattern matches) bind equally
strongly and group to the left. Lowering puts a comparison in parentheses under each of them, but a
predicate stands without. In front, where it is compared, tested or listed, a predicate is complete
before anything takes it over. Behind, on the right of a comparison, as a bound of a range or as a
pattern, it comes too late: its operand already belongs to what stands before it. These are the only
trees of comparisons and predicates that are not read back as they are.
-/

namespace SqlMapper

open Grammar

theorem BinaryOperator.strength_of_isComparison {operator : BinaryOperator}
    (comparison : operator.isComparison = true) : operator.strength = predicateStrength :=
  congrArg (2 * ·) (eq_of_beq comparison)

namespace Expr

/-- The expression is a test for NULL, a membership, a range or a pattern match. -/
def isPredicate : Expr → Bool
  | .isNull .. | .inList .. | .between .. | .like .. => true
  | _ => false

mutual

/-- A tree of comparisons and predicates over columns, arguments, raw text, calls and queries. -/
def isPredicateTree : Expr → Bool
  | .binary operator left right =>
      operator.isComparison && left.isPredicateTree && right.isPredicateTree
  | .isNull operand _ => operand.isPredicateTree
  | .inList operand elements _ => operand.isPredicateTree && arePredicateTrees elements
  | .between operand low high _ =>
      operand.isPredicateTree && low.isPredicateTree && high.isPredicateTree
  | .like operand pattern _ => operand.isPredicateTree && pattern.isPredicateTree
  | atom => atom.isUnit

/-- All of the expressions are trees of comparisons and predicates. -/
def arePredicateTrees : List Expr → Bool
  | [] => true
  | expr :: rest => expr.isPredicateTree && arePredicateTrees rest

end

mutual

/-- No predicate is the right operand of a comparison, a bound of a range or a pattern. -/
def predicatesLead : Expr → Bool
  | .binary _ left right => left.predicatesLead && right.predicatesLead && !right.isPredicate
  | .isNull operand _ => operand.predicatesLead
  | .inList operand elements _ => operand.predicatesLead && allPredicatesLead elements
  | .between operand low high _ =>
      operand.predicatesLead && (low.predicatesLead && !low.isPredicate) &&
        (high.predicatesLead && !high.isPredicate)
  | .like operand pattern _ =>
      operand.predicatesLead && (pattern.predicatesLead && !pattern.isPredicate)
  | _ => true

/-- In none of the expressions does a predicate stand behind. -/
def allPredicatesLead : List Expr → Bool
  | [] => true
  | expr :: rest => expr.predicatesLead && allPredicatesLead rest

end

variable {rules : DialectRules} {fragment : Fragment}

theorem strength_of_simple {expr : Expr} (simple : expr.isBinary = false)
    (other : expr.isPredicate = false) : expr.strength = UnaryOperator.negate.strength := by
  cases expr with
  | binary operator left right => cases simple
  | isNull | inList | between | like => cases other
  | _ => rfl

theorem isPredicate_eq_false_of_isBinary {expr : Expr} (binary : expr.isBinary = true) :
    expr.isPredicate = false := by
  cases expr with
  | binary operator left right => rfl
  | _ => cases binary

/-- Under a comparison only a comparison may need parentheses. -/
theorem isBinary_of_needsParens {operator : BinaryOperator} {side : Side} {expr : Expr}
    (comparison : operator.isComparison = true)
    (needed : expr.needsParens operator side = true) : expr.isBinary = true := by
  have same : operator.precedence = BinaryOperator.equal.precedence := eq_of_beq comparison
  cases expr with
  | binary inner left right => rfl
  | isNull | inList | between | like =>
      rw [needsParens, same] at needed
      cases needed
  | _ => cases needed

/-- On the right of a comparison only a predicate binds no more strongly and is written as it is. -/
theorem strength_lt_of_isComparison {operator : BinaryOperator} {right : Expr}
    (comparison : operator.isComparison = true) (other : right.isPredicate = false)
    (bare : right.needsParens operator .right = false) : operator.strength < right.strength := by
  cases simple : right.isBinary with
  | true =>
      have rigid : operator.associates = false := by
        cases operator <;> first | rfl | cases comparison
      cases right with
      | binary inner first second => exact strength_lt_of_right bare rigid
      | _ => cases simple
  | false =>
      rw [strength_of_simple simple other, BinaryOperator.strength_of_isComparison comparison]
      decide

/-- The fragment is derived as the expression, as it is, at and within the expression's strength. -/
def DerivesWithin (rules : DialectRules) (expr : Expr) (fragment : Fragment) : Prop :=
  ∀ ⦃level reach : Nat⦄, level ≤ expr.strength → reach ≤ expr.strength →
    Derives level reach (expr.reading rules) fragment.chunks

namespace DerivesWithin

variable {left right operand : Expr} {leftFragment rightFragment : Fragment} {level reach : Nat}

theorem enclosed (within : operand.DerivesWithin rules fragment) :
    Derives 0 0 (operand.reading rules) fragment.chunks :=
  within (Nat.zero_le _) (Nat.zero_le _)

/-- Without parentheses no more than a predicate is asked of a tested operand. -/
theorem tested (within : operand.DerivesWithin rules fragment)
    (binds : level ≤ predicateStrength) :
    Derives level predicateStrength (operand.reading rules)
      (parenthesizedIf operand.isBinary fragment).chunks := by
  apply Derives.parenthesizedIf (fun _ => within.enclosed)
  intro simple
  have atLeast := predicateStrength_le simple
  exact within (Nat.le_trans binds atLeast) atLeast

/-- Behind a predicate stands what is no predicate itself. -/
theorem behind (within : operand.DerivesWithin rules fragment) (other : operand.isPredicate = false)
    (below : reach ≤ predicateStrength) :
    Derives (predicateStrength + 1) reach (operand.reading rules)
      (parenthesizedIf operand.isBinary fragment).chunks := by
  apply Derives.parenthesizedIf (fun _ => within.enclosed)
  intro simple
  have tight := strength_of_simple simple other
  apply within
  · rw [tight]
    decide
  · rw [tight]
    exact Nat.le_trans below (by decide)

/-- A comparison without a predicate on its right is derived as it is if its operands are. -/
theorem comparison {operator : BinaryOperator} (compares : operator.isComparison = true)
    (other : right.isPredicate = false) (leftWithin : left.DerivesWithin rules leftFragment)
    (rightWithin : right.DerivesWithin rules rightFragment) :
    (binary operator left right).DerivesWithin rules
      (parenthesizedIf (left.needsParens operator .left) leftFragment ++
        .ofToken operator.token ++
        parenthesizedIf (right.needsParens operator .right) rightFragment) := by
  intro level reach binds below
  refine .binary binds below (.parenthesizedIf (fun _ => leftWithin.enclosed) ?_)
    (.parenthesizedIf (fun _ => rightWithin.enclosed) ?_)
  · intro bare
    have atLeast := strength_le_of_left bare
    exact leftWithin (Nat.le_trans binds atLeast) atLeast
  · intro bare
    have more := strength_lt_of_isComparison compares other bare
    exact rightWithin more (Nat.le_trans below (Nat.le_of_lt more))

end DerivesWithin

mutual

/-- A tree in which predicates stand in front is derived as it is within its strength. -/
theorem derivesWithin_of_predicatesLead (expr : Expr) (tree : expr.isPredicateTree = true)
    (leads : expr.predicatesLead = true) (readable : expr.Readable rules) {fragment : Fragment}
    (lowered : expr.lower rules = .ok fragment) : expr.DerivesWithin rules fragment := by
  cases expr with
  | binary operator left right =>
      simp only [isPredicateTree, predicatesLead, Bool.and_eq_true, Bool.not_eq_true']
        at tree leads
      rcases tree with ⟨⟨compares, leftTree⟩, rightTree⟩
      rcases leads with ⟨⟨leftLeads, rightLeads⟩, other⟩
      rw [lower_binary_eq_ok] at lowered
      rcases lowered with ⟨leftFragment, leftLowered, rightFragment, rightLowered, rfl⟩
      apply DerivesWithin.comparison compares other
      · exact derivesWithin_of_predicatesLead left leftTree leftLeads readable.1 leftLowered
      · exact derivesWithin_of_predicatesLead right rightTree rightLeads readable.2 rightLowered
  | isNull operand negated =>
      intro level reach binds _
      rw [lower_isNull_eq_ok] at lowered
      rcases lowered with ⟨operandFragment, operandLowered, rfl⟩
      have operandWithin :=
        derivesWithin_of_predicatesLead operand tree leads readable operandLowered
      rw [chunks_isNull]
      exact .isNull binds (operandWithin.tested binds)
  | inList operand elements negated =>
      intro level reach binds _
      simp only [isPredicateTree, predicatesLead, Bool.and_eq_true] at tree leads
      rw [lower_inList_eq_ok] at lowered
      rcases lowered with
        ⟨nonempty, operandFragment, operandLowered, fragments, elementsLowered, rfl⟩
      have operandWithin :=
        derivesWithin_of_predicatesLead operand tree.1 leads.1 readable.1 operandLowered
      have elementsDerive := forall₂_derives_of_predicatesLead elements tree.2 leads.2 readable.2
        elementsLowered
      rw [chunks_inList]
      refine .inList_of_forall₂ binds (operandWithin.tested binds) ?_ elementsDerive
      cases elements with
      | nil => exact absurd rfl nonempty
      | cons expr rest => exact List.cons_ne_nil _ _
  | between operand low high negated =>
      intro level reach binds below
      simp only [isPredicateTree, predicatesLead, Bool.and_eq_true, Bool.not_eq_true']
        at tree leads
      rcases tree with ⟨⟨operandTree, lowTree⟩, highTree⟩
      rcases leads with ⟨⟨operandLeads, lowLeads, lowOther⟩, highLeads, highOther⟩
      rcases readable with ⟨operandReadable, lowReadable, highReadable⟩
      rw [lower_between_eq_ok] at lowered
      rcases lowered with
        ⟨operandFragment, operandLowered, lowFragment, lowLowered, highFragment, highLowered, rfl⟩
      have operandWithin :=
        derivesWithin_of_predicatesLead operand operandTree operandLeads operandReadable
          operandLowered
      have lowWithin := derivesWithin_of_predicatesLead low lowTree lowLeads lowReadable lowLowered
      have highWithin :=
        derivesWithin_of_predicatesLead high highTree highLeads highReadable highLowered
      rw [chunks_between]
      exact .between binds below (operandWithin.tested binds)
        (lowWithin.behind lowOther (by decide)) (highWithin.behind highOther below)
  | like operand pattern negated =>
      intro level reach binds below
      simp only [isPredicateTree, predicatesLead, Bool.and_eq_true, Bool.not_eq_true']
        at tree leads
      rcases leads with ⟨operandLeads, patternLeads, other⟩
      rw [lower_like_eq_ok] at lowered
      rcases lowered with ⟨operandFragment, operandLowered, patternFragment, patternLowered, rfl⟩
      have operandWithin :=
        derivesWithin_of_predicatesLead operand tree.1 operandLeads readable.1 operandLowered
      have patternWithin :=
        derivesWithin_of_predicatesLead pattern tree.2 patternLeads readable.2 patternLowered
      rw [chunks_like]
      exact .like binds below (operandWithin.tested binds) (patternWithin.behind other below)
  | unary operator operand => cases tree
  | existsQuery query negated => exact fun _ _ _ _ => derives_of_isUnit tree readable lowered
  | _ => exact fun _ _ _ _ => derives_of_isUnit rfl readable lowered

theorem forall₂_derives_of_predicatesLead (exprs : List Expr)
    (trees : arePredicateTrees exprs = true) (lead : allPredicatesLead exprs = true)
    (readable : AllReadable rules exprs) {fragments : List Fragment}
    (lowered : lowerExprs rules exprs = .ok fragments) :
    List.Forall₂ (Derives 0 0) (readings rules exprs) (fragments.map Fragment.chunks) := by
  cases exprs with
  | nil =>
      rw [lowerExprs_nil_eq_ok] at lowered
      rw [← lowered]
      exact List.Forall₂.nil
  | cons expr rest =>
      simp only [arePredicateTrees, allPredicatesLead, Bool.and_eq_true] at trees lead
      rw [lowerExprs_cons_eq_ok] at lowered
      rcases lowered with ⟨first, firstLowered, others, othersLowered, rfl⟩
      have firstWithin :=
        derivesWithin_of_predicatesLead expr trees.1 lead.1 readable.1 firstLowered
      exact List.Forall₂.cons firstWithin.enclosed
        (forall₂_derives_of_predicatesLead rest trees.2 lead.2 readable.2 othersLowered)

end

/-- Predicates stand in front in the tree, and if it is a predicate itself, then at a level that a
predicate reaches. -/
structure PredicatesLeadAt (level : Nat) (expr : Expr) : Prop where
  leads : expr.predicatesLead = true
  low : expr.isPredicate = true → level ≤ predicateStrength

variable {dialect : Dialect}

/-- In an operand that is derived as it is written predicates stand in front, and outside of
parentheses so they do at its level. -/
theorem predicatesLead_of_parenthesizedIf {operand : Expr} {needed : Bool} {level reach : Nat}
    (lowered : operand.lower dialect.rules = .ok fragment)
    (binary : needed = true → operand.isBinary = true)
    (leadsAt : ∀ {level reach : Nat},
      Derives level reach (operand.reading dialect.rules) fragment.chunks →
        PredicatesLeadAt level operand)
    (derives : Derives level reach (operand.reading dialect.rules)
      (parenthesizedIf needed fragment).chunks) : PredicatesLeadAt level operand := by
  rcases derives_of_parenthesizedIf lowered
    (fun needed => isUnit_eq_false_of_isBinary (binary needed)) derives with ⟨inside, bare⟩
  cases needed with
  | true =>
      refine ⟨(leadsAt (inside rfl)).leads, ?_⟩
      intro predicate
      rw [isPredicate_eq_false_of_isBinary (binary rfl)] at predicate
      cases predicate
  | false => exact leadsAt (bare rfl)

namespace PredicatesLeadAt

variable {operand left right low high : Expr} {level : Nat} {negated : Bool}

/-- No predicate stands where only what binds more strongly is derived. -/
theorem isPredicate_eq_false (leadsAt : PredicatesLeadAt (predicateStrength + 1) operand) :
    operand.isPredicate = false := by
  cases predicate : operand.isPredicate with
  | false => rfl
  | true => exact absurd (leadsAt.low predicate) (Nat.not_succ_le_self _)

theorem comparison {operator : BinaryOperator} {leftLevel : Nat}
    (leftLeads : PredicatesLeadAt leftLevel left)
    (rightLeads : PredicatesLeadAt (predicateStrength + 1) right) :
    PredicatesLeadAt level (binary operator left right) := by
  refine ⟨?_, fun predicate => by cases predicate⟩
  rw [predicatesLead, leftLeads.leads, rightLeads.leads, rightLeads.isPredicate_eq_false]
  rfl

theorem inList {elements : List Expr} (binds : level ≤ predicateStrength)
    (operandLeads : PredicatesLeadAt level operand)
    (elementsLead : allPredicatesLead elements = true) :
    PredicatesLeadAt level (inList operand elements negated) := by
  refine ⟨?_, fun _ => binds⟩
  rw [predicatesLead, operandLeads.leads, elementsLead]
  rfl

theorem between (binds : level ≤ predicateStrength) (operandLeads : PredicatesLeadAt level operand)
    (lowLeads : PredicatesLeadAt (predicateStrength + 1) low)
    (highLeads : PredicatesLeadAt (predicateStrength + 1) high) :
    PredicatesLeadAt level (between operand low high negated) := by
  refine ⟨?_, fun _ => binds⟩
  rw [predicatesLead, operandLeads.leads, lowLeads.leads, lowLeads.isPredicate_eq_false,
    highLeads.leads, highLeads.isPredicate_eq_false]
  rfl

theorem like {pattern : Expr} (binds : level ≤ predicateStrength)
    (operandLeads : PredicatesLeadAt level operand)
    (patternLeads : PredicatesLeadAt (predicateStrength + 1) pattern) :
    PredicatesLeadAt level (like operand pattern negated) := by
  refine ⟨?_, fun _ => binds⟩
  rw [predicatesLead, operandLeads.leads, patternLeads.leads, patternLeads.isPredicate_eq_false]
  rfl

end PredicatesLeadAt

mutual

/-- In what is derived as it is predicates stand in front. -/
theorem predicatesLeadAt_of_derives (expr : Expr) (tree : expr.isPredicateTree = true)
    {fragment : Fragment} (lowered : expr.lower dialect.rules = .ok fragment) {level reach : Nat}
    (derives : Derives level reach (expr.reading dialect.rules) fragment.chunks) :
    PredicatesLeadAt level expr := by
  cases expr with
  | binary operator left right =>
      simp only [isPredicateTree, Bool.and_eq_true] at tree
      rcases tree with ⟨⟨comparison, leftTree⟩, rightTree⟩
      rw [lower_binary_eq_ok] at lowered
      rcases lowered with ⟨leftFragment, leftLowered, rightFragment, rightLowered, rfl⟩
      have written := writtenOut_parenthesizedIf (left.needsParens operator .left) leftLowered
      rcases derives.binary_split written.balanced written.nonempty written.count with
        ⟨_, _, leftDerives, rightDerives⟩
      rw [BinaryOperator.strength_of_isComparison comparison] at rightDerives
      apply PredicatesLeadAt.comparison
      · exact predicatesLead_of_parenthesizedIf leftLowered (isBinary_of_needsParens comparison)
          (predicatesLeadAt_of_derives left leftTree leftLowered) leftDerives
      · exact predicatesLead_of_parenthesizedIf rightLowered (isBinary_of_needsParens comparison)
          (predicatesLeadAt_of_derives right rightTree rightLowered) rightDerives
  | isNull operand negated =>
      rw [lower_isNull_eq_ok] at lowered
      rcases lowered with ⟨operandFragment, operandLowered, rfl⟩
      rw [chunks_isNull] at derives
      have written := writtenOut_parenthesizedIf operand.isBinary operandLowered
      rcases derives.isNull_split written.balanced written.nonempty with ⟨binds, operandDerives⟩
      have operandLeads := predicatesLead_of_parenthesizedIf operandLowered id
        (predicatesLeadAt_of_derives operand tree operandLowered) operandDerives
      exact ⟨operandLeads.leads, fun _ => binds⟩
  | inList operand elements negated =>
      rw [isPredicateTree, Bool.and_eq_true] at tree
      rw [lower_inList_eq_ok] at lowered
      rcases lowered with ⟨_, operandFragment, operandLowered, fragments, elementsLowered, rfl⟩
      rw [chunks_inList] at derives
      have written := writtenOut_parenthesizedIf operand.isBinary operandLowered
      have counts := forall₂_countP_lower elements elementsLowered
      rcases derives.inList_split written.balanced written.nonempty written.count counts with
        ⟨binds, operandDerives, elementsDerive⟩
      apply PredicatesLeadAt.inList binds
      · exact predicatesLead_of_parenthesizedIf operandLowered id
          (predicatesLeadAt_of_derives operand tree.1 operandLowered) operandDerives
      · exact allPredicatesLead_of_derives elements tree.2 elementsLowered elementsDerive
  | between operand low high negated =>
      simp only [isPredicateTree, Bool.and_eq_true] at tree
      rcases tree with ⟨⟨operandTree, lowTree⟩, highTree⟩
      rw [lower_between_eq_ok] at lowered
      rcases lowered with
        ⟨operandFragment, operandLowered, lowFragment, lowLowered, highFragment, highLowered, rfl⟩
      rw [chunks_between] at derives
      have written := writtenOut_parenthesizedIf operand.isBinary operandLowered
      have lowWritten := writtenOut_parenthesizedIf low.isBinary lowLowered
      rcases derives.between_split written.balanced written.nonempty written.count
        lowWritten.count with ⟨binds, operandDerives, lowDerives, highDerives⟩
      apply PredicatesLeadAt.between binds
      · exact predicatesLead_of_parenthesizedIf operandLowered id
          (predicatesLeadAt_of_derives operand operandTree operandLowered) operandDerives
      · exact predicatesLead_of_parenthesizedIf lowLowered id
          (predicatesLeadAt_of_derives low lowTree lowLowered) lowDerives
      · exact predicatesLead_of_parenthesizedIf highLowered id
          (predicatesLeadAt_of_derives high highTree highLowered) highDerives
  | like operand pattern negated =>
      rw [isPredicateTree, Bool.and_eq_true] at tree
      rw [lower_like_eq_ok] at lowered
      rcases lowered with ⟨operandFragment, operandLowered, patternFragment, patternLowered, rfl⟩
      rw [chunks_like] at derives
      have written := writtenOut_parenthesizedIf operand.isBinary operandLowered
      rcases derives.like_split written.balanced written.nonempty written.count with
        ⟨binds, operandDerives, patternDerives⟩
      apply PredicatesLeadAt.like binds
      · exact predicatesLead_of_parenthesizedIf operandLowered id
          (predicatesLeadAt_of_derives operand tree.1 operandLowered) operandDerives
      · exact predicatesLead_of_parenthesizedIf patternLowered id
          (predicatesLeadAt_of_derives pattern tree.2 patternLowered) patternDerives
  | unary operator operand => cases tree
  | _ => exact ⟨rfl, fun predicate => by cases predicate⟩

theorem allPredicatesLead_of_derives (exprs : List Expr)
    (trees : arePredicateTrees exprs = true) {fragments : List Fragment}
    (lowered : lowerExprs dialect.rules exprs = .ok fragments)
    (derive : List.Forall₂ (Derives 0 0) (readings dialect.rules exprs)
      (fragments.map Fragment.chunks)) : allPredicatesLead exprs = true := by
  cases exprs with
  | nil => rfl
  | cons expr rest =>
      rw [arePredicateTrees, Bool.and_eq_true] at trees
      rw [lowerExprs_cons_eq_ok] at lowered
      rcases lowered with ⟨first, firstLowered, others, othersLowered, rfl⟩
      rcases List.forall₂_cons.1 derive with ⟨firstDerives, othersDerive⟩
      have firstLeads := predicatesLeadAt_of_derives expr trees.1 firstLowered firstDerives
      have othersLead := allPredicatesLead_of_derives rest trees.2 othersLowered othersDerive
      rw [allPredicatesLead, firstLeads.leads, othersLead]
      rfl

end

end Expr

/-- A tree of comparisons and predicates that lowers is read back as it is exactly when no predicate
is the right operand of a comparison, a bound of a range or a pattern. -/
theorem Expr.parse_lower_eq_reading_iff_predicatesLead {dialect : Dialect} {expr : Expr}
    {fragment : Fragment} (tree : expr.isPredicateTree = true)
    (lowered : expr.lower dialect.rules = .ok fragment) :
    parse fragment.chunks = some (expr.reading dialect.rules) ↔ expr.predicatesLead = true := by
  rw [parse_eq_some_iff]
  constructor
  · intro derives
    exact (predicatesLeadAt_of_derives expr tree lowered derives).leads
  · intro leads
    have readable := expr.readable_of_lower lowered
    exact (derivesWithin_of_predicatesLead expr tree leads readable lowered).enclosed

/-- A column compared with a test for NULL. -/
def Expr.comparedTest : Expr :=
  .binary .equal (.column { table := "task", name := "late", type := .boolean })
    (.isNull (.column { table := "task", name := "done", type := .boolean }) false)

/-- A range of a negated membership, whose list holds a comparison and a pattern match, tested for
NULL. -/
def Expr.testedRange : Expr :=
  .isNull
    (.between
      (.inList (.column { table := "task", name := "title", type := .text })
        [.binary .less
            (.like (.raw "a") (.binary .equal (.raw "b") (.raw "c")) false) (.raw "d"),
          .argument ⟨.text "x", .text⟩] true)
      (.binary .notEqual (.isNull (.raw "e") true) (.raw "f")) (.argument ⟨.integer 2, .integer⟩)
      true) false

/-- Both sides of the equivalence occur. -/
theorem Expr.parse_lower_eq_reading_predicatesLead_applies :
    (∃ fragment, testedRange.lower Dialect.sqlite.rules = .ok fragment ∧
      parse fragment.chunks = some (testedRange.reading Dialect.sqlite.rules)) ∧
    ∃ fragment, comparedTest.lower Dialect.sqlite.rules = .ok fragment ∧
      parse fragment.chunks ≠ some (comparedTest.reading Dialect.sqlite.rules) := by
  constructor
  · refine ⟨_, rfl, ?_⟩
    have leads : testedRange.predicatesLead = true := rfl
    exact (parse_lower_eq_reading_iff_predicatesLead rfl rfl).2 leads
  · refine ⟨_, rfl, ?_⟩
    intro read
    have leads : comparedTest.predicatesLead = true :=
      (parse_lower_eq_reading_iff_predicatesLead rfl rfl).1 read
    cases leads

/-- A comparison with a test for NULL is read as a test of the comparison. -/
theorem Expr.parse_comparedTest :
    comparedTest.isPredicateTree = true ∧
      parse (comparedTest.chunks Dialect.sqlite.rules) =
        some (.isNull (.binary .equal
          (.unit [.qualified "task" "late"]) (.unit [.qualified "task" "done"])) false) ∧
      parse (comparedTest.chunks Dialect.sqlite.rules) ≠
        some (comparedTest.reading Dialect.sqlite.rules) := by
  have read : parse (comparedTest.chunks Dialect.sqlite.rules) =
      some (.isNull (.binary .equal
        (.unit [.qualified "task" "late"]) (.unit [.qualified "task" "done"])) false) := rfl
  refine ⟨rfl, read, ?_⟩
  rw [read]
  intro same
  cases same

end SqlMapper
