import SqlMapper.Proofs.Grouping.Regrouping

/-!
# Chains of operators of one precedence

What is written without parentheses between operators of one precedence is a chain of operands, and
it is read from the left. A tree opens its left operand to the chain if the precedence is the same,
and its right operand if moreover the operator associates; every other operand is one unit of the
chain. A tree of binary operators is read as its chains, grouped from the left at every level, and
is read back as it is if no operator that associates has one of its own precedence on its right.
-/

namespace SqlMapper

open Grammar

namespace Reading

/-- An operand, and operators each with a further operand. -/
structure Chain where
  first : Reading
  rest : List (BinaryOperator × Reading)

namespace Chain

/-- The chain of a single operand. -/
def single (operand : Reading) : Chain :=
  ⟨operand, []⟩

/-- A chain, an operator, and another chain that goes on behind it. -/
def link (before : Chain) (operator : BinaryOperator) (behind : Chain) : Chain :=
  ⟨before.first, before.rest ++ (operator, behind.first) :: behind.rest⟩

/-- What was read, taken over by operators with further operands, one after the other. -/
def groupBehind (before : Reading) (rest : List (BinaryOperator × Reading)) : Reading :=
  rest.foldl (fun left entry => .binary entry.1 left entry.2) before

/-- The chain as it is read from the left. -/
def grouped (chain : Chain) : Reading :=
  groupBehind chain.first chain.rest

/-- The chain itself, or its operands grouped to one unit of another chain. -/
def openedIf (opened : Bool) (chain : Chain) : Chain :=
  if opened then chain else .single chain.grouped

/-- Every operator of the chain has the precedence, which the first operand has not. -/
structure AtLevel (precedence : Nat) (chain : Chain) : Prop where
  first : chain.first.precedence? ≠ some precedence
  rest : ∀ entry ∈ chain.rest, entry.1.precedence = precedence

variable {operator : BinaryOperator} {precedence : Nat} {left middle tree : Reading}
  {before behind : Chain} {rest : List (BinaryOperator × Reading)}

theorem grouped_link :
    (before.link operator behind).grouped =
      groupBehind (.binary operator before.grouped behind.first) behind.rest := by
  simp [grouped, link, groupBehind]

@[simp]
theorem grouped_openedIf (opened : Bool) (chain : Chain) :
    (chain.openedIf opened).grouped = chain.grouped := by
  cases opened <;> rfl

theorem atLevel_openedIf {opened : Bool} {chain : Chain}
    (inside : opened = true → chain.AtLevel precedence)
    (outside : opened = false → chain.grouped.precedence? ≠ some precedence) :
    (chain.openedIf opened).AtLevel precedence := by
  cases opened with
  | true => exact inside rfl
  | false => exact ⟨outside rfl, by simp [openedIf, single]⟩

theorem precedence_of_mem_openedIf {opened : Bool} {chain : Chain}
    (inside : opened = true → chain.AtLevel precedence) :
    ∀ entry ∈ (chain.openedIf opened).rest, entry.1.precedence = precedence := by
  cases opened with
  | true => exact (inside rfl).rest
  | false => simp [openedIf, single]

theorem AtLevel.link (level : before.AtLevel operator.precedence)
    (same : ∀ entry ∈ behind.rest, entry.1.precedence = operator.precedence) :
    (before.link operator behind).AtLevel operator.precedence where
  first := level.first
  rest := by
    intro entry member
    simp only [Chain.link, List.mem_append, List.mem_cons] at member
    rcases member with old | rfl | new
    · exact level.rest entry old
    · rfl
    · exact same entry new

/-- An operator before operators of its precedence is attached to what stands before these. -/
theorem attach_groupBehind (same : ∀ entry ∈ rest, entry.1.precedence = operator.precedence) :
    attach operator left (groupBehind middle rest) =
      groupBehind (attach operator left middle) rest := by
  induction rest generalizing middle with
  | nil => rfl
  | cons entry rest ih =>
      have first : entry.1.precedence = operator.precedence := same entry (by simp)
      have others : ∀ other ∈ rest, other.1.precedence = operator.precedence := by
        intro other member
        exact same other (by simp [member])
      have behind : attach operator left (groupBehind (.binary entry.1 middle entry.2) rest) =
          groupBehind (attach operator left (.binary entry.1 middle entry.2)) rest := ih others
      rw [attach_binary first] at behind
      exact behind

/-- An operator that associates goes on with a chain of its precedence. -/
theorem attach_grouped (before : Chain) (level : behind.AtLevel operator.precedence) :
    attach operator before.grouped behind.grouped = (before.link operator behind).grouped := by
  rw [grouped_link, ← attach_of_ne level.first]
  exact attach_groupBehind level.rest

end Chain

/-- The chain that a tree opens. An operand of the tree's own precedence is opened on the left of
every operator, and on the right of an operator that associates; any other operand is one unit. -/
def chain : Reading → Chain
  | .binary operator left right =>
      let same (operand : Reading) : Bool := operand.precedence? == some operator.precedence
      (left.chain.openedIf (same left)).link operator
        (right.chain.openedIf (operator.associates && same right))
  | tree => .single tree

/-- The tree with the chain of every level grouped from the left. -/
def normalized (tree : Reading) : Reading :=
  tree.chain.grouped

/-- No operator that associates has an operand of its own precedence on its right. -/
def keepsGroups : Reading → Bool
  | .binary operator left right =>
      left.keepsGroups && right.keepsGroups &&
        !(operator.associates && right.precedence? == some operator.precedence)
  | _ => true

/-- The chain of a tree has the tree's precedence, and groups to the tree regrouped. -/
structure Opens (tree : Reading) (chain : Chain) : Prop where
  grouped : chain.grouped = tree.regrouped
  level : ∀ precedence, tree.precedence? = some precedence → chain.AtLevel precedence

namespace Opens

variable {tree left right : Reading} {chain before behind : Chain} {operator : BinaryOperator}

theorem atLevel_openedIf (opens : tree.Opens chain) (precedence : Nat) :
    (chain.openedIf (tree.precedence? == some precedence)).AtLevel precedence := by
  apply Chain.atLevel_openedIf
  · intro opened
    exact opens.level precedence (eq_of_beq opened)
  · intro closed
    simpa [opens.grouped] using closed

/-- The chains of two operands make up the chain of their operation. -/
theorem link (leftOpens : left.Opens before) (rightOpens : right.Opens behind) :
    (binary operator left right).Opens
      ((before.openedIf (left.precedence? == some operator.precedence)).link operator
        (behind.openedIf
          (operator.associates && right.precedence? == some operator.precedence))) where
  grouped := by
    rw [regrouped, combine]
    cases associates : operator.associates with
    | true =>
        have attached := Chain.attach_grouped
          (before.openedIf (left.precedence? == some operator.precedence))
          (rightOpens.atLevel_openedIf operator.precedence)
        simpa [leftOpens.grouped, rightOpens.grouped] using attached.symm
    | false =>
        rw [Chain.grouped_link, Chain.grouped_openedIf, leftOpens.grouped]
        simp [Chain.openedIf, Chain.single, Chain.groupBehind, rightOpens.grouped]
  level := by
    rintro _ ⟨⟩
    apply (leftOpens.atLevel_openedIf operator.precedence).link
    apply Chain.precedence_of_mem_openedIf
    intro opened
    simp only [Bool.and_eq_true, beq_iff_eq] at opened
    exact rightOpens.level _ opened.2

end Opens

theorem opens_chain (tree : Reading) : tree.Opens tree.chain := by
  cases tree with
  | binary operator left right => exact (opens_chain left).link (opens_chain right)
  | _ => exact ⟨rfl, by rintro _ ⟨⟩⟩

theorem regrouped_eq_normalized (tree : Reading) : tree.regrouped = tree.normalized :=
  tree.opens_chain.grouped.symm

/-- A tree that keeps its groups is not regrouped. -/
theorem regrouped_of_keepsGroups (tree : Reading) (keeps : tree.keepsGroups = true) :
    tree.regrouped = tree := by
  cases tree with
  | binary operator left right =>
      simp only [keepsGroups, Bool.and_eq_true, Bool.not_eq_true'] at keeps
      rcases keeps with ⟨⟨leftKeeps, rightKeeps⟩, apart⟩
      rw [regrouped, left.regrouped_of_keepsGroups leftKeeps,
        right.regrouped_of_keepsGroups rightKeeps, combine]
      split
      · rename_i associates
        apply attach_of_ne
        simpa [associates] using apart
      · rfl
  | _ => rfl

end Reading

/-- The chunks of a tree of binary operators over units are read as the tree with its chains grouped
from the left. If no operator that associates has an operand of its own precedence on its right,
they are read as the tree itself. -/
theorem Expr.parse_lower_eq_normalized {rules : DialectRules} {expr : Expr} {fragment : Fragment}
    (pages : rules.PagesBalanced) (tree : expr.isBinaryTree isUnit = true)
    (lowered : expr.lower rules = .ok fragment) :
    parse fragment.chunks = some (expr.reading rules).normalized ∧
      ((expr.reading rules).keepsGroups = true →
        parse fragment.chunks = some (expr.reading rules)) := by
  have parsed := parse_eq_regrouped tree (pages.readable expr lowered) lowered
  constructor
  · rw [parsed, Reading.regrouped_eq_normalized]
  · intro keeps
    rw [parsed, Reading.regrouped_of_keepsGroups _ keeps]

/-- A number as an operand. -/
def Expr.number (number : Int64) : Expr :=
  .argument ⟨.integer number, .integer⟩

/-- The first row of a query as an operand. -/
def Expr.firstRow : Expr :=
  .subquery { projections := [⟨number 2, none⟩], page := some { limit := some 1 } }

/-- A sum with a difference on its right, which has another one on its right. -/
def Expr.sumOfDifference : Expr :=
  .binary .add (number 1) (.binary .subtract firstRow (.binary .subtract (number 3) (number 4)))

/-- The sum that goes before the differences. -/
def Expr.differenceOfSum : Expr :=
  .binary .subtract (.binary .add (number 1) firstRow) (.binary .subtract (number 3) (number 4))

/-- A sum goes on with a difference on its right, and a difference does not. -/
theorem Expr.parse_lower_sumOfDifference :
    Dialect.sqlite.rules.PagesBalanced ∧
      (∃ fragment, sumOfDifference.lower Dialect.sqlite.rules = .ok fragment ∧
        parse fragment.chunks = some (differenceOfSum.reading Dialect.sqlite.rules)) ∧
      ∃ fragment, differenceOfSum.lower Dialect.sqlite.rules = .ok fragment ∧
        parse fragment.chunks = some (differenceOfSum.reading Dialect.sqlite.rules) := by
  have pages := Dialect.sqlite.pagesBalanced
  refine ⟨pages, ⟨_, rfl, ?_⟩, ⟨_, rfl, ?_⟩⟩
  · have tree : sumOfDifference.isBinaryTree isUnit = true := rfl
    exact (parse_lower_eq_normalized pages tree rfl).1
  · have tree : differenceOfSum.isBinaryTree isUnit = true := rfl
    exact (parse_lower_eq_normalized pages tree rfl).2 rfl

end SqlMapper
