import SqlMapper.Proofs.Grammar.Decomposition
import SqlMapper.Proofs.Grammar.Units

/-!
# How readings are written

A lowered expression has chunks, and apart from parentheses it has as many of them as its reading
says. This is what taking a derivation apart needs to know of the operands that are written out. An
operand that is derived as it is written, in parentheses or without, is derived from its own chunks.
-/

namespace SqlMapper

open Grammar

variable {rules : DialectRules} {fragment : Fragment}

theorem countP_parenthesizedIf (needed : Bool) :
    (parenthesizedIf needed fragment).chunks.countP Chunk.isVisible =
      fragment.chunks.countP Chunk.isVisible := by
  cases needed with
  | true => simp [parenthesizedIf, Chunk.isVisible]
  | false => rfl

theorem parenthesizedIf_ne_nil (needed : Bool) (nonempty : fragment.chunks ≠ []) :
    (parenthesizedIf needed fragment).chunks ≠ [] := by
  cases needed with
  | true => simp [parenthesizedIf]
  | false => exact nonempty

namespace Expr

mutual

/-- Apart from parentheses, an expression is written with as many chunks as its reading says. -/
theorem countP_lower (expr : Expr) {fragment : Fragment}
    (lowered : expr.lower rules = .ok fragment) :
    fragment.chunks.countP Chunk.isVisible = (expr.reading rules).size := by
  cases expr with
  | binary operator left right =>
      rw [lower_binary_eq_ok] at lowered
      rcases lowered with ⟨leftFragment, leftLowered, rightFragment, rightLowered, rfl⟩
      have leftCount := countP_lower left leftLowered
      have rightCount := countP_lower right rightLowered
      simp [reading, Reading.size, countP_parenthesizedIf, leftCount, rightCount]
      omega
  | unary operator operand =>
      rw [lower_unary_eq_ok] at lowered
      rcases lowered with ⟨operandFragment, operandLowered, rfl⟩
      have operandCount := countP_lower operand operandLowered
      simp [reading, Reading.size, countP_parenthesizedIf, operandCount]
  | isNull operand negated =>
      rw [lower_isNull_eq_ok] at lowered
      rcases lowered with ⟨operandFragment, operandLowered, rfl⟩
      have operandCount := countP_lower operand operandLowered
      rw [chunks_isNull, List.countP_append, countP_parenthesizedIf, operandCount]
      rfl
  | inList operand elements negated =>
      rw [lower_inList_eq_ok] at lowered
      rcases lowered with ⟨_, operandFragment, operandLowered, fragments, elementsLowered, rfl⟩
      have operandCount := countP_lower operand operandLowered
      have elementsCount := countP_separated (forall₂_countP_lower elements elementsLowered)
      rw [chunks_inList, List.countP_append, List.countP_append, List.countP_append,
        countP_parenthesizedIf, operandCount, elementsCount]
      rfl
  | between operand low high negated =>
      rw [lower_between_eq_ok] at lowered
      rcases lowered with
        ⟨operandFragment, operandLowered, lowFragment, lowLowered, highFragment, highLowered, rfl⟩
      have operandCount := countP_lower operand operandLowered
      have lowCount := countP_lower low lowLowered
      have highCount := countP_lower high highLowered
      rw [chunks_between, List.countP_append, List.countP_append, List.countP_append,
        List.countP_cons, countP_parenthesizedIf, countP_parenthesizedIf, countP_parenthesizedIf,
        operandCount, lowCount, highCount]
      simp [reading, Reading.size, Chunk.isVisible]
      omega
  | like operand pattern negated =>
      rw [lower_like_eq_ok] at lowered
      rcases lowered with ⟨operandFragment, operandLowered, patternFragment, patternLowered, rfl⟩
      have operandCount := countP_lower operand operandLowered
      have patternCount := countP_lower pattern patternLowered
      rw [chunks_like, List.countP_append, List.countP_append, countP_parenthesizedIf,
        countP_parenthesizedIf, operandCount, patternCount]
      rfl
  | existsQuery query negated =>
      cases negated with
      | true =>
          rcases lower_negated_exists lowered with ⟨plain, _, written, kept⟩
          rw [written, kept, List.countP_cons]
          rfl
      | false =>
          rw [reading_of_isUnit rfl, chunks_eq lowered]
          rfl
  | _ =>
      rw [reading_of_isUnit rfl, chunks_eq lowered]
      rfl

theorem forall₂_countP_lower (exprs : List Expr) {fragments : List Fragment}
    (lowered : lowerExprs rules exprs = .ok fragments) :
    List.Forall₂ (fun tree span => span.countP Chunk.isVisible = tree.size)
      (readings rules exprs) (fragments.map Fragment.chunks) := by
  cases exprs with
  | nil =>
      rw [lowerExprs_nil_eq_ok] at lowered
      rw [← lowered]
      exact List.Forall₂.nil
  | cons expr rest =>
      rw [lowerExprs_cons_eq_ok] at lowered
      rcases lowered with ⟨first, firstLowered, others, othersLowered, rfl⟩
      have firstCount := countP_lower expr firstLowered
      exact List.Forall₂.cons firstCount (forall₂_countP_lower rest othersLowered)

end

theorem lower_ne_nil {expr : Expr} (lowered : expr.lower rules = .ok fragment) :
    fragment.chunks ≠ [] := by
  cases expr with
  | column column =>
      rw [← lower_column_eq_ok.1 lowered]
      simp
  | argument bound =>
      rw [← lower_argument_eq_ok.1 lowered]
      simp
  | raw text =>
      rw [← lower_raw_eq_ok.1 lowered]
      simp
  | binary operator left right =>
      rcases lower_binary_eq_ok.1 lowered with ⟨_, _, _, _, rfl⟩
      simp
  | unary operator operand =>
      rcases lower_unary_eq_ok.1 lowered with ⟨_, _, rfl⟩
      simp
  | call function arguments =>
      rcases lower_call_eq_ok.1 lowered with ⟨_, _, rfl⟩
      simp
  | isNull operand negated =>
      rcases lower_isNull_eq_ok.1 lowered with ⟨_, _, rfl⟩
      simp
  | inList operand elements negated =>
      rcases lower_inList_eq_ok.1 lowered with ⟨_, _, _, _, _, rfl⟩
      simp
  | between operand low high negated =>
      rcases lower_between_eq_ok.1 lowered with ⟨_, _, _, _, _, _, rfl⟩
      simp
  | like operand pattern negated =>
      rcases lower_like_eq_ok.1 lowered with ⟨_, _, _, _, rfl⟩
      simp
  | subquery query =>
      rcases lower_subquery_eq_ok.1 lowered with ⟨_, _, rfl⟩
      simp
  | existsQuery query negated =>
      rcases lower_existsQuery_eq_ok.1 lowered with ⟨_, _, rfl⟩
      simp

theorem reading_ne_unit {expr : Expr} (compound : expr.isUnit = false) (span : List Chunk) :
    expr.reading rules ≠ .unit span := by
  cases expr with
  | existsQuery query negated =>
      cases negated with
      | true => simp [reading]
      | false => cases compound
  | column _ => cases compound
  | argument _ => cases compound
  | raw _ => cases compound
  | call _ _ => cases compound
  | subquery _ => cases compound
  | _ => simp [reading]

theorem isUnit_eq_false_of_isBinary {expr : Expr} (binary : expr.isBinary = true) :
    expr.isUnit = false := by
  cases expr <;> first | rfl | cases binary

theorem isUnit_eq_false_of_needsParens {expr : Expr} {operator : BinaryOperator} {side : Side}
    (needed : expr.needsParens operator side = true) : expr.isUnit = false := by
  cases expr <;> first | rfl | cases needed

/-- An operand that is written out, in parentheses or without: its chunks are balanced, there are
some, and apart from parentheses there are as many as its reading says. -/
structure WrittenOut (rules : DialectRules) (operand : Expr) (chunks : List Chunk) : Prop where
  balanced : Chunk.Balanced chunks
  nonempty : chunks ≠ []
  count : chunks.countP Chunk.isVisible = (operand.reading rules).size

variable {dialect : Dialect} {operand : Expr} {needed : Bool}

theorem writtenOut_parenthesizedIf (needed : Bool)
    (lowered : operand.lower dialect.rules = .ok fragment) :
    WrittenOut dialect.rules operand (parenthesizedIf needed fragment).chunks where
  balanced :=
    Fragment.hereditary_balanced.parenthesizedIf needed
      (balanced_lower dialect.pagesBalanced lowered)
  nonempty := parenthesizedIf_ne_nil needed (lower_ne_nil lowered)
  count := (countP_parenthesizedIf needed).trans (countP_lower operand lowered)

/-- What is derived from an operand as it is written is derived from the operand's own chunks:
inside of parentheses at level and reach zero, without them where it stands. -/
theorem derives_of_parenthesizedIf {level reach : Nat}
    (lowered : operand.lower dialect.rules = .ok fragment)
    (compound : needed = true → operand.isUnit = false)
    (derives : Derives level reach (operand.reading dialect.rules)
      (parenthesizedIf needed fragment).chunks) :
    (needed = true → Derives 0 0 (operand.reading dialect.rules) fragment.chunks) ∧
      (needed = false → Derives level reach (operand.reading dialect.rules) fragment.chunks) := by
  constructor
  · rintro rfl
    have balanced := balanced_lower dialect.pagesBalanced lowered
    exact derives.of_enclosed balanced (reading_ne_unit (compound rfl))
  · rintro rfl
    exact derives

end Expr

end SqlMapper
