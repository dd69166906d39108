import SqlMapper.Proofs.Grammar.Parser

/-!
# The grammar of expressions

A derivation says what the parser looks for: a reading is derived from chunks at a level, which its
operators outside of parentheses do not fall below, and with a reach, the greatest strength of an
operator that may follow without being drawn into it. An operator before its operand lowers the
reach and not the level.

The parser finds exactly the readings that are derived at level and reach zero.
-/

namespace SqlMapper

namespace Grammar

/-- The chunks that make up a unit. -/
inductive IsUnit : List Chunk → Prop where
  | column (table column : String) : IsUnit [.qualified table column]
  | argument (bound : Argument) : IsUnit [.argument bound]
  | raw (text : String) : IsUnit [.raw text]
  | call (function : String) {body : List Chunk} : Chunk.Balanced body →
      IsUnit (.call function :: body ++ [.token .closeParen])
  | query {body : List Chunk} : Chunk.Balanced body →
      IsUnit (.token .openParen :: .token .select :: body ++ [.token .closeParen])
  | existsQuery {body : List Chunk} : Chunk.Balanced body →
      IsUnit (.token .exists :: .token .openParen :: body ++ [.token .closeParen])

/-- The chunks that the start of an operand is made of. -/
def Start.chunks : Start → List Chunk
  | .unit span => span
  | .group => [.token .openParen]
  | .unary operator => [.token operator.token]

/-- The chunks that a link is made of. -/
def Link.chunks : Link → List Chunk
  | .binary operator => [.token operator.token]
  | .isNull negated => .token .is :: (negation negated).chunks ++ [.token .null]
  | .inList negated => (negation negated).chunks ++ [.token .in, .token .openParen]
  | .between negated => (negation negated).chunks ++ [.token .between]
  | .like negated => (negation negated).chunks ++ [.token .like]

/-- Spans of chunks between commas. -/
def separated : List (List Chunk) → List Chunk
  | [] => []
  | [span] => span
  | span :: rest => span ++ .token .comma :: separated rest

theorem chunks_commaSeparated (fragments : List Fragment) :
    (commaSeparated fragments).chunks = separated (fragments.map Fragment.chunks) := by
  rw [commaSeparated]
  induction fragments with
  | nil => rfl
  | cons first rest ih =>
      cases rest with
      | nil => rfl
      | cons second others => simpa [Fragment.join, separated] using ih

theorem chunks_isNull (operand : Fragment) (negated : Bool) :
    (operand ++ .ofToken .is ++ negation negated ++ .ofToken .null).chunks =
      operand.chunks ++ (Link.isNull negated).chunks := by
  simp [Link.chunks]

theorem chunks_inList (operand : Fragment) (fragments : List Fragment) (negated : Bool) :
    (operand ++ negation negated ++ .ofToken .in ++
        (commaSeparated fragments).parenthesized).chunks =
      operand.chunks ++ (Link.inList negated).chunks ++
        (separated (fragments.map Fragment.chunks) ++ [.token .closeParen]) := by
  simp [Link.chunks, chunks_commaSeparated]

theorem chunks_between (operand low high : Fragment) (negated : Bool) :
    (operand ++ negation negated ++ .ofToken .between ++ low ++ .ofToken .and ++ high).chunks =
      operand.chunks ++ (Link.between negated).chunks ++
        (low.chunks ++ .token .and :: high.chunks) := by
  simp [Link.chunks]

theorem chunks_like (operand pattern : Fragment) (negated : Bool) :
    (operand ++ negation negated ++ .ofToken .like ++ pattern).chunks =
      operand.chunks ++ (Link.like negated).chunks ++ pattern.chunks := by
  simp [Link.chunks]

/-- The reading is derived from the chunks at the level and with the reach. -/
inductive Derives : (level reach : Nat) → Reading → List Chunk → Prop where
  | unit {level reach : Nat} {span : List Chunk} : IsUnit span →
      Derives level reach (.unit span) span
  | group {level reach : Nat} {tree : Reading} {chunks : List Chunk} : Derives 0 0 tree chunks →
      Derives level reach tree (.token .openParen :: chunks ++ [.token .closeParen])
  | unary {level reach : Nat} {operator : UnaryOperator} {operand : Reading} {chunks : List Chunk} :
      reach < operator.strength → Derives operator.strength reach operand chunks →
      Derives level reach (.unary operator operand) (.token operator.token :: chunks)
  | binary {level reach : Nat} {operator : BinaryOperator} {left right : Reading}
      {leftChunks rightChunks : List Chunk} :
      level ≤ operator.strength → reach ≤ operator.strength →
      Derives level operator.strength left leftChunks →
      Derives (operator.strength + 1) reach right rightChunks →
      Derives level reach (.binary operator left right)
        (leftChunks ++ (Link.binary operator).chunks ++ rightChunks)
  | isNull {level reach : Nat} {operand : Reading} {negated : Bool} {chunks : List Chunk} :
      level ≤ predicateStrength → Derives level predicateStrength operand chunks →
      Derives level reach (.isNull operand negated) (chunks ++ (Link.isNull negated).chunks)
  | inList {level reach : Nat} {operand : Reading} {negated : Bool} {chunks : List Chunk}
      {elements : List (Reading × List Chunk)} :
      level ≤ predicateStrength → Derives level predicateStrength operand chunks →
      elements ≠ [] → (∀ element ∈ elements, Derives 0 0 element.1 element.2) →
      Derives level reach (.inList operand (elements.map Prod.fst) negated)
        (chunks ++ (Link.inList negated).chunks ++
          (separated (elements.map Prod.snd) ++ [.token .closeParen]))
  | between {level reach : Nat} {operand low high : Reading} {negated : Bool}
      {chunks lowChunks highChunks : List Chunk} :
      level ≤ predicateStrength → reach ≤ predicateStrength →
      Derives level predicateStrength operand chunks →
      Derives (predicateStrength + 1) BinaryOperator.and.strength low lowChunks →
      Derives (predicateStrength + 1) reach high highChunks →
      Derives level reach (.between operand low high negated)
        (chunks ++ (Link.between negated).chunks ++ (lowChunks ++ .token .and :: highChunks))
  | like {level reach : Nat} {operand pattern : Reading} {negated : Bool}
      {chunks patternChunks : List Chunk} :
      level ≤ predicateStrength → reach ≤ predicateStrength →
      Derives level predicateStrength operand chunks →
      Derives (predicateStrength + 1) reach pattern patternChunks →
      Derives level reach (.like operand pattern negated)
        (chunks ++ (Link.like negated).chunks ++ patternChunks)

section Heads

theorem start?_of_isUnit {span rest : List Chunk} (unit : IsUnit span) :
    start? (span ++ rest) = some (.unit span, rest) := by
  cases unit with
  | column table column => rfl
  | argument bound => rfl
  | raw text => rfl
  | call function balanced => simp [start?, Chunk.splitClosing_append balanced]
  | query balanced => simp [start?, Chunk.splitClosing_append balanced]
  | existsQuery balanced => simp [start?, Chunk.splitClosing_append balanced]

theorem start?_unary {operator : UnaryOperator} {rest : List Chunk} :
    start? (.token operator.token :: rest) = some (.unary operator, rest) := by
  cases operator <;> rfl

theorem start?_group {rest : List Chunk} (other : rest.head? ≠ some (.token .select)) :
    start? (.token .openParen :: rest) = some (.group, rest) := by
  cases rest with
  | nil => rfl
  | cons chunk others =>
      cases chunk with
      | token fixed => cases fixed <;> first | rfl | exact absurd rfl other
      | _ => rfl

theorem eq_append_of_start? {chunks rest : List Chunk} {start : Start}
    (found : start? chunks = some (start, rest)) :
    chunks = start.chunks ++ rest ∧ ∀ span, start = .unit span → IsUnit span := by
  unfold start? at found
  split at found
  all_goals
    simp only [Option.map_eq_some_iff, Option.some.injEq, Prod.mk.injEq, Prod.exists,
      reduceCtorEq] at found
  · rcases found with ⟨rfl, rfl⟩
    exact ⟨rfl, fun span same => Start.unit.inj same ▸ .column _ _⟩
  · rcases found with ⟨rfl, rfl⟩
    exact ⟨rfl, fun span same => Start.unit.inj same ▸ .argument _⟩
  · rcases found with ⟨rfl, rfl⟩
    exact ⟨rfl, fun span same => Start.unit.inj same ▸ .raw _⟩
  · rcases found with ⟨body, behind, split, rfl, rfl⟩
    rcases Chunk.eq_append_of_splitClosing split with ⟨rfl, balanced⟩
    exact ⟨by simp [Start.chunks], fun span same => Start.unit.inj same ▸ .call _ balanced⟩
  · rcases found with ⟨body, behind, split, rfl, rfl⟩
    rcases Chunk.eq_append_of_splitClosing split with ⟨rfl, balanced⟩
    exact ⟨by simp [Start.chunks], fun span same => Start.unit.inj same ▸ .existsQuery balanced⟩
  · rcases found with ⟨body, behind, split, rfl, rfl⟩
    rcases Chunk.eq_append_of_splitClosing split with ⟨rfl, balanced⟩
    exact ⟨by simp [Start.chunks], fun span same => Start.unit.inj same ▸ .query balanced⟩
  all_goals
    rcases found with ⟨rfl, rfl⟩
    exact ⟨rfl, fun span same => by cases same⟩

theorem link?_chunks {link : Link} {rest : List Chunk} :
    link? (link.chunks ++ rest) = some (link, rest) := by
  cases link with
  | binary operator => cases operator <;> rfl
  | isNull negated => cases negated <;> rfl
  | inList negated => cases negated <;> rfl
  | between negated => cases negated <;> rfl
  | like negated => cases negated <;> rfl

theorem eq_append_of_link? {chunks rest : List Chunk} {link : Link}
    (found : link? chunks = some (link, rest)) : chunks = link.chunks ++ rest := by
  unfold link? at found
  split at found
  all_goals
    simp only [Option.map_eq_some_iff, Option.some.injEq, Prod.mk.injEq, reduceCtorEq] at found
  case h_9 chunk others _ _ _ _ _ _ _ _ =>
    rcases found with ⟨operator, written, rfl, rfl⟩
    rw [Chunk.eq_token_of_operator? written]
    rfl
  all_goals
    rcases found with ⟨rfl, rfl⟩
    rfl

theorem pull_chunks {link : Link} {rest : List Chunk} :
    pull (link.chunks ++ rest) = link.strength := by
  rw [pull, link?_chunks]

end Heads

end Grammar

end SqlMapper
