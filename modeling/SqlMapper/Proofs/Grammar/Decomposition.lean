import Mathlib.Data.List.Forall2
import SqlMapper.Proofs.Grammar.Derivation

/-!
# Taking derivations apart

The chunks of a derivation are balanced, and apart from parentheses there are as many of them as its
reading says. So where an operator is known to stand between two operands that are written out, a
derivation splits there too, and a derivation from chunks in parentheses is one from the chunks
inside.
-/

namespace SqlMapper

/-- The chunk is no parenthesis of its own. -/
def Chunk.isVisible : Chunk → Bool
  | .token .openParen | .token .closeParen => false
  | _ => true

@[simp]
theorem BinaryOperator.isVisible_token (operator : BinaryOperator) :
    Chunk.isVisible (.token operator.token) = true := by
  cases operator <;> rfl

@[simp]
theorem UnaryOperator.isVisible_token (operator : UnaryOperator) :
    Chunk.isVisible (.token operator.token) = true := by
  cases operator <;> rfl

mutual

/-- The number of chunks of a reading, apart from parentheses. -/
def Reading.size : Reading → Nat
  | .unit chunks => chunks.countP Chunk.isVisible
  | .binary _ left right => left.size + 1 + right.size
  | .unary _ operand => operand.size + 1
  | .isNull operand negated =>
      operand.size + (Grammar.Link.isNull negated).chunks.countP Chunk.isVisible
  | .inList operand elements negated =>
      operand.size + (Grammar.Link.inList negated).chunks.countP Chunk.isVisible +
        separatedSize elements
  | .between operand low high negated =>
      operand.size + (Grammar.Link.between negated).chunks.countP Chunk.isVisible +
        (low.size + 1 + high.size)
  | .like operand pattern negated =>
      operand.size + (Grammar.Link.like negated).chunks.countP Chunk.isVisible + pattern.size

/-- The number of chunks of readings between commas, apart from parentheses. -/
def Reading.separatedSize : List Reading → Nat
  | [] => 0
  | [element] => element.size
  | element :: rest => element.size + 1 + Reading.separatedSize rest

end

namespace Grammar

variable {level reach : Nat} {tree : Reading} {chunks : List Chunk}

/-- A relation holds along a list of pairs taken apart when it holds of each pair. -/
theorem forall₂_fst_snd {relates : Reading → List Chunk → Prop}
    {pairs : List (Reading × List Chunk)} :
    List.Forall₂ relates (pairs.map Prod.fst) (pairs.map Prod.snd) ↔
      ∀ pair ∈ pairs, relates pair.1 pair.2 := by
  rw [List.forall₂_map_left_iff, List.forall₂_map_right_iff, List.forall₂_same]

/-- A membership is derived when its elements are derived from the spans between its commas. -/
theorem Derives.inList_of_forall₂ {operand : Reading} {negated : Bool}
    {trees : List Reading} {spans : List (List Chunk)} (binds : level ≤ predicateStrength)
    (operandDerives : Derives level predicateStrength operand chunks) (nonempty : trees ≠ [])
    (derive : List.Forall₂ (Derives 0 0) trees spans) :
    Derives level reach (.inList operand trees negated)
      (chunks ++ (Link.inList negated).chunks ++ (separated spans ++ [.token .closeParen])) := by
  have paired : ∃ pairs : List (Reading × List Chunk),
      pairs.map Prod.fst = trees ∧ pairs.map Prod.snd = spans :=
    ⟨trees.zip spans, List.map_fst_zip (Nat.le_of_eq derive.length_eq),
      List.map_snd_zip (Nat.le_of_eq derive.length_eq.symm)⟩
  rcases paired with ⟨pairs, rfl, rfl⟩
  apply Derives.inList binds operandDerives
  · intro none
    rw [none] at nonempty
    exact nonempty rfl
  · exact forall₂_fst_snd.1 derive

theorem countP_separated {trees : List Reading} {spans : List (List Chunk)}
    (counts : List.Forall₂ (fun tree span => span.countP Chunk.isVisible = tree.size)
      trees spans) :
    (separated spans).countP Chunk.isVisible = Reading.separatedSize trees := by
  induction counts with
  | nil => rfl
  | cons first others ih =>
      cases others with
      | nil => exact first
      | cons second more =>
          simp only [separated, Reading.separatedSize, List.countP_append, List.countP_cons]
            at ih ⊢
          rw [first, ih]
          simp [Chunk.isVisible]
          omega

theorem Derives.countP_eq_size (derives : Derives level reach tree chunks) :
    chunks.countP Chunk.isVisible = tree.size := by
  induction derives with
  | unit _ => rfl
  | group _ ih => simpa [Chunk.isVisible] using ih
  | unary _ _ ih => simp [Reading.size, ih]
  | binary _ _ _ _ ihLeft ihRight =>
      simp [Reading.size, Link.chunks, ihLeft, ihRight]
      omega
  | isNull _ _ ih => rw [List.countP_append, ih, Reading.size]
  | inList _ _ _ _ ih ihElements =>
      rw [List.countP_append, List.countP_append, List.countP_append, ih,
        countP_separated (forall₂_fst_snd.2 ihElements), Reading.size]
      rfl
  | between _ _ _ _ _ ih ihLow ihHigh =>
      simp [Reading.size, Chunk.isVisible, List.countP_cons, ih, ihLow, ihHigh]
      omega
  | like _ _ _ _ ih ihPattern =>
      rw [List.countP_append, List.countP_append, ih, ihPattern, Reading.size]

theorem IsUnit.balanced {span : List Chunk} (unit : IsUnit span) : Chunk.Balanced span := by
  cases unit with
  | column table column => exact .singleton rfl rfl
  | argument bound => exact .singleton rfl rfl
  | raw text => exact .singleton rfl rfl
  | call function balanced => exact .enclosed rfl balanced
  | query balanced => exact .enclosed rfl (.cons rfl rfl balanced)
  | existsQuery balanced => exact .cons rfl rfl (.enclosed rfl balanced)

theorem balanced_separated {spans : List (List Chunk)}
    (balanced : ∀ span ∈ spans, Chunk.Balanced span) : Chunk.Balanced (separated spans) := by
  induction spans with
  | nil => exact .nil
  | cons span rest ih =>
      have first := balanced span (by simp)
      have others := ih fun other member => balanced other (by simp [member])
      cases rest with
      | nil => exact first
      | cons second more => exact .append first (.cons rfl rfl others)

theorem balanced_negation (negated : Bool) (token : Token)
    (flat : Chunk.Balanced [.token token]) :
    Chunk.Balanced ((negation negated).chunks ++ [.token token]) := by
  cases negated with
  | true => exact .cons rfl rfl flat
  | false => exact flat

theorem Derives.balanced (derives : Derives level reach tree chunks) : Chunk.Balanced chunks := by
  induction derives with
  | unit unit => exact unit.balanced
  | group _ ih => exact .enclosed rfl ih
  | @unary _ _ operator _ _ _ _ ih => cases operator <;> exact .cons rfl rfl ih
  | @binary _ _ operator _ _ _ _ _ _ _ _ ihLeft ihRight =>
      have sign : Chunk.Balanced [.token operator.token] := by
        cases operator <;> exact .singleton rfl rfl
      exact .append (.append ihLeft sign) ihRight
  | @isNull _ _ _ negated _ _ _ ih =>
      exact .append ih (.cons rfl rfl (balanced_negation negated .null (.singleton rfl rfl)))
  | @inList _ _ _ negated _ elements _ _ _ _ ih ihElements =>
      have listed : Chunk.Balanced (separated (elements.map Prod.snd)) := by
        apply balanced_separated
        intro span member
        rcases List.mem_map.1 member with ⟨element, elementMember, rfl⟩
        exact ihElements element elementMember
      have enclosed : Chunk.Balanced (.token .openParen ::
          separated (elements.map Prod.snd) ++ [.token .closeParen]) := .enclosed rfl listed
      have keyword : Chunk.Balanced ((negation negated).chunks ++ [.token .in]) :=
        balanced_negation negated .in (.singleton rfl rfl)
      simpa [Link.chunks] using Chunk.Balanced.append (.append ih keyword) enclosed
  | @between _ _ _ _ _ negated _ _ _ _ _ _ _ _ ih ihLow ihHigh =>
      have keyword := balanced_negation negated .between (.singleton rfl rfl)
      exact .append (.append ih keyword) (.append ihLow (.cons rfl rfl ihHigh))
  | @like _ _ _ _ negated _ _ _ _ _ _ ih ihPattern =>
      have keyword := balanced_negation negated .like (.singleton rfl rfl)
      exact .append (.append ih keyword) ihPattern

theorem Derives.ne_nil (derives : Derives level reach tree chunks) : chunks ≠ [] := by
  cases derives with
  | unit unit => cases unit <;> simp
  | group inner => simp
  | unary under operand => simp
  | binary | isNull | inList | between | like => simp [Link.chunks]

/-- Two splits at a chunk that is no parenthesis are the same if as many such chunks stand before
it. -/
theorem eq_of_append_cons {first second rest others : List Chunk} {sign other : Chunk}
    (signVisible : sign.isVisible = true) (otherVisible : other.isVisible = true)
    (count : first.countP Chunk.isVisible = second.countP Chunk.isVisible)
    (same : first ++ sign :: rest = second ++ other :: others) :
    first = second ∧ rest = others := by
  induction first generalizing second with
  | nil =>
      cases second with
      | nil => exact ⟨rfl, (List.cons.inj same).2⟩
      | cons chunk more =>
          have head : sign = chunk := (List.cons.inj same).1
          rw [List.countP_cons, ← head, signVisible] at count
          simp at count
  | cons chunk more ih =>
      cases second with
      | nil =>
          have head : chunk = other := (List.cons.inj same).1
          rw [List.countP_cons, head, otherVisible] at count
          simp at count
      | cons head tail =>
          rcases List.cons.inj same with ⟨rfl, sameTail⟩
          rw [List.countP_cons, List.countP_cons, Nat.add_right_cancel_iff] at count
          rcases ih count sameTail with ⟨rfl, rfl⟩
          exact ⟨rfl, rfl⟩

/-- A link starts with a chunk that is no parenthesis. -/
theorem Link.exists_chunks_eq (link : Link) :
    ∃ sign more, link.chunks = sign :: more ∧ sign.isVisible = true := by
  cases link with
  | binary operator => exact ⟨_, _, rfl, operator.isVisible_token⟩
  | isNull negated => exact ⟨_, _, rfl, rfl⟩
  | inList negated => cases negated <;> exact ⟨_, _, rfl, rfl⟩
  | between negated => cases negated <;> exact ⟨_, _, rfl, rfl⟩
  | like negated => cases negated <;> exact ⟨_, _, rfl, rfl⟩

/-- Two splits at a link are the same if as many chunks that are no parentheses stand before it. -/
theorem eq_of_append_link {first second rest others : List Chunk} (link : Link)
    (count : first.countP Chunk.isVisible = second.countP Chunk.isVisible)
    (same : first ++ link.chunks ++ rest = second ++ link.chunks ++ others) :
    first = second ∧ rest = others := by
  rcases link.exists_chunks_eq with ⟨sign, more, written, visible⟩
  rw [written] at same
  simp only [List.append_assoc, List.cons_append] at same
  rcases eq_of_append_cons visible visible count same with ⟨rfl, tails⟩
  exact ⟨rfl, List.append_cancel_left tails⟩

/-- Spans between commas are told apart by the number of their chunks that are no parentheses. -/
theorem eq_of_separated {spans others : List (List Chunk)}
    (counts : List.Forall₂ (fun first second =>
      first.countP Chunk.isVisible = second.countP Chunk.isVisible) spans others)
    (same : separated spans = separated others) : spans = others := by
  induction counts with
  | nil => rfl
  | cons count more ih =>
      cases more with
      | nil => exact congrArg (fun span => [span]) same
      | cons second rest =>
          rcases eq_of_append_cons rfl rfl count same with ⟨rfl, tails⟩
          rw [ih tails]

/-- Chunks in parentheses do not split at a link outside of them. -/
theorem append_link_ne_enclosed {first body : List Chunk} (firstBalanced : Chunk.Balanced first)
    (nonempty : first ≠ []) (balanced : Chunk.Balanced body) (link : Link) (rest : List Chunk) :
    first ++ link.chunks ++ rest ≠ .token .openParen :: body ++ [.token .closeParen] := by
  intro same
  rcases link.exists_chunks_eq with ⟨sign, more, written, _⟩
  rw [written, List.append_assoc, List.cons_append] at same
  exact Chunk.not_balanced_of_enclosed_append nonempty balanced same firstBalanced

theorem Derives.append_link_ne {body : List Chunk} (derives : Derives level reach tree chunks)
    (balanced : Chunk.Balanced body) (link : Link) (rest : List Chunk) :
    chunks ++ link.chunks ++ rest ≠ .token .openParen :: body ++ [.token .closeParen] :=
  append_link_ne_enclosed derives.balanced derives.ne_nil balanced link rest

/-- Whatever is no unit, when it is derived from balanced chunks in parentheses, is derived from
these chunks. -/
theorem Derives.of_enclosed {body : List Chunk} (balanced : Chunk.Balanced body)
    (notUnit : ∀ span, tree ≠ .unit span)
    (derives : Derives level reach tree (.token .openParen :: body ++ [.token .closeParen])) :
    Derives 0 0 tree body := by
  generalize whole : Chunk.token Token.openParen :: body ++ [.token .closeParen] = chunks at derives
  cases derives with
  | unit unit => exact absurd rfl (notUnit _)
  | group inner =>
      rw [List.cons_append, List.cons_append, List.cons.injEq] at whole
      have same := List.append_cancel_right whole.2
      rwa [same]
  | @unary _ _ operator _ _ _ _ =>
      cases operator <;> cases whole
  | binary _ _ left _ => exact absurd whole.symm (left.append_link_ne balanced _ _)
  | @isNull _ _ _ negated _ _ operand =>
      have apart := operand.append_link_ne balanced (.isNull negated) []
      rw [List.append_nil] at apart
      exact absurd whole.symm apart
  | inList _ operand _ _ => exact absurd whole.symm (operand.append_link_ne balanced _ _)
  | between _ _ operand _ _ => exact absurd whole.symm (operand.append_link_ne balanced _ _)
  | like _ _ operand _ => exact absurd whole.symm (operand.append_link_ne balanced _ _)

section Splits

variable {operand : Reading} {operandChunks : List Chunk} (balanced : Chunk.Balanced operandChunks)
  (nonempty : operandChunks ≠ []) (count : operandChunks.countP Chunk.isVisible = operand.size)

include balanced nonempty

/-- A derivation of a test for NULL splits before its keywords. -/
theorem Derives.isNull_split {negated : Bool}
    (derives : Derives level reach (.isNull operand negated)
      (operandChunks ++ (Link.isNull negated).chunks)) :
    level ≤ predicateStrength ∧ Derives level predicateStrength operand operandChunks := by
  generalize whole : operandChunks ++ (Link.isNull negated).chunks = chunks at derives
  cases derives with
  | group inner =>
      have apart := append_link_ne_enclosed balanced nonempty inner.balanced (.isNull negated) []
      rw [List.append_nil] at apart
      exact absurd whole apart
  | isNull binds operandDerives =>
      rw [List.append_cancel_right whole]
      exact ⟨binds, operandDerives⟩

include count

/-- A derivation splits at the operator of its reading. -/
theorem Derives.binary_split {operator : BinaryOperator} {right : Reading}
    {rightChunks : List Chunk}
    (derives : Derives level reach (.binary operator operand right)
      (operandChunks ++ (Link.binary operator).chunks ++ rightChunks)) :
    level ≤ operator.strength ∧ reach ≤ operator.strength ∧
      Derives level operator.strength operand operandChunks ∧
      Derives (operator.strength + 1) reach right rightChunks := by
  generalize whole : operandChunks ++ (Link.binary operator).chunks ++ rightChunks = chunks
    at derives
  cases derives with
  | group inner => exact absurd whole (append_link_ne_enclosed balanced nonempty inner.balanced _ _)
  | binary binds below operandDerives rightDerives =>
      have sameCount := count.trans operandDerives.countP_eq_size.symm
      rcases eq_of_append_link _ sameCount whole with ⟨rfl, rfl⟩
      exact ⟨binds, below, operandDerives, rightDerives⟩

/-- A derivation of a membership splits before its keywords and at its commas. -/
theorem Derives.inList_split {elements : List Reading} {spans : List (List Chunk)}
    {negated : Bool}
    (counts : List.Forall₂ (fun tree span => span.countP Chunk.isVisible = tree.size)
      elements spans)
    (derives : Derives level reach (.inList operand elements negated)
      (operandChunks ++ (Link.inList negated).chunks ++
        (separated spans ++ [.token .closeParen]))) :
    level ≤ predicateStrength ∧ Derives level predicateStrength operand operandChunks ∧
      List.Forall₂ (Derives 0 0) elements spans := by
  generalize whole : operandChunks ++ (Link.inList negated).chunks ++
    (separated spans ++ [.token .closeParen]) = chunks at derives
  cases derives with
  | group inner => exact absurd whole (append_link_ne_enclosed balanced nonempty inner.balanced _ _)
  | @inList _ _ _ _ _ pairs binds operandDerives _ elementsDerive =>
      have sameCount := count.trans operandDerives.countP_eq_size.symm
      rcases eq_of_append_link _ sameCount whole with ⟨rfl, listed⟩
      rw [List.forall₂_map_left_iff] at counts
      have sameCounts : List.Forall₂ (fun first second =>
          first.countP Chunk.isVisible = second.countP Chunk.isVisible)
          (pairs.map Prod.snd) spans := by
        rw [List.forall₂_map_left_iff]
        refine ((List.forall₂_and_left _ _).2 ⟨elementsDerive, counts⟩).imp ?_
        rintro ⟨tree, written⟩ span ⟨derives, spanCount⟩
        exact derives.countP_eq_size.trans spanCount.symm
      have same : pairs.map Prod.snd = spans :=
        eq_of_separated sameCounts (List.append_cancel_right listed).symm
      refine ⟨binds, operandDerives, ?_⟩
      rw [← same]
      exact forall₂_fst_snd.2 elementsDerive

/-- A derivation of a range splits before its keywords and at the `AND` between its bounds. -/
theorem Derives.between_split {low high : Reading} {lowChunks highChunks : List Chunk}
    {negated : Bool} (lowCount : lowChunks.countP Chunk.isVisible = low.size)
    (derives : Derives level reach (.between operand low high negated)
      (operandChunks ++ (Link.between negated).chunks ++
        (lowChunks ++ .token .and :: highChunks))) :
    level ≤ predicateStrength ∧ Derives level predicateStrength operand operandChunks ∧
      Derives (predicateStrength + 1) BinaryOperator.and.strength low lowChunks ∧
      Derives (predicateStrength + 1) reach high highChunks := by
  generalize whole : operandChunks ++ (Link.between negated).chunks ++
    (lowChunks ++ .token .and :: highChunks) = chunks at derives
  cases derives with
  | group inner => exact absurd whole (append_link_ne_enclosed balanced nonempty inner.balanced _ _)
  | between binds _ operandDerives lowDerives highDerives =>
      have sameCount := count.trans operandDerives.countP_eq_size.symm
      rcases eq_of_append_link _ sameCount whole with ⟨rfl, bounds⟩
      have sameLow := lowCount.trans lowDerives.countP_eq_size.symm
      rcases eq_of_append_cons rfl rfl sameLow bounds with ⟨rfl, rfl⟩
      exact ⟨binds, operandDerives, lowDerives, highDerives⟩

/-- A derivation of a pattern match splits before its keywords. -/
theorem Derives.like_split {pattern : Reading} {patternChunks : List Chunk} {negated : Bool}
    (derives : Derives level reach (.like operand pattern negated)
      (operandChunks ++ (Link.like negated).chunks ++ patternChunks)) :
    level ≤ predicateStrength ∧ Derives level predicateStrength operand operandChunks ∧
      Derives (predicateStrength + 1) reach pattern patternChunks := by
  generalize whole : operandChunks ++ (Link.like negated).chunks ++ patternChunks = chunks
    at derives
  cases derives with
  | group inner => exact absurd whole (append_link_ne_enclosed balanced nonempty inner.balanced _ _)
  | like binds _ operandDerives patternDerives =>
      have sameCount := count.trans operandDerives.countP_eq_size.symm
      rcases eq_of_append_link _ sameCount whole with ⟨rfl, rfl⟩
      exact ⟨binds, operandDerives, patternDerives⟩

end Splits

/-- A derivation of an operator before its operand starts with the operator. -/
theorem Derives.unary_split {operator : UnaryOperator} {operand : Reading}
    (derives : Derives level reach (.unary operator operand) (.token operator.token :: chunks)) :
    reach < operator.strength ∧ Derives operator.strength reach operand chunks := by
  generalize whole : Chunk.token operator.token :: chunks = written at derives
  cases derives with
  | group inner => cases operator <;> cases whole
  | unary below operandDerives =>
      rw [(List.cons.inj whole).2]
      exact ⟨below, operandDerives⟩

end Grammar

end SqlMapper
