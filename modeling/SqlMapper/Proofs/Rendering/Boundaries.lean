import SqlMapper.Proofs.Lowering.Heredity
import SqlMapper.Proofs.Rendering.Layouts

/-!
# Clause boundaries and their depths

A clause boundary is known by the nesting depth at its place and by the chunk behind it. This file
lists the boundaries of chunks and shows that a text writes the separator of its depth for each of
them. It then says how the boundaries of a fragment come from those of its parts, wherever the
fragment stands: parts in a row keep their depths, and parentheses and calls put what they enclose
one level deeper.
-/

namespace SqlMapper

/-- A clause boundary at its place. -/
structure Boundary where
  /-- The nesting depth at the boundary. -/
  depth : Nat
  /-- The chunk behind the boundary. -/
  behind : Option Chunk
  deriving DecidableEq

namespace Rendering

/-- The clause boundaries of chunks that start at a depth, from left to right. -/
def boundaries (depth : Nat) : List Chunk → List Boundary
  | [] => []
  | chunk :: rest =>
      if chunk = .clauseBreak then ⟨depth, rest.head?⟩ :: boundaries depth rest
      else boundaries (depthBehind depth chunk) rest

theorem boundaries_cons {depth : Nat} {chunk : Chunk} {rest : List Chunk}
    (inner : chunk ≠ .clauseBreak) :
    boundaries depth (chunk :: rest) = boundaries (depthBehind depth chunk) rest := by
  rw [boundaries, if_neg inner]

section Written

variable (signs : Signs) (layout : Layout)

/-- Once something is written, a boundary with a chunk behind it writes the separator of its
depth. -/
theorem written_boundaries {state : State} (started : state.started = true)
    (chunks : List Chunk) :
    ((pieces signs layout state chunks).filter (·.chunk = .clauseBreak)).map Piece.written =
      (boundaries state.depth chunks).map fun boundary =>
        if boundary.behind.isSome then separator layout boundary.depth else [] := by
  induction chunks generalizing state with
  | nil => rfl
  | cons chunk rest ih =>
      by_cases boundary : chunk = .clauseBreak
      · subst boundary
        rw [pieces, boundaries, if_pos rfl, List.filter_cons_of_pos (by simp), List.map_cons,
          List.map_cons, advance_clauseBreak started, ih started]
        cases rest <;> simp [Piece.written, chunkText, started, spaceBehind_clauseBreak]
      · have stillStarted (written : List Char) : (state.advance chunk written).started = true := by
          simp [State.advance, started]
        rw [pieces, boundaries_cons boundary, List.filter_cons_of_neg (by simpa using boundary)]
        exact ih (stillStarted _)

theorem text_ne_nil (token : Token) : token.text.toList ≠ [] := by
  cases token <;> decide

/-- What a text that starts with a word writes at its boundaries. -/
theorem written_boundaries_of_token (token : Token) (rest : List Chunk) :
    ((pieces signs layout {} (.token token :: rest)).filter (·.chunk = .clauseBreak)).map
        Piece.written =
      (boundaries 0 (.token token :: rest)).map fun boundary =>
        if boundary.behind.isSome then separator layout boundary.depth else [] := by
  have started (space : List Char) :
      (State.advance {} (.token token) (token.text.toList ++ space)).started = true := by
    simp [State.advance, text_ne_nil token]
  rw [pieces, boundaries_cons (by simp), List.filter_cons_of_neg (by simp)]
  exact written_boundaries signs layout (started _) rest

end Written

end Rendering

open Rendering

/-- A clause of a part of a statement. -/
structure Clause where
  /-- The number of nesting levels of the part around the clause. -/
  levels : Nat
  /-- The first keyword. -/
  keyword : Token
  deriving DecidableEq

namespace Clause

/-- The clause of a part itself, if it is there. -/
def own (present : Bool) (keyword : Token) : List Clause :=
  if present then [⟨0, keyword⟩] else []

/-- The clauses of a part that is enclosed in a nesting level. -/
def enclosed (clauses : List Clause) : List Clause :=
  clauses.map fun clause => { clause with levels := clause.levels + 1 }

/-- The clauses of a part that may be enclosed in parentheses. -/
def enclosedIf (needed : Bool) (clauses : List Clause) : List Clause :=
  if needed then enclosed clauses else clauses

/-- The clause's boundary when its part starts at a depth. -/
def boundary (depth : Nat) (clause : Clause) : Boundary :=
  ⟨depth + clause.levels, some (.token clause.keyword)⟩

theorem map_boundary_enclosed (depth : Nat) (clauses : List Clause) :
    (enclosed clauses).map (boundary depth) = clauses.map (boundary (depth + 1)) := by
  simp [enclosed, boundary, Nat.add_assoc, Nat.add_comm 1]

/-- The clauses around which there is no level. -/
def outermost (clauses : List Clause) : List Clause :=
  clauses.filter (·.levels = 0)

@[simp]
theorem outermost_append (first second : List Clause) :
    outermost (first ++ second) = outermost first ++ outermost second :=
  List.filter_append ..

@[simp]
theorem outermost_own (present : Bool) (keyword : Token) :
    outermost (own present keyword) = own present keyword := by
  cases present <;> rfl

@[simp]
theorem outermost_enclosed (clauses : List Clause) : outermost (enclosed clauses) = [] := by
  simp [outermost, enclosed]

@[simp]
theorem outermost_enclosedIf {needed : Bool} {clauses : List Clause}
    (inner : outermost clauses = []) : outermost (enclosedIf needed clauses) = [] := by
  cases needed with
  | true => exact outermost_enclosed clauses
  | false => exact inner

theorem filter_map_boundary (depth : Nat) (clauses : List Clause) :
    (clauses.map (boundary depth)).filter (·.depth = depth) =
      (outermost clauses).map fun clause => ⟨depth, some (.token clause.keyword)⟩ := by
  have place (clause : Clause) (outer : clause.levels = 0) :
      boundary depth clause = ⟨depth, some (.token clause.keyword)⟩ := by
    simp [boundary, outer]
  have here (clause : Clause) :
      decide ((boundary depth clause).depth = depth) = decide (clause.levels = 0) := by
    simp [boundary]
  rw [List.filter_map, outermost]
  simp only [Function.comp_def, here]
  apply List.map_congr_left
  intro clause member
  exact place clause (by simpa using (List.mem_filter.1 member).2)

end Clause

/-- Wherever the fragment stands, its clause boundaries are those of the clauses, and the depth
behind it is the one before it. -/
def Fragment.HasClauses (fragment : Fragment) (clauses : List Clause) : Prop :=
  ∀ depth rest, boundaries depth (fragment.chunks ++ rest) =
    clauses.map (Clause.boundary depth) ++ boundaries depth rest

namespace Fragment.HasClauses

variable {fragment first second body : Fragment} {clauses firstClauses secondClauses : List Clause}

theorem boundaries_chunks (has : HasClauses fragment clauses) (depth : Nat) :
    boundaries depth fragment.chunks = clauses.map (Clause.boundary depth) := by
  simpa [boundaries] using has depth []

theorem empty : HasClauses .empty [] := fun _ _ => rfl

theorem ofChunk {chunk : Chunk} (inner : chunk ≠ .clauseBreak) (notOpening : chunk.opens = false)
    (notClosing : chunk.closes = false) : HasClauses (.ofChunk chunk) [] := by
  intro depth rest
  have level : depthBehind depth chunk = depth := by
    simp [depthBehind, notOpening, notClosing]
  exact (boundaries_cons inner).trans (by rw [level]; rfl)

theorem ofToken (token : Token) (flat : token ≠ .openParen ∧ token ≠ .closeParen) :
    HasClauses (.ofToken token) [] :=
  ofChunk (by simp) (Chunk.opens_token_eq_false flat.1) (Chunk.closes_token_eq_false flat.2)

theorem append (firstHas : HasClauses first firstClauses)
    (secondHas : HasClauses second secondClauses) :
    HasClauses (first ++ second) (firstClauses ++ secondClauses) := by
  intro depth rest
  rw [chunks_append, List.append_assoc, firstHas, secondHas, List.map_append, List.append_assoc]

theorem append_plain (has : HasClauses first clauses) (plain : HasClauses second []) :
    HasClauses (first ++ second) clauses := by
  simpa using has.append plain

theorem plain_append (plain : HasClauses first []) (has : HasClauses second clauses) :
    HasClauses (first ++ second) clauses :=
  plain.append has

/-- An opening chunk and the parenthesis behind put what they enclose one level deeper. -/
theorem enclosed {opening : Chunk} (opens : opening.opens = true)
    (has : HasClauses fragment clauses) :
    HasClauses ⟨opening :: fragment.chunks ++ [.token .closeParen]⟩ (Clause.enclosed clauses) := by
  intro depth rest
  have inner : opening ≠ .clauseBreak := fun boundary => by
    rw [boundary] at opens
    cases opens
  have deeper : depthBehind depth opening = depth + 1 := by simp [depthBehind, opens]
  have closed : boundaries (depth + 1) (.token .closeParen :: rest) =
      boundaries depth rest := boundaries_cons (by simp)
  dsimp only
  rw [List.append_assoc, List.cons_append, boundaries_cons inner, deeper, has,
    List.singleton_append, closed, Clause.map_boundary_enclosed]

theorem parenthesized (has : HasClauses fragment clauses) :
    HasClauses fragment.parenthesized (Clause.enclosed clauses) :=
  enclosed (rfl : (Chunk.token .openParen).opens = true) has

theorem called (function : String) (has : HasClauses fragment clauses) :
    HasClauses (.called function fragment) (Clause.enclosed clauses) :=
  enclosed (rfl : (Chunk.call function).opens = true) has

theorem parenthesizedIf (needed : Bool) (has : HasClauses fragment clauses) :
    HasClauses (parenthesizedIf needed fragment) (Clause.enclosedIf needed clauses) := by
  cases needed with
  | true => exact has.parenthesized
  | false => exact has

theorem ofTokens {keywords : List Token}
    (flat : ∀ keyword ∈ keywords, keyword ≠ .openParen ∧ keyword ≠ .closeParen) :
    HasClauses ⟨keywords.map .token⟩ [] := by
  induction keywords with
  | nil => exact empty
  | cons keyword rest ih =>
      have restFlat : ∀ other ∈ rest, other ≠ .openParen ∧ other ≠ .closeParen :=
        fun other member => flat other (by simp [member])
      exact append (ofToken keyword (flat keyword (by simp))) (ih restFlat)

/-- A boundary with a keyword behind it is that of a clause around which there is no level. -/
theorem clause {keyword : Token} {others : List Chunk}
    (has : HasClauses ⟨.token keyword :: others⟩ clauses) :
    HasClauses ⟨.clauseBreak :: .token keyword :: others⟩ (Clause.own true keyword ++ clauses) := by
  intro depth rest
  have behind := has depth rest
  dsimp only [List.cons_append] at behind ⊢
  rw [boundaries, if_pos rfl, behind]
  rfl

theorem clauseOf (keyword : Token) (keywords : List Token)
    (flat : ∀ word ∈ keyword :: keywords, word ≠ .openParen ∧ word ≠ .closeParen)
    (has : HasClauses body clauses) :
    HasClauses (clauseOf (keyword :: keywords) body) (Clause.own true keyword ++ clauses) :=
  clause (plain_append (ofTokens flat) has)

theorem named {name : String} (has : HasClauses fragment clauses) :
    HasClauses (fragment.named name) clauses := by
  have built : fragment.named name = fragment ++ (.ofToken .as ++ .ofName name) := by
    ext1
    simp
  have label : HasClauses (.ofToken .as ++ .ofName name) [] :=
    append (ofToken .as (by decide)) (ofChunk (by simp) rfl rfl)
  rw [built]
  exact append_plain has label

theorem negation (negated : Bool) : HasClauses (negation negated) [] := by
  cases negated with
  | true => exact ofToken .not (by decide)
  | false => exact empty

theorem nullsKeywords (nulls : Option NullsOrder) : HasClauses (nullsKeywords nulls) [] := by
  rcases nulls with _ | _ | _
  · exact empty
  · exact append (ofToken .nulls (by decide)) (ofToken .first (by decide))
  · exact append (ofToken .nulls (by decide)) (ofToken .last (by decide))

theorem table (table : Table) : HasClauses table.lower [] := by
  have base : HasClauses (.ofName table.name) [] := ofChunk (by simp) rfl rfl
  unfold Table.lower
  split
  · exact base.named
  · exact base

/-- The clauses of fragments between commas are those of the fragments, one after the other. -/
theorem commaSeparated_cons {rest : List Fragment} (firstHas : HasClauses first firstClauses)
    (restHas : HasClauses (commaSeparated rest) secondClauses) :
    HasClauses (commaSeparated (first :: rest)) (firstClauses ++ secondClauses) := by
  cases rest with
  | nil =>
      have alone : first ++ commaSeparated [] = first := by
        ext1
        simp [commaSeparated, Fragment.join]
      have whole := append firstHas restHas
      rwa [alone] at whole
  | cons second others =>
      have comma : HasClauses (.ofToken .comma) [] := ofToken .comma (by decide)
      exact append (append_plain firstHas comma) restHas

end Fragment.HasClauses

end SqlMapper
