import SqlMapper.Proofs.Arguments.Traversal
import SqlMapper.Proofs.Rendering.Pieces

/-!
# Text that goes on

What is appended to a fragment never changes what the fragment was rendered to. A piece of text
depends on what follows only if it is the last one: a space may come to stand behind it, and a
clause boundary, which writes nothing at the end, may write its separator. In both cases the piece
still starts with what it was. All pieces before the last one stay the same, and with them the
numbers of the placeholders.
-/

namespace SqlMapper

namespace Rendering

/-- The longer piece is what the piece may become when more follows: it starts with what the piece
wrote, and only a clause boundary has another text. -/
structure Piece.GoesOn (piece longer : Piece) : Prop where
  chunk : longer.chunk = piece.chunk
  text : piece.chunk ≠ .clauseBreak → longer.text = piece.text
  written : piece.written <+: longer.written

/-- The pieces at the start of others: all but the last are the same, and the last goes on. -/
inductive GoOn : List Piece → List Piece → Prop where
  | nothing (more : List Piece) : GoOn [] more
  | last {piece longer : Piece} (more : List Piece) (goesOn : piece.GoesOn longer) :
      GoOn [piece] (longer :: more)
  | kept (piece : Piece) {start whole : List Piece} (goOn : GoOn start whole) :
      GoOn (piece :: start) (piece :: whole)

/-- The text of pieces that go on is the start of the whole text. -/
theorem GoOn.written {start whole : List Piece} (goOn : GoOn start whole) :
    start.flatMap Piece.written <+: whole.flatMap Piece.written := by
  induction goOn with
  | nothing more => exact List.nil_prefix
  | @last piece longer more goesOn =>
      rw [List.flatMap_singleton, List.flatMap_cons]
      exact goesOn.written.trans (List.prefix_append ..)
  | kept piece _ ih =>
      rw [List.flatMap_cons, List.flatMap_cons]
      exact (List.prefix_append_right_inj _).2 ih

/-- Arguments with their placeholders, numbered on from a number. -/
def numbered (signs : Signs) (number : Nat) (arguments : List Argument) :
    List (Argument × List Char) :=
  (arguments.zipIdx number).map fun (argument, own) =>
    (argument, (signs.placeholder own).toList)

variable (signs : Signs) (layout : Layout)

theorem numbered_append (number : Nat) (first second : List Argument) :
    numbered signs number (first ++ second) =
      numbered signs number first ++ numbered signs (number + first.length) second := by
  rw [numbered, List.zipIdx_append, List.map_append]
  rfl

/-- What a chunk writes that is no clause boundary does not depend on being the last. -/
theorem chunkText_of_ne_clauseBreak {chunk : Chunk} (inner : chunk ≠ .clauseBreak) (state : State)
    (last other : Bool) :
    chunkText signs layout state last chunk = chunkText signs layout state other chunk := by
  cases chunk with
  | clauseBreak => exact absurd rfl inner
  | _ => rfl

/-- The piece of a last chunk goes on in the piece of the same chunk with others behind it. -/
theorem goesOn_of_last (state : State) (chunk : Chunk) (second : List Chunk) :
    Piece.GoesOn ⟨chunk, chunkText signs layout state true chunk, spaceBehind chunk []⟩
      ⟨chunk, chunkText signs layout state second.isEmpty chunk, spaceBehind chunk second⟩ := by
  have sameText (inner : chunk ≠ .clauseBreak) :
      chunkText signs layout state second.isEmpty chunk =
        chunkText signs layout state true chunk :=
    chunkText_of_ne_clauseBreak signs layout inner state _ _
  refine ⟨rfl, sameText, ?_⟩
  simp only [Piece.written, spaceBehind, List.append_nil]
  by_cases boundary : chunk = .clauseBreak
  · subst boundary
    have silent : chunkText signs layout state true .clauseBreak = [] := by simp [chunkText]
    rw [silent]
    exact List.nil_prefix
  · rw [sameText boundary]
    exact List.prefix_append ..

/-- The pieces of chunks go on in those of the same chunks with others behind them. -/
theorem goOn_append (state : State) (first second : List Chunk) :
    GoOn (pieces signs layout state first) (pieces signs layout state (first ++ second)) := by
  induction first generalizing state with
  | nil => exact .nothing _
  | cons chunk rest ih =>
      -- Only a chunk without another one behind it can tell the two texts apart.
      cases rest with
      | nil => exact .last _ (goesOn_of_last signs layout state chunk second)
      | cons next others => exact .kept _ (ih _)

end Rendering

namespace Fragment

open Rendering

theorem placeholders_numbered (signs : Signs) (layout : Layout) (fragment : Fragment) :
    placeholders (pieces signs layout {} fragment.chunks) = numbered signs 1 fragment.arguments :=
  placeholders_pieces signs layout {} fragment.chunks

theorem exists_render_append (signs : Signs) (layout : Layout) (first second : Fragment) :
    ∃ rest, (first ++ second).render signs layout = first.render signs layout ++ rest := by
  rcases (goOn_append signs layout {} first.chunks second.chunks).written with ⟨rest, same⟩
  refine ⟨String.ofList rest, ?_⟩
  apply String.toList_inj.1
  rw [String.toList_append, String.toList_ofList, toList_render, toList_render, chunks_append,
    ← same]

/-- Whatever is appended to a fragment, its text and its numbered arguments stay as they are and
what is appended comes behind them. To append is associative, with the empty fragment on either
side changing nothing, and putting fragments together with signs and names adds no arguments. -/
theorem rendering_survives_append (signs : Signs) (layout : Layout) :
    (∀ first second : Fragment,
      let start := pieces signs layout {} first.chunks
      let whole := pieces signs layout {} (first ++ second).chunks
      (∃ rest, (first ++ second).render signs layout = first.render signs layout ++ rest) ∧
        (first ++ second).arguments = first.arguments ++ second.arguments ∧
        (first.render signs layout).toList = start.flatMap Piece.written ∧
        GoOn start whole ∧
        placeholders start = numbered signs 1 first.arguments ∧
        placeholders whole =
          placeholders start ++ numbered signs (first.argumentCount + 1) second.arguments) ∧
      (∀ first second third : Fragment, first ++ second ++ third = first ++ (second ++ third)) ∧
      (∀ fragment : Fragment, empty ++ fragment = fragment ∧ fragment ++ empty = fragment) ∧
      (∀ separator fragments,
        (join separator fragments).arguments = fragments.flatMap arguments) ∧
      ∀ (fragment : Fragment) (name : String),
        fragment.parenthesized.arguments = fragment.arguments ∧
          (fragment.named name).arguments = fragment.arguments ∧
          (called name fragment).arguments = fragment.arguments := by
  refine ⟨?_, append_assoc, ?_, arguments_join, ?_⟩
  · intro first second start whole
    have starts : placeholders start = numbered signs 1 first.arguments :=
      placeholders_numbered signs layout first
    refine ⟨exists_render_append signs layout first second, arguments_append first second,
      toList_render signs layout first, goOn_append signs layout {} first.chunks second.chunks,
      starts, ?_⟩
    calc placeholders whole
        = numbered signs 1 (first ++ second).arguments :=
          placeholders_numbered signs layout (first ++ second)
      _ = numbered signs 1 first.arguments ++
            numbered signs (1 + first.arguments.length) second.arguments := by
          rw [arguments_append, numbered_append]
      _ = placeholders start ++ numbered signs (first.argumentCount + 1) second.arguments := by
          rw [starts, Nat.add_comm 1, argumentCount]
  · intro fragment
    constructor
    · ext1
      simp
    · ext1
      simp
  · intro fragment name
    exact ⟨arguments_parenthesized fragment, arguments_named fragment name,
      arguments_called name fragment⟩

end Fragment

end SqlMapper
