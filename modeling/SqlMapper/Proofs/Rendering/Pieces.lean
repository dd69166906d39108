import SqlMapper.Sql.Rendering

/-!
# The pieces of a rendered text

Rendering writes one piece of text for each chunk. This file keeps the pieces apart: each remembers
its chunk, the text of the chunk, and the space behind it. Put together they are the rendered text,
and those of the arguments hold the placeholders in their numbering, whatever stands between them.
-/

namespace SqlMapper.Rendering

/-- What one chunk wrote. -/
structure Piece where
  chunk : Chunk
  text : List Char
  space : List Char

/-- Everything the chunk wrote. -/
def Piece.written (piece : Piece) : List Char :=
  piece.text ++ piece.space

/-- The pieces that the chunks write from a state on. -/
def pieces (signs : Signs) (layout : Layout) (state : State) : List Chunk → List Piece
  | [] => []
  | chunk :: rest =>
      let piece : Piece :=
        { chunk
          text := chunkText signs layout state rest.isEmpty chunk
          space := spaceBehind chunk rest }
      piece :: pieces signs layout (state.advance chunk piece.written) rest

/-- The arguments among the pieces, each with the text written for it. -/
def placeholders (written : List Piece) : List (Argument × List Char) :=
  written.filterMap fun piece => piece.chunk.argument?.map fun argument => (argument, piece.text)

variable (signs : Signs) (layout : Layout)

theorem write_eq_flatMap_pieces (state : State) (chunks : List Chunk) :
    write signs layout state chunks = (pieces signs layout state chunks).flatMap Piece.written := by
  induction chunks generalizing state with
  | nil => rfl
  | cons chunk rest ih =>
      rw [write, pieces, List.flatMap_cons, ih]
      rfl

/-- The text of a fragment is what its pieces wrote. -/
theorem toList_render (fragment : Fragment) :
    (fragment.render signs layout).toList =
      (pieces signs layout {} fragment.chunks).flatMap Piece.written := by
  rw [Fragment.render, String.toList_ofList, write_eq_flatMap_pieces]

theorem map_chunk_pieces (state : State) (chunks : List Chunk) :
    (pieces signs layout state chunks).map Piece.chunk = chunks := by
  induction chunks generalizing state with
  | nil => rfl
  | cons chunk rest ih => rw [pieces, List.map_cons, ih]

/-- The argument pieces are numbered on from the placeholders already written. -/
theorem placeholders_pieces (state : State) (chunks : List Chunk) :
    placeholders (pieces signs layout state chunks) =
      ((chunks.filterMap Chunk.argument?).zipIdx (state.arguments + 1)).map
        fun (argument, number) => (argument, (signs.placeholder number).toList) := by
  induction chunks generalizing state with
  | nil => rfl
  | cons chunk rest ih =>
      rw [pieces, placeholders, List.filterMap_cons, List.filterMap_cons, ← placeholders, ih]
      -- Only an argument moves the numbering on.
      cases chunk with
      | argument argument => rfl
      | _ => rfl

end SqlMapper.Rendering
