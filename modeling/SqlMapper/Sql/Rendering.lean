import SqlMapper.Number.Basic
import SqlMapper.Sql.Fragment

/-!
# Rendering fragments

Rendering writes the chunks from left to right. What a chunk writes depends on the chunks before it
only through three things: the nesting depth, the number of placeholders, and whether anything is
written yet. What follows a chunk decides the space behind it, and a clause boundary at the very end
writes nothing. In a compact layout a boundary is a space; in a beautified one it is a new line,
indented by the nesting depth.
-/

namespace SqlMapper

/-- How clauses are laid out. -/
structure Layout where
  /-- Each clause starts on a line of its own. -/
  beautify : Bool
  /-- The spaces of a nesting level. -/
  indent : Nat
  deriving DecidableEq, Repr

/-- Everything on one line. -/
def Layout.compact : Layout := ⟨false, 0⟩

/-- Each clause on a line of its own. -/
def Layout.beautified (indent : Nat) : Layout := ⟨true, indent⟩

/-- The signs of a dialect that rendering needs. -/
structure Signs where
  /-- The placeholder of an argument, counted from one. -/
  placeholder : Nat → String
  /-- A name as an identifier. -/
  quote : String → String

namespace Rendering

/-- What is left of the chunks already written. -/
structure State where
  /-- Something is written. -/
  started : Bool := false
  /-- The number of nesting levels open. -/
  depth : Nat := 0
  /-- The number of placeholders written. -/
  arguments : Nat := 0
  deriving DecidableEq, Repr

/-- The separator at a clause boundary. -/
def separator (layout : Layout) (depth : Nat) : List Char :=
  if layout.beautify then '\n' :: List.replicate (depth * layout.indent) ' ' else [' ']

/-- What a chunk writes; `last` says that no chunk follows. -/
def chunkText (signs : Signs) (layout : Layout) (state : State) (last : Bool) :
    Chunk → List Char
  | .token token => token.text.toList
  | .name name => (signs.quote name).toList
  | .qualified table column => (signs.quote table).toList ++ '.' :: (signs.quote column).toList
  | .raw text => text.toList
  | .call function => function.toList ++ ['(']
  | .argument _ => (signs.placeholder (state.arguments + 1)).toList
  | .clauseBreak => if state.started && !last then separator layout state.depth else []

/-- The space behind a chunk. -/
def spaceBehind (chunk : Chunk) : List Chunk → List Char
  | [] => []
  | next :: _ => if chunk.spaced next then [' '] else []

/-- The nesting depth behind a chunk; closing without an open level changes nothing. -/
def depthBehind (depth : Nat) (chunk : Chunk) : Nat :=
  if chunk.opens then depth + 1 else if chunk.closes then depth - 1 else depth

/-- The state behind a chunk and what it wrote. -/
def State.advance (state : State) (chunk : Chunk) (written : List Char) : State :=
  { started := state.started || !written.isEmpty
    depth := depthBehind state.depth chunk
    arguments := state.arguments + if chunk.argument?.isSome then 1 else 0 }

/-- Writes the chunks from a state on. -/
def write (signs : Signs) (layout : Layout) (state : State) : List Chunk → List Char
  | [] => []
  | chunk :: rest =>
      let written := chunkText signs layout state rest.isEmpty chunk ++ spaceBehind chunk rest
      written ++ write signs layout (state.advance chunk written) rest

end Rendering

/-- The text of a fragment. -/
def Fragment.render (fragment : Fragment) (signs : Signs) (layout : Layout) : String :=
  String.ofList (Rendering.write signs layout {} fragment.chunks)

end SqlMapper
