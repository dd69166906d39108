import SqlMapper.Sql.Chunk

/-!
# Fragments

A fragment is a list of chunks, built up by appending. Its arguments are those of its chunks, in
order.
-/

namespace SqlMapper

/-- A piece of SQL that is not yet written out. -/
structure Fragment where
  chunks : List Chunk := []
  deriving DecidableEq

namespace Fragment

/-- The fragment without chunks. -/
def empty : Fragment := {}

/-- A fragment of one chunk. -/
def ofChunk (chunk : Chunk) : Fragment := ⟨[chunk]⟩

/-- A fragment of one token. -/
def ofToken (token : Token) : Fragment := ofChunk (.token token)

/-- A quoted name. -/
def ofName (name : String) : Fragment := ofChunk (.name name)

/-- A placeholder for one argument. -/
def ofArgument (argument : Argument) : Fragment := ofChunk (.argument argument)

/-- A clause boundary. -/
def clause : Fragment := ofChunk .clauseBreak

/-- One fragment behind another. -/
def append (first second : Fragment) : Fragment :=
  ⟨first.chunks ++ second.chunks⟩

instance : Append Fragment := ⟨append⟩

/-- A chunk behind a fragment. -/
def push (fragment : Fragment) (chunk : Chunk) : Fragment :=
  ⟨fragment.chunks ++ [chunk]⟩

/-- A token behind a fragment. -/
def pushToken (fragment : Fragment) (token : Token) : Fragment :=
  fragment.push (.token token)

/-- Fragments with a separator between each two. -/
def join (separator : Token) : List Fragment → Fragment
  | [] => empty
  | [fragment] => fragment
  | fragment :: rest => fragment.pushToken separator ++ join separator rest

/-- The fragment in parentheses. -/
def parenthesized (fragment : Fragment) : Fragment :=
  ofToken .openParen ++ fragment.pushToken .closeParen

/-- The fragment under a name. -/
def named (fragment : Fragment) (name : String) : Fragment :=
  (fragment.pushToken .as).push (.name name)

/-- A function call with the fragment as its arguments. -/
def called (function : String) (arguments : Fragment) : Fragment :=
  ofChunk (.call function) ++ arguments.pushToken .closeParen

/-- The arguments in placeholder order. -/
def arguments (fragment : Fragment) : List Argument :=
  fragment.chunks.filterMap Chunk.argument?

/-- The number of placeholders. -/
def argumentCount (fragment : Fragment) : Nat :=
  fragment.arguments.length

/-- The fragment has no chunks. -/
def isEmpty (fragment : Fragment) : Bool :=
  fragment.chunks.isEmpty

@[ext]
theorem ext {first second : Fragment} (same : first.chunks = second.chunks) : first = second := by
  cases first; cases second; simp_all

@[simp]
theorem chunks_append (first second : Fragment) :
    (first ++ second).chunks = first.chunks ++ second.chunks := rfl

@[simp]
theorem chunks_push (fragment : Fragment) (chunk : Chunk) :
    (fragment.push chunk).chunks = fragment.chunks ++ [chunk] := rfl

@[simp]
theorem chunks_pushToken (fragment : Fragment) (token : Token) :
    (fragment.pushToken token).chunks = fragment.chunks ++ [.token token] := rfl

@[simp]
theorem chunks_ofChunk (chunk : Chunk) : (ofChunk chunk).chunks = [chunk] := rfl

@[simp]
theorem chunks_ofToken (token : Token) : (ofToken token).chunks = [.token token] := rfl

@[simp]
theorem chunks_ofName (name : String) : (ofName name).chunks = [.name name] := rfl

@[simp]
theorem chunks_ofArgument (argument : Argument) :
    (ofArgument argument).chunks = [.argument argument] := rfl

@[simp]
theorem chunks_clause : clause.chunks = [.clauseBreak] := rfl

@[simp]
theorem chunks_empty : empty.chunks = [] := rfl

@[simp]
theorem chunks_parenthesized (fragment : Fragment) :
    fragment.parenthesized.chunks =
      .token .openParen :: fragment.chunks ++ [.token .closeParen] := rfl

@[simp]
theorem chunks_named (fragment : Fragment) (name : String) :
    (fragment.named name).chunks = fragment.chunks ++ [.token .as, .name name] := by
  simp [named]

@[simp]
theorem chunks_called (function : String) (arguments : Fragment) :
    (called function arguments).chunks =
      .call function :: arguments.chunks ++ [.token .closeParen] := rfl

theorem append_assoc (first second third : Fragment) :
    first ++ second ++ third = first ++ (second ++ third) := by
  ext1
  simp

@[simp]
theorem arguments_append (first second : Fragment) :
    (first ++ second).arguments = first.arguments ++ second.arguments := by
  simp [arguments]

end Fragment

end SqlMapper
