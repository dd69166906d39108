import SqlMapper.Sql.Token
import SqlMapper.Value.Basic

/-!
# Chunks

A chunk is the least part of SQL text that is written as a whole: a token, a name, an argument's
placeholder, a clause boundary. Whether a space stands between two chunks depends on these two
alone.
-/

namespace SqlMapper

/-- A part of SQL text. -/
inductive Chunk where
  | token (token : Token)
  /-- A quoted name. -/
  | name (name : String)
  /-- A column's name behind its table's, both quoted. -/
  | qualified (table column : String)
  /-- Text written as it is. -/
  | raw (text : String)
  /-- A function's name with the parenthesis that opens its arguments. -/
  | call (function : String)
  /-- An argument, written as a placeholder. -/
  | argument (argument : Argument)
  /-- The boundary between two clauses. -/
  | clauseBreak
  deriving DecidableEq

namespace Chunk

/-- The chunk is spaced like a word. -/
def isWord : Chunk → Bool
  | .token sign => !sign.isPunctuation && !sign.isOperator
  | .clauseBreak => false
  | _ => true

/-- The chunk opens a nesting level. -/
def opens : Chunk → Bool
  | .token .openParen | .call _ => true
  | _ => false

/-- The chunk closes a nesting level. -/
def closes : Chunk → Bool
  | .token .closeParen => true
  | _ => false

/-- The chunk is raw text with a space at its end. -/
def endsInSpace : Chunk → Bool
  | .raw text => text.toList.getLast? == some ' '
  | _ => false

/-- The chunk is raw text with a space at its start. -/
def startsWithSpace : Chunk → Bool
  | .raw text => text.toList.head? == some ' '
  | _ => false

/-- The chunk is an operator. -/
def isOperator : Chunk → Bool
  | .token sign => sign.isOperator
  | _ => false

/-- No space stands before the chunk. -/
def clingsLeft : Chunk → Bool
  | .token .closeParen | .token .comma | .token .semicolon | .token .dot => true
  | _ => false

/-- No space stands behind the chunk. -/
def clingsRight : Chunk → Bool
  | .token .openParen | .token .dot | .call _ => true
  | _ => false

/-- A space stands between a chunk and the next one. A clause boundary brings its own separator, and
raw text may bring its own space; then punctuation clings, commas and operators are spaced, and
otherwise a space keeps words apart. -/
def spaced (current next : Chunk) : Bool :=
  if current == .clauseBreak || next == .clauseBreak then false
  else if current.endsInSpace || next.startsWithSpace then false
  else if next.clingsLeft || current.clingsRight then false
  else if current == .token .comma || current.isOperator || next.isOperator then true
  else if current == .token .closeParen then next.isWord
  else if next == .token .openParen then current.isWord
  else current.isWord && next.isWord

/-- The argument of a chunk that is one. -/
def argument? : Chunk → Option Argument
  | .argument bound => some bound
  | _ => none

end Chunk

end SqlMapper
