import SqlMapper.Statement.Lowering
import SqlMapper.Value.Coercion

/-!
# Formatting statements

A formatter writes statements for one dialect in one layout. The text holds a placeholder for each
argument; the arguments come encoded, in placeholder order.
-/

namespace SqlMapper

/-- A statement's text and its arguments in placeholder order. -/
structure Compiled where
  sql : String
  arguments : List Argument
  deriving DecidableEq

/-- The dialect and the layout to write in. -/
structure Formatter where
  rules : DialectRules
  layout : Layout

namespace Formatter

/-- The spaces of a nesting level, unless a caller says otherwise. -/
def defaultIndent : Nat := 2

/-- A compact formatter. -/
def forRules (rules : DialectRules) : Formatter :=
  { rules, layout := ⟨false, defaultIndent⟩ }

/-- The fragment of a statement, before it is written. -/
def lower (formatter : Formatter) (statement : Statement) : Except Error Fragment :=
  statement.lower formatter.rules

/-- The arguments encoded; of several that do not encode the first is reported. -/
def encodeArguments : List Argument → Except Error (List Argument)
  | [] => .ok []
  | argument :: rest => do
      let encoded ← argument.encode
      let others ← encodeArguments rest
      return encoded :: others

/-- Writes a statement. -/
def format (formatter : Formatter) (statement : Statement) : Except Error Compiled := do
  let fragment ← formatter.lower statement
  let arguments ← encodeArguments fragment.arguments
  return { sql := fragment.render formatter.rules.signs formatter.layout, arguments }

end Formatter

end SqlMapper
