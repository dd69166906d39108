import SqlMapper.Statement.Formatter
import SqlMapper.Toml.Document

/-!
# Configuration of the formatter

A configuration names the dialect and the layout to write in. It is read from a data file, in which
each of its fields may be missing and other names are ignored.
-/

namespace SqlMapper

/-- The settings of a formatter. -/
structure Config where
  dialect : Dialect := default
  /-- Each clause starts on a line of its own. -/
  beautify : Bool := false
  /-- The spaces of a nesting level. -/
  indent : Nat := Formatter.defaultIndent
  deriving DecidableEq, Repr

namespace Config

/-- Why a configuration file cannot be used. -/
inductive Fault where
  /-- There is no file, or it is no text. -/
  | unreadable
  /-- The text is no data file, or a field has no such value. -/
  | malformed
  deriving DecidableEq, Repr

/-- The greatest indent. -/
def maxIndent : Nat := UInt64.size - 1

/-- The dialect that a value names. -/
def dialect? : Toml.Node → Option Dialect
  | .text name => Dialect.ofName? name
  | _ => none

/-- The truth value that a value is. -/
def flag? : Toml.Node → Option Bool
  | .boolean flag => some flag
  | _ => none

/-- The indent that a value is. -/
def indent? : Toml.Node → Option Nat
  | .integer number => if 0 ≤ number ∧ number ≤ maxIndent then some number.toNat else none
  | _ => none

/-- A field of a table, or else what it is without the table's saying so. -/
def field? {α : Type} (entries : Toml.Entries) (name : String) (read? : Toml.Node → Option α)
    (otherwise : α) : Option α :=
  match entries.lookup name with
  | some node => read? node
  | none => some otherwise

/-- The configuration that a table holds. -/
def ofEntries? (entries : Toml.Entries) : Option Config := do
  let start : Config := {}
  let dialect ← field? entries "dialect" dialect? start.dialect
  let beautify ← field? entries "beautify" flag? start.beautify
  let indent ← field? entries "indent" indent? start.indent
  return { dialect, beautify, indent }

/-- Reads the text of a configuration file. -/
def ofText (text : String) : Except Fault Config :=
  match (Toml.read? text).bind ofEntries? with
  | some config => .ok config
  | none => .error .malformed

/-- Reads the bytes of a configuration file; without bytes the file is missing. -/
def ofFile (bytes : Option (List UInt8)) : Except Fault Config :=
  match bytes with
  | none => .error .unreadable
  | some bytes =>
      match Text.Utf8.decode bytes with
      | .error _ => .error .unreadable
      | .ok text => ofText text

/-- The formatter with these settings. -/
def formatter (config : Config) : Formatter :=
  { rules := config.dialect.rules, layout := ⟨config.beautify, config.indent⟩ }

/-- The configuration as an object of named fields. -/
def objectText (config : Config) : String :=
  "\x7b\"dialect\":\"" ++ config.dialect.name ++ "\",\"beautify\":" ++
    (if config.beautify then "true" else "false") ++ ",\"indent\":" ++
    String.ofList (Number.digits config.indent) ++ "\x7d"

end Config

end SqlMapper
