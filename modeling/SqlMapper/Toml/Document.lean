import SqlMapper.Toml.Quoted
import SqlMapper.Toml.Scalar
import SqlMapper.Toml.Table

/-!
# Reading data files

A data file is a sequence of lines: headers, and names with their values. Arrays and tables between
braces may go over several lines and end with a comma, but a dotted name stands on one line. A
comment runs from a number sign to the end of its line. The number of brackets and braces open at
once is limited, as is the number of names with dots between them. The fuel of the readers is the
number of steps the text can take at most, so that it never runs out.
-/

namespace SqlMapper.Toml

/-- The number of brackets and braces that may be open at once in a value. -/
def maxNesting : Nat := 80

/-- The number of names that a dotted name may consist of. -/
def maxNames : Nat := 80

/-- The text behind blank lines, spaces and comments. -/
def skipGaps (comment : Bool) : List Char → Option (List Char)
  | [] => some []
  | '\n' :: rest | '\r' :: '\n' :: rest => skipGaps false rest
  | char :: rest =>
      if comment then if isPlain char then skipGaps true rest else none
      else if char = '#' then skipGaps true rest
      else if isSpace char then skipGaps false rest
      else some (char :: rest)

/-- What follows a line: nothing is left on it but spaces and a comment. -/
def endLine (chars : List Char) : Option (List Char) :=
  match skipSpaces chars with
  | [] => some []
  | '#' :: rest => some ('#' :: rest)
  | rest => if startsWithBreak rest then some (dropBreak rest) else none

/-- The character may stand in a name without quotes. -/
def isNameChar (char : Char) : Bool :=
  char.isAlphanum || char == '_' || char == '-'

/-- Reads a name, with or without quotes. -/
def readName (chars : List Char) : Option (String × List Char) :=
  match chars with
  | '"' :: rest => readLine '"' rest
  | '\'' :: rest => readLine '\'' rest
  | _ =>
      let name := chars.takeWhile isNameChar
      if name.isEmpty then none else some (String.ofList name, chars.drop name.length)

/-- Reads names with dots between them, no more than allowed, and the spaces behind them. -/
def readNames : Nat → List Char → Option (KeyPath × List Char)
  | 0, _ => none
  | allowed + 1, chars => do
      let (name, rest) ← readName chars
      match skipSpaces rest with
      | '.' :: rest =>
          let (path, rest) ← readNames allowed (skipSpaces rest)
          return (⟨name :: path.tables, path.name⟩, rest)
      | rest => return (⟨[], name⟩, rest)

/-- Reads a dotted name. -/
def readPath (chars : List Char) : Option (KeyPath × List Char) :=
  readNames maxNames chars

/-- Reads a dotted name and the equals sign on its line. -/
def readTarget (chars : List Char) : Option (KeyPath × List Char) := do
  match ← readPath chars with
  | (path, '=' :: rest) => some (path, skipSpaces rest)
  | _ => none

/-- Reads a number, a moment or one of the words for true and false. -/
def readScalar (chars : List Char) : Option (Node × List Char) :=
  let (word, rest) := spanScalar chars
  let node : Option Node :=
    if word = ['t', 'r', 'u', 'e'] then some (.boolean true)
    else if word = ['f', 'a', 'l', 's', 'e'] then some (.boolean false)
    else
      match readInteger? word with
      | some number => if IsWide number then some (.integer number) else none
      | none =>
          match readFloat? word with
          | some number => some (.float number)
          | none => if isMoment word then some (.moment (String.ofList word)) else none
  node.map fun node => (node, rest)

mutual

/-- Reads a value in which a number of brackets and braces may be open at once. -/
def readValue : Nat → Nat → List Char → Option (Node × List Char)
  | 0, _, _ => none
  | fuel + 1, nesting, chars =>
      match chars, nesting with
      | '"' :: rest, _ => (readText '"' rest).map fun (text, rest) => (.text text, rest)
      | '\'' :: rest, _ => (readText '\'' rest).map fun (text, rest) => (.text text, rest)
      | '[' :: _, 0 | '{' :: _, 0 => none
      | '[' :: rest, nesting + 1 =>
          (readElements fuel nesting rest).map fun (elements, rest) => (.array elements, rest)
      | '{' :: rest, nesting + 1 =>
          (readMembers fuel nesting [] rest).map fun (entries, rest) =>
            (.table .closed entries, rest)
      | chars, _ => readScalar chars

/-- Reads the elements of an array up to its closing bracket; a comma may stand before it. -/
def readElements : Nat → Nat → List Char → Option (List Node × List Char)
  | 0, _, _ => none
  | fuel + 1, nesting, chars => do
      match ← skipGaps false chars with
      | ']' :: rest => some ([], rest)
      | chars =>
          let (element, rest) ← readValue fuel nesting chars
          match ← skipGaps false rest with
          | ',' :: rest =>
              let (elements, rest) ← readElements fuel nesting rest
              return (element :: elements, rest)
          | ']' :: rest => return ([element], rest)
          | _ => none

/-- Reads the entries of a table between braces up to its closing brace, behind those already read;
a comma may stand before the brace. -/
def readMembers : Nat → Nat → Entries → List Char → Option (Entries × List Char)
  | 0, _, _, _ => none
  | fuel + 1, nesting, entries, chars => do
      match ← skipGaps false chars with
      | '}' :: rest => some (entries, rest)
      | chars =>
          let (path, rest) ← readPath chars
          match ← skipGaps false rest with
          | '=' :: rest =>
              let (node, rest) ← readValue fuel nesting (← skipGaps false rest)
              let entries ← entries.defineUnder [] path node
              match ← skipGaps false rest with
              | ',' :: rest => readMembers fuel nesting entries rest
              | '}' :: rest => some (entries, rest)
              | _ => none
          | _ => none

end

/-- Reads the lines of a file into the entries read before, under the header read last. -/
def readLines : Nat → List String → Entries → List Char → Option Entries
  | 0, _, _, _ => none
  | fuel + 1, header, entries, chars => do
      match ← skipGaps false chars with
      | [] => some entries
      | '[' :: '[' :: rest =>
          match ← readPath (skipSpaces rest) with
          | (path, ']' :: ']' :: rest) =>
              let entries ← entries.openElement path
              readLines fuel path.names entries (← endLine rest)
          | _ => none
      | '[' :: rest =>
          match ← readPath (skipSpaces rest) with
          | (path, ']' :: rest) =>
              let entries ← entries.openTable path
              readLines fuel path.names entries (← endLine rest)
          | _ => none
      | chars =>
          let (path, rest) ← readTarget chars
          let (node, rest) ← readValue (2 * rest.length + 2) maxNesting rest
          let entries ← entries.defineUnder header path node
          readLines fuel header entries (← endLine rest)

/-- The table that a file holds. A byte order mark at its start is skipped. -/
def read? (text : String) : Option Entries :=
  let chars := match text.toList with
    | '\uFEFF' :: rest => rest
    | chars => chars
  readLines (chars.length + 1) [] [] chars

end SqlMapper.Toml
