import SqlMapper.Text.Hex

/-!
# Quoted text in data files

Text stands between double quotes, with escapes, or between single quotes, without. Three quotes
open a text of several lines, which drops a line break right behind them and may hold one or two
quotes in a row; of the quotes at its end the last three close it. Control characters other than the
tab are not allowed.
-/

namespace SqlMapper.Toml

/-- A space or a tab. -/
def isSpace (char : Char) : Bool :=
  char == ' ' || char == '\t'

/-- The characters behind spaces and tabs. -/
def skipSpaces (chars : List Char) : List Char :=
  chars.dropWhile isSpace

/-- The character may stand in a comment or for itself in a quoted text. -/
def isPlain (char : Char) : Bool :=
  char == '\t' || (0x20 ≤ char.toNat && char.toNat != 0x7F)

/-- The character whose code the first digits of a text give. -/
def codeChar? (width : Nat) (chars : List Char) : Option Char := do
  let values ← (chars.take width).mapM Text.hexValue?
  let code := values.foldl (fun total value => total * 16 + value) 0
  if values.length = width ∧ code.isValidChar then some (Char.ofNat code) else none

/-- The character that an escape stands for, and the number of characters behind the backslash that
belong to the escape. -/
def escape? : List Char → Option (Char × Nat)
  | [] => none
  | mark :: rest =>
      match mark with
      | 'b' => some ('\x08', 1)
      | 't' => some ('\t', 1)
      | 'n' => some ('\n', 1)
      | 'f' => some ('\x0c', 1)
      | 'r' => some ('\r', 1)
      | 'e' => some ('\x1b', 1)
      | '"' => some ('"', 1)
      | '\\' => some ('\\', 1)
      | 'x' => (codeChar? 2 rest).map fun char => (char, 3)
      | 'u' => (codeChar? 4 rest).map fun char => (char, 5)
      | 'U' => (codeChar? 8 rest).map fun char => (char, 9)
      | _ => none

/-- The number of spaces, tabs and line breaks at the start. -/
def gapLength : List Char → Nat
  | '\r' :: '\n' :: rest => gapLength rest + 2
  | char :: rest => if isSpace char || char == '\n' then gapLength rest + 1 else 0
  | [] => 0

/-- The text starts with a line break. -/
def startsWithBreak : List Char → Bool
  | '\n' :: _ | '\r' :: '\n' :: _ => true
  | _ => false

/-- A text without the line break it starts with. -/
def dropBreak : List Char → List Char
  | '\n' :: rest | '\r' :: '\n' :: rest => rest
  | chars => chars

/-- The quotes of a text of several lines that stand behind three others: the first ones are text,
the last three close it. -/
def closeLines (mark : Char) (chars : List Char) : Option (List Char × List Char) :=
  let quotes := chars.takeWhile (· == mark)
  if quotes.length ≤ 2 then some (quotes, chars.drop quotes.length) else none

/-- Reads a text behind its opening quotes, and what follows its closing ones. -/
def readBody (mark : Char) (lines : Bool) : List Char → Option (List Char × List Char)
  | [] => none
  | char :: rest =>
      if char = mark ∧ lines = false then some ([], rest)
      else if char = mark ∧ rest.take 2 = [mark, mark] then closeLines mark (rest.drop 2)
      else if char = '\\' ∧ mark = '"' then
        if lines && startsWithBreak (skipSpaces rest) then
          readBody mark lines (rest.drop (gapLength rest))
        else
          match escape? rest with
          | none => none
          | some (escaped, length) =>
              (readBody mark lines (rest.drop length)).map fun (text, rest) =>
                (escaped :: text, rest)
      else if isPlain char || (lines && startsWithBreak (char :: rest)) then
        (readBody mark lines rest).map fun (text, rest) => (char :: text, rest)
      else none
  termination_by chars => chars.length

/-- Reads a text of one line behind its opening quote. -/
def readLine (mark : Char) (chars : List Char) : Option (String × List Char) :=
  (readBody mark false chars).map fun (text, rest) => (String.ofList text, rest)

/-- Reads a text of one or several lines behind its first quote. -/
def readText (mark : Char) (chars : List Char) : Option (String × List Char) :=
  if chars.take 2 = [mark, mark] then
    (readBody mark true (dropBreak (chars.drop 2))).map fun (text, rest) =>
      (String.ofList text, rest)
  else readLine mark chars

end SqlMapper.Toml
