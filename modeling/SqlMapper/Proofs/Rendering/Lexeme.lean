import SqlMapper.Dialect.Rules

/-!
# Lexemes of SQL text

This file reads SQL text the way a database does before it parses it: blanks separate, words are
read as far as they go, a quoted name ends at a closing quote that is not doubled, and signs are
matched longest first. The reader knows the quotes of a dialect and nothing of the chunks from which
a text was written.
-/

namespace SqlMapper

/-- The least part of SQL text that has a meaning of its own. -/
inductive Lexeme where
  | word (text : String)
  | name (text : String)
  | sign (text : String)
  /-- A placeholder, with its number if it is written with one. -/
  | placeholder (number : Option Nat)
  deriving DecidableEq, Repr

/-- The signs around a quoted name. -/
structure Quotes where
  opening : Char
  closing : Char

/-- The quotes of a dialect. -/
def Dialect.quotes : Dialect → Quotes
  | .mysql => ⟨'\x60', '\x60'⟩
  | .sqlServer => ⟨'[', ']'⟩
  | .generic | .sqlite | .postgresql => ⟨'"', '"'⟩

namespace Lexeme

/-- A letter of any alphabet, a digit or an underscore. -/
def isWordChar (char : Char) : Bool :=
  char.isAlphanum || char == '_' || 128 ≤ char.toNat

/-- A word starts with no digit. -/
def startsWord (char : Char) : Bool :=
  isWordChar char && !char.isDigit

/-- The characters are a word. -/
def isWord : List Char → Bool
  | [] => false
  | char :: rest => startsWord char && rest.all isWordChar

/-- Operators and punctuation; a sign stands before every shorter one that it starts with. -/
def signs : List String :=
  ["<>", "<=", ">=", "||", "=", "<", ">", "+", "-", "/", "*", ",", "(", ")", ".", ";"]

/-- Reads the rest of a quoted name; a doubled closing quote is one of the name's own. -/
def readName (closing : Char) : List Char → Option (List Char × List Char)
  | [] => none
  | char :: rest =>
      if char = closing then
        match rest with
        | [] => some ([], [])
        | next :: others =>
            if next = closing then
              (readName closing others).map fun (content, left) => (closing :: content, left)
            else some ([], next :: others)
      else (readName closing rest).map fun (content, left) => (char :: content, left)

/-- Reads the number of a placeholder. -/
def readNumber (chars : List Char) : Option (Lexeme × List Char) :=
  if (chars.takeWhile Char.isDigit).isEmpty then none
  else
    some (.placeholder (some (Nat.ofDigitChars 10 (chars.takeWhile Char.isDigit) 0)),
      chars.dropWhile Char.isDigit)

/-- Reads the number of a placeholder behind the letter `p`. -/
def readParameter : List Char → Option (Lexeme × List Char)
  | 'p' :: digits => readNumber digits
  | _ => none

/-- Reads the longest sign. -/
def readSign (chars : List Char) : Option (Lexeme × List Char) :=
  (signs.find? fun sign => sign.toList.isPrefixOf chars).map fun sign =>
    (.sign sign, chars.drop sign.toList.length)

/-- Reads the lexeme at the start of a text that starts with no blank. -/
def scan (quotes : Quotes) : List Char → Option (Lexeme × List Char)
  | [] => none
  | char :: rest =>
      if char = quotes.opening then
        (readName quotes.closing rest).map fun (content, left) =>
          (.name (String.ofList content), left)
      else if startsWord char then
        some (.word (String.ofList (char :: rest.takeWhile isWordChar)),
          rest.dropWhile isWordChar)
      else if char = '?' then some (.placeholder none, rest)
      else if char = '$' then readNumber rest
      else if char = '@' then readParameter rest
      else readSign (char :: rest)

theorem length_readName_lt {closing : Char} {chars name left : List Char}
    (read : readName closing chars = some (name, left)) : left.length < chars.length := by
  fun_induction readName closing chars generalizing name left with
  | case1 => cases read
  | case2 =>
      cases read
      simp
  | case3 others ih =>
      rcases Option.map_eq_some_iff.1 read with ⟨⟨inner, rest⟩, innerRead, same⟩
      cases same
      have shorter := ih innerRead
      simp only [List.length_cons]
      omega
  | case4 next others different =>
      cases read
      simp
  | case5 char rest different ih =>
      rcases Option.map_eq_some_iff.1 read with ⟨⟨inner, rest⟩, innerRead, same⟩
      cases same
      have shorter := ih innerRead
      simp only [List.length_cons]
      omega

theorem length_readNumber_le {chars left : List Char} {lexeme : Lexeme}
    (read : readNumber chars = some (lexeme, left)) : left.length ≤ chars.length := by
  unfold readNumber at read
  split at read
  · cases read
  · cases read
    exact (List.dropWhile_sublist _).length_le

theorem length_readParameter_le {chars left : List Char} {lexeme : Lexeme}
    (read : readParameter chars = some (lexeme, left)) : left.length ≤ chars.length := by
  unfold readParameter at read
  split at read
  · have shorter := length_readNumber_le read
    rw [List.length_cons]
    omega
  · cases read

theorem length_readSign_lt {chars left : List Char} {lexeme : Lexeme}
    (read : readSign chars = some (lexeme, left)) : left.length < chars.length := by
  rcases Option.map_eq_some_iff.1 read with ⟨sign, found, same⟩
  cases same
  have member : sign ∈ signs := List.mem_of_find?_eq_some found
  have starts : sign.toList.isPrefixOf chars = true := by simpa using List.find?_some found
  have positive : 0 < sign.toList.length := by
    have nonempty : ∀ sign ∈ signs, 0 < sign.toList.length := by decide
    exact nonempty sign member
  have within : sign.toList.length ≤ chars.length :=
    (List.isPrefixOf_iff_prefix.1 starts).length_le
  rw [List.length_drop]
  omega

/-- Reading a lexeme uses text up. -/
theorem length_scan_lt {quotes : Quotes} {chars left : List Char} {lexeme : Lexeme}
    (read : scan quotes chars = some (lexeme, left)) : left.length < chars.length := by
  cases chars with
  | nil => cases read
  | cons char rest =>
      rw [List.length_cons]
      rw [scan] at read
      split at read
      · rcases Option.map_eq_some_iff.1 read with ⟨⟨content, after⟩, nameRead, same⟩
        cases same
        have shorter := length_readName_lt nameRead
        omega
      · split at read
        · cases read
          have shorter := (List.dropWhile_sublist (l := rest) isWordChar).length_le
          omega
        · split at read
          · cases read
            omega
          · split at read
            · have shorter := length_readNumber_le read
              omega
            · split at read
              · have shorter := length_readParameter_le read
                omega
              · have shorter := length_readSign_lt read
                rwa [List.length_cons] at shorter

/-- The lexemes of a text, if it has only such. -/
def tokenize (quotes : Quotes) : List Char → Option (List Lexeme)
  | [] => some []
  | char :: rest =>
      if char.isWhitespace then tokenize quotes rest
      else
        match _ : scan quotes (char :: rest) with
        | none => none
        | some (lexeme, left) => (tokenize quotes left).map (lexeme :: ·)
termination_by chars => chars.length
decreasing_by
  · exact Nat.lt_succ_self _
  · exact length_scan_lt ‹_›

end Lexeme

end SqlMapper
