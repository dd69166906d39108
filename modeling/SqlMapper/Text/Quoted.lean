import SqlMapper.Text.Extending
import SqlMapper.Text.Hex
import SqlMapper.Text.Unprintable

/-!
# Text quoted in messages

A message shows the text it complains about between double quotation marks. What would end the
quotation, break the line, or leave no mark of its own is written as an escape, so two different
texts are never shown alike.
-/

namespace SqlMapper.Text

/-- The code point lies in one of the ranges. -/
def inRanges (ranges : List (Nat × Nat)) (code : Nat) : Bool :=
  ranges.any fun (low, high) => low ≤ code && code ≤ high

/-- The character stands for itself in a quotation: it has a glyph and does not merge with the
character before it. -/
def isPlain (char : Char) : Bool :=
  if char.toNat < 0x7F then 0x20 ≤ char.toNat
  else !inRanges unprintableRanges char.toNat && !inRanges extendingRanges char.toNat

/-- A character as a quotation shows it. -/
def escapeChar (char : Char) : List Char :=
  match char with
  | '"' => ['\\', '"']
  | '\\' => ['\\', '\\']
  | '\n' => ['\\', 'n']
  | '\r' => ['\\', 'r']
  | '\t' => ['\\', 't']
  | '\x00' => ['\\', '0']
  | _ =>
      if isPlain char then [char]
      else ['\\', 'u', '\x7b'] ++ hexDigits char.toNat ++ ['\x7d']

/-- The text between quotation marks. -/
def quoted (text : String) : String :=
  String.ofList (['"'] ++ text.toList.flatMap escapeChar ++ ['"'])

end SqlMapper.Text
