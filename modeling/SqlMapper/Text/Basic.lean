/-!
# Blanks and letter case

Readers of numbers, dates and declared types skip white space in the sense of the Unicode property
`White_Space`, which is wider than the ASCII set: it holds the no-break space, the line and
paragraph separators and the ideographic space.

SQL names, dialect names and declared types match when they differ only in the case of the letters
`A` to `Z`. Letters outside ASCII keep their case: `É` and `é` are different names.
-/

namespace SqlMapper.Text

/-- The character has the Unicode property `White_Space`. -/
def isBlank (char : Char) : Bool :=
  let code := char.toNat
  (0x9 ≤ code && code ≤ 0xD) || code == 0x20 || code == 0x85 || code == 0xA0 || code == 0x1680 ||
    (0x2000 ≤ code && code ≤ 0x200A) || code == 0x2028 || code == 0x2029 || code == 0x202F ||
    code == 0x205F || code == 0x3000

/-- The characters without the blanks they start with. -/
def trimStart (chars : List Char) : List Char :=
  chars.dropWhile isBlank

/-- The characters without the blanks at either end. -/
def trim (chars : List Char) : List Char :=
  (trimStart (trimStart chars).reverse).reverse

/-- A text that starts with no blank is left as it is. -/
theorem trimStart_cons_of_not_blank {char : Char} {rest : List Char}
    (visible : isBlank char = false) :
    trimStart (char :: rest) = char :: rest := by
  simp [trimStart, visible]

/-- The form two names share when they differ in ASCII case only. -/
def foldCase (name : String) : List Char :=
  name.toList.map Char.toLower

/-- The names are equal up to ASCII case. -/
def sameName (left right : String) : Bool :=
  foldCase left == foldCase right

theorem sameName_iff {left right : String} :
    sameName left right = true ↔ foldCase left = foldCase right := by
  simp [sameName]

@[simp]
theorem sameName_refl (name : String) : sameName name name = true := by
  simp [sameName]

theorem sameName_comm (left right : String) : sameName left right = sameName right left := by
  simp only [sameName, BEq.comm]

end SqlMapper.Text
