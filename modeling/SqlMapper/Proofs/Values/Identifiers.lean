import SqlMapper.Uuid

/-!
# Reading back identifiers

An identifier is read from the text it is written as. Of the notations its reader knows, the text is
the one with hyphens only: it is longer than the digits alone, and it starts with a digit, not with
a brace or `urn`.
-/

namespace SqlMapper

namespace Text

theorem hexValue?_digitChar {digit : Nat} (small : digit < 16) :
    hexValue? (Nat.digitChar digit) = some digit := by
  have all : ∀ digit : Fin 16, hexValue? (Nat.digitChar digit) = some digit.val := by decide
  exact all ⟨digit, small⟩

/-- Bytes are read back from their digits. -/
theorem bytesOfHex?_hexOfBytes (bytes : List UInt8) :
    bytesOfHex? (hexOfBytes bytes) = some bytes := by
  induction bytes with
  | nil => rfl
  | cons byte rest ih =>
      have size := byte.toNat_lt
      have high := hexValue?_digitChar (show byte.toNat / 16 < 16 by omega)
      have low := hexValue?_digitChar (show byte.toNat % 16 < 16 by omega)
      have whole : byte.toNat / 16 * 16 + byte.toNat % 16 = byte.toNat := by omega
      have split : hexOfBytes (byte :: rest) = Nat.digitChar (byte.toNat / 16) ::
          Nat.digitChar (byte.toNat % 16) :: hexOfBytes rest := rfl
      rw [split, bytesOfHex?, high, low, ih]
      simp only [Option.bind_eq_bind, Option.bind_some, Option.pure_def, whole, UInt8.ofNat_toNat]

theorem isSome_hexValue?_of_mem {bytes : List UInt8} {char : Char}
    (member : char ∈ hexOfBytes bytes) : (hexValue? char).isSome = true := by
  obtain ⟨byte, -, digit⟩ := List.mem_flatMap.1 member
  have size := byte.toNat_lt
  simp only [hexByte, List.mem_cons, List.not_mem_nil, or_false] at digit
  rcases digit with rfl | rfl
  · rw [hexValue?_digitChar (by omega)]
    rfl
  · rw [hexValue?_digitChar (by omega)]
    rfl

end Text

namespace Uuid

theorem readGrouped?_groups {first second third fourth last : List Char}
    (lengths : first.length = 8 ∧ second.length = 4 ∧ third.length = 4 ∧ fourth.length = 4 ∧
      last.length = 12) :
    readGrouped? (first ++ '-' :: second ++ '-' :: third ++ '-' :: fourth ++ '-' :: last) =
      ofDigits? (first ++ second ++ third ++ fourth ++ last) := by
  obtain ⟨first8, second4, third4, fourth4, last12⟩ := lengths
  rw [readGrouped?, if_pos]
  · simp [List.drop_append, List.drop_of_length_le, first8, second4, third4, fourth4]
  · simp [first8, second4, third4, fourth4, last12]

theorem length_digits (uuid : Uuid) : uuid.digits.length = 32 := by
  rw [digits, Text.length_hexOfBytes, uuid.length_bytes]

theorem readGrouped?_text (uuid : Uuid) : readGrouped? uuid.text = some uuid := by
  have length := uuid.length_digits
  have groups : uuid.digits.take 8 ++ (uuid.digits.drop 8).take 4 ++ (uuid.digits.drop 12).take 4 ++
      (uuid.digits.drop 16).take 4 ++ uuid.digits.drop 20 = uuid.digits := by
    have two := List.take_add (l := uuid.digits) (i := 8) (j := 4)
    have three := List.take_add (l := uuid.digits) (i := 12) (j := 4)
    have four := List.take_add (l := uuid.digits) (i := 16) (j := 4)
    rw [← two, ← three, ← four]
    exact List.take_append_drop 20 uuid.digits
  rw [text, readGrouped?_groups (by simp [length]), groups, ofDigits?, digits,
    Text.bytesOfHex?_hexOfBytes, Option.bind_some, ofBytes?_bytes]

theorem length_text (uuid : Uuid) : uuid.text.length = 36 := by
  simp [text, length_digits]

/-- An identifier is read back from its text, which is none of the other notations: it is longer
than the digits alone, and it starts with a digit. -/
theorem read?_text (uuid : Uuid) : read? uuid.text = some uuid := by
  have grouped := uuid.readGrouped?_text
  have length := uuid.length_text
  have digit (char : Char) (start : uuid.text.head? = some char) :
      (Text.hexValue? char).isSome = true := by
    obtain ⟨first, rest, written⟩ := List.exists_cons_of_length_eq_add_one uuid.length_digits
    obtain rfl : first = char := by simpa [text, written] using start
    have member : first ∈ Text.hexOfBytes uuid.bytes := by
      rw [← digits, written]
      exact List.mem_cons_self
    exact Text.isSome_hexValue?_of_mem member
  generalize uuid.text = chars at *
  unfold read?
  split
  next rest => exact absurd (digit _ rfl) (by decide)
  next rest => exact absurd (digit _ rfl) (by decide)
  next => rw [if_neg (by omega), grouped]

end Uuid

end SqlMapper
