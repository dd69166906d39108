/-!
# Hexadecimal digits

Bytes are written as two lowercase digits; digits are read in either case.
-/

namespace SqlMapper.Text

/-- The value of a hexadecimal digit. -/
def hexValue? (char : Char) : Option Nat :=
  if '0' ≤ char ∧ char ≤ '9' then some (char.toNat - '0'.toNat)
  else if 'a' ≤ char ∧ char ≤ 'f' then some (char.toNat - 'a'.toNat + 10)
  else if 'A' ≤ char ∧ char ≤ 'F' then some (char.toNat - 'A'.toNat + 10)
  else none

/-- The lowercase hexadecimal digits of a number, without leading zeros. -/
def hexDigits (number : Nat) : List Char :=
  Nat.toDigits 16 number

/-- The two lowercase digits of a byte. -/
def hexByte (byte : UInt8) : List Char :=
  [Nat.digitChar (byte.toNat / 16), Nat.digitChar (byte.toNat % 16)]

/-- The digits of the bytes, two for each. -/
def hexOfBytes (bytes : List UInt8) : List Char :=
  bytes.flatMap hexByte

/-- The bytes whose digits are given; nothing when a digit is wrong or left over. -/
def bytesOfHex? : List Char → Option (List UInt8)
  | [] => some []
  | high :: low :: rest => do
      let high ← hexValue? high
      let low ← hexValue? low
      let rest ← bytesOfHex? rest
      return UInt8.ofNat (high * 16 + low) :: rest
  | [_] => none

@[simp]
theorem length_hexOfBytes (bytes : List UInt8) : (hexOfBytes bytes).length = 2 * bytes.length := by
  induction bytes with
  | nil => rfl
  | cons byte rest ih =>
      have written : hexOfBytes (byte :: rest) = hexByte byte ++ hexOfBytes rest := rfl
      rw [written, List.length_append, ih, List.length_cons]
      simp only [hexByte, List.length_cons, List.length_nil]
      omega

end SqlMapper.Text
