import SqlMapper.Text.Hex

/-!
# Universally unique identifiers

Sixteen bytes, written as lowercase hexadecimal digits in groups of eight, four, four, four and
twelve. A reader also takes the digits without hyphens, and the grouped form in braces or behind
`urn:uuid:`.
-/

namespace SqlMapper

/-- An identifier of sixteen bytes. -/
structure Uuid where
  bytes : List UInt8
  length_bytes : bytes.length = 16
  deriving DecidableEq

namespace Uuid

/-- The identifier with these bytes, if they are sixteen. -/
def ofBytes? (bytes : List UInt8) : Option Uuid :=
  if sixteen : bytes.length = 16 then some ⟨bytes, sixteen⟩ else none

@[simp]
theorem ofBytes?_bytes (uuid : Uuid) : ofBytes? uuid.bytes = some uuid := by
  simp [ofBytes?, uuid.length_bytes]

/-- The identifier with these hexadecimal digits, if they are thirty-two. -/
def ofDigits? (chars : List Char) : Option Uuid :=
  (Text.bytesOfHex? chars).bind ofBytes?

/-- The identifier's digits without hyphens. -/
def digits (uuid : Uuid) : List Char :=
  Text.hexOfBytes uuid.bytes

/-- The identifier with hyphens between its groups of digits. -/
def text (uuid : Uuid) : List Char :=
  let chars := uuid.digits
  chars.take 8 ++ '-' :: (chars.drop 8).take 4 ++ '-' :: (chars.drop 12).take 4 ++
    '-' :: (chars.drop 16).take 4 ++ '-' :: chars.drop 20

/-- Reads thirty-two digits with hyphens exactly between the groups. -/
def readGrouped? (chars : List Char) : Option Uuid :=
  if chars.length = 36 ∧ chars[8]? = some '-' ∧ chars[13]? = some '-' ∧ chars[18]? = some '-' ∧
      chars[23]? = some '-' then
    ofDigits? (chars.take 8 ++ (chars.drop 9).take 4 ++ (chars.drop 14).take 4 ++
      (chars.drop 19).take 4 ++ chars.drop 24)
  else none

/-- Reads an identifier in any of its notations. -/
def read? (chars : List Char) : Option Uuid :=
  match chars with
  | '\x7b' :: rest =>
      if rest.getLast? = some '\x7d' then readGrouped? rest.dropLast else none
  | 'u' :: 'r' :: 'n' :: ':' :: 'u' :: 'u' :: 'i' :: 'd' :: ':' :: rest => readGrouped? rest
  | _ => if chars.length = 32 then ofDigits? chars else readGrouped? chars

end Uuid

end SqlMapper
