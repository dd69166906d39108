/-!
# UTF-8 with its faults

A byte sequence that should be UTF-8 is split into characters and faults. A fault is a maximal
prefix of a character that the following byte cannot continue, or a prefix that the end of the
sequence cuts off. Reading a text reports the first fault; showing one writes a replacement
character for each.
-/

namespace SqlMapper.Text.Utf8

/-- The bounds, both included, of the bytes that may follow a lead byte, in order; nothing when the
byte starts no character. -/
def following (lead : Nat) : Option (List (Nat × Nat)) :=
  if lead ≤ 0x7F then some []
  else if 0xC2 ≤ lead ∧ lead ≤ 0xDF then some [(0x80, 0xBF)]
  else if lead = 0xE0 then some [(0xA0, 0xBF), (0x80, 0xBF)]
  else if lead = 0xED then some [(0x80, 0x9F), (0x80, 0xBF)]
  else if 0xE1 ≤ lead ∧ lead ≤ 0xEF then some [(0x80, 0xBF), (0x80, 0xBF)]
  else if lead = 0xF0 then some [(0x90, 0xBF), (0x80, 0xBF), (0x80, 0xBF)]
  else if 0xF1 ≤ lead ∧ lead ≤ 0xF3 then some [(0x80, 0xBF), (0x80, 0xBF), (0x80, 0xBF)]
  else if lead = 0xF4 then some [(0x80, 0x8F), (0x80, 0xBF), (0x80, 0xBF)]
  else none

/-- The first part of a byte sequence. -/
inductive Piece where
  /-- A whole character. -/
  | char (char : Char)
  /-- A prefix of a character that the next byte cannot continue. -/
  | invalid
  /-- A prefix of a character at the end of the sequence. -/
  | cutOff
  deriving DecidableEq

/-- The character whose lead byte and following bytes are given. -/
def assemble (lead : Nat) (tail : List Nat) : Char :=
  let payload := match tail.length with
    | 0 => lead
    | 1 => lead % 0x20
    | 2 => lead % 0x10
    | _ => lead % 0x08
  Char.ofNat (tail.foldl (fun code byte => code * 0x40 + byte % 0x40) payload)

/-- Walks the bytes that follow a lead byte while each is within its bounds: the piece, the bytes
taken after the lead, and how many they are. -/
def walk (lead : Nat) : List (Nat × Nat) → List UInt8 → List Nat → Piece × Nat
  | [], _, taken => (.char (assemble lead taken.reverse), taken.length)
  | _ :: _, [], taken => (.cutOff, taken.length)
  | (low, high) :: bounds, byte :: rest, taken =>
      if low ≤ byte.toNat ∧ byte.toNat ≤ high then walk lead bounds rest (byte.toNat :: taken)
      else (.invalid, taken.length)

/-- The first piece of a sequence that starts with a byte, and how many bytes after that byte
belong to it. -/
def firstPiece (lead : UInt8) (rest : List UInt8) : Piece × Nat :=
  match following lead.toNat with
  | none => (.invalid, 0)
  | some bounds => walk lead.toNat bounds rest []

/-- The pieces of a byte sequence, each with the number of bytes it spans. -/
def pieces : List UInt8 → List (Piece × Nat)
  | [] => []
  | lead :: rest =>
      let (piece, more) := firstPiece lead rest
      (piece, more + 1) :: pieces (rest.drop more)
  termination_by bytes => bytes.length

/-- Why and where a byte sequence is not UTF-8. -/
inductive Fault where
  /-- The bytes from an index on start no character; the count is the length of the longest prefix
  of a character among them. -/
  | invalid (length index : Nat)
  /-- The sequence ends inside the character that starts at the index. -/
  | incomplete (index : Nat)
  deriving DecidableEq, Repr

/-- The fault's wording. -/
def Fault.message : Fault → String
  | .invalid length index => s!"invalid utf-8 sequence of {length} bytes from index {index}"
  | .incomplete index => s!"incomplete utf-8 byte sequence from index {index}"

/-- The characters of the pieces, or the first fault among them. -/
def collect (index : Nat) : List (Piece × Nat) → Except Fault (List Char)
  | [] => .ok []
  | (.char char, length) :: rest => do
      let chars ← collect (index + length) rest
      return char :: chars
  | (.invalid, length) :: _ => .error (.invalid length index)
  | (.cutOff, _) :: _ => .error (.incomplete index)

/-- The text that the bytes encode, or the first fault. -/
def decode (bytes : List UInt8) : Except Fault String := do
  let chars ← collect 0 (pieces bytes)
  return String.ofList chars

/-- The character that stands for a fault. -/
def replacement : Char := '\uFFFD'

/-- The characters of the bytes, with a replacement character for each fault. -/
def decodeLossy (bytes : List UInt8) : String :=
  String.ofList <| (pieces bytes).map fun
    | (.char char, _) => char
    | _ => replacement

/-- The bytes that encode a text. -/
def encode (text : String) : List UInt8 :=
  text.toList.flatMap String.utf8EncodeChar

end SqlMapper.Text.Utf8
