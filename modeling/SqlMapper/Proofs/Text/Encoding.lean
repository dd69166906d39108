import Mathlib.Data.List.Forall2
import SqlMapper.Text.Utf8

/-!
# Reading back an encoded text

The bytes that encode a text are read as that text. A character is encoded as a lead byte and at
most three others. The reader bounds each of those by the lead byte: the bounds leave out a code
point written longer than it has to be, a surrogate and what lies past the last code point, and
none of these is what a character is written as.
-/

namespace SqlMapper.Text.Utf8

/-- Each byte is within the bounds listed for it. -/
def Within (bounds : List (Nat × Nat)) (tail : List UInt8) : Prop :=
  List.Forall₂ (fun bound byte => bound.1 ≤ byte.toNat ∧ byte.toNat ≤ bound.2) bounds tail

/-- The reader takes a lead byte and the bytes behind it for the character. -/
def Spells (char : Char) (lead : UInt8) (tail : List UInt8) : Prop :=
  ∃ bounds, following lead.toNat = some bounds ∧ Within bounds tail ∧
    assemble lead.toNat (tail.map UInt8.toNat) = char

theorem walk_append {bounds : List (Nat × Nat)} {tail : List UInt8} (within : Within bounds tail)
    (lead : Nat) (rest : List UInt8) (taken : List Nat) :
    walk lead bounds (tail ++ rest) taken =
      (.char (assemble lead (taken.reverse ++ tail.map UInt8.toNat)),
        taken.length + tail.length) := by
  induction within generalizing taken with
  | nil => simp [walk]
  | cons first _ ih =>
      rw [List.cons_append, walk, if_pos first, ih]
      simp only [List.reverse_cons, List.append_assoc, List.map_cons, List.length_cons,
        List.singleton_append]
      congr 1
      omega

theorem Spells.firstPiece_append {char : Char} {lead : UInt8} {tail : List UInt8}
    (spells : Spells char lead tail) (rest : List UInt8) :
    firstPiece lead (tail ++ rest) = (.char char, tail.length) := by
  obtain ⟨bounds, follow, within, rfl⟩ := spells
  simp only [firstPiece, follow]
  rw [walk_append within]
  simp

theorem Spells.pieces_append {char : Char} {lead : UInt8} {tail : List UInt8}
    (spells : Spells char lead tail) (rest : List UInt8) :
    pieces (lead :: (tail ++ rest)) = (.char char, tail.length + 1) :: pieces rest := by
  rw [pieces, spells.firstPiece_append]
  simp

theorem following_three {code : Nat} (wide : 0x7FF < code) (narrow : code ≤ 0xFFFF)
    (noSurrogate : code < 0xD800 ∨ 0xDFFF < code) :
    ∃ low high, following (code / 4096 % 16 + 224) = some [(low, high), (0x80, 0xBF)] ∧
      low ≤ code / 64 % 64 + 128 ∧ code / 64 % 64 + 128 ≤ high := by
  have notAscii : ¬code / 4096 % 16 + 224 ≤ 0x7F := by omega
  have notTwo : ¬(0xC2 ≤ code / 4096 % 16 + 224 ∧ code / 4096 % 16 + 224 ≤ 0xDF) := by omega
  rw [following, if_neg notAscii, if_neg notTwo]
  by_cases least : code / 4096 % 16 + 224 = 0xE0
  · exact ⟨0xA0, 0xBF, by rw [if_pos least], by omega, by omega⟩
  by_cases surrogates : code / 4096 % 16 + 224 = 0xED
  · exact ⟨0x80, 0x9F, by rw [if_neg least, if_pos surrogates], by omega, by omega⟩
  · refine ⟨0x80, 0xBF, ?_, by omega, by omega⟩
    rw [if_neg least, if_neg surrogates, if_pos (by omega)]

theorem following_four {code : Nat} (wide : 0xFFFF < code) (within : code < 0x110000) :
    ∃ low high,
      following (code / 262144 % 8 + 240) = some [(low, high), (0x80, 0xBF), (0x80, 0xBF)] ∧
        low ≤ code / 4096 % 64 + 128 ∧ code / 4096 % 64 + 128 ≤ high := by
  have notAscii : ¬code / 262144 % 8 + 240 ≤ 0x7F := by omega
  have notTwo : ¬(0xC2 ≤ code / 262144 % 8 + 240 ∧ code / 262144 % 8 + 240 ≤ 0xDF) := by omega
  have notThree : ¬(0xE1 ≤ code / 262144 % 8 + 240 ∧ code / 262144 % 8 + 240 ≤ 0xEF) := by omega
  rw [following, if_neg notAscii, if_neg notTwo, if_neg (by omega), if_neg (by omega),
    if_neg notThree]
  by_cases least : code / 262144 % 8 + 240 = 0xF0
  · exact ⟨0x90, 0xBF, by rw [if_pos least], by omega, by omega⟩
  by_cases middle : 0xF1 ≤ code / 262144 % 8 + 240 ∧ code / 262144 % 8 + 240 ≤ 0xF3
  · exact ⟨0x80, 0xBF, by rw [if_neg least, if_pos middle], by omega, by omega⟩
  · refine ⟨0x80, 0x8F, ?_, by omega, by omega⟩
    rw [if_neg least, if_neg middle, if_pos (by omega)]

theorem toNat_byte {number : Nat} (small : number < 256) : (UInt8.ofNat number).toNat = number :=
  UInt8.toNat_ofNat_of_lt' small

/-- A byte behind the lead byte carries six bits. -/
theorem toNat_tailByte (bits : Nat) : (UInt8.ofNat (bits % 64 + 128)).toNat = bits % 64 + 128 :=
  toNat_byte (by omega)

theorem spells_one {char : Char} (narrow : char.toNat ≤ 0x7F) :
    Spells char (UInt8.ofNat char.toNat) [] := by
  have lead : (UInt8.ofNat char.toNat).toNat = char.toNat := toNat_byte (by omega)
  refine ⟨[], ?_, .nil, ?_⟩
  · rw [lead, following, if_pos narrow]
  · rw [lead]
    exact Char.ofNat_toNat char

theorem spells_two {char : Char} (wide : 0x7F < char.toNat) (narrow : char.toNat ≤ 0x7FF) :
    Spells char (UInt8.ofNat (char.toNat / 64 % 32 + 192))
      [UInt8.ofNat (char.toNat % 64 + 128)] := by
  have lead : (UInt8.ofNat (char.toNat / 64 % 32 + 192)).toNat = char.toNat / 64 % 32 + 192 :=
    toNat_byte (by omega)
  refine ⟨[(0x80, 0xBF)], ?_, .cons ?_ .nil, ?_⟩
  · rw [lead, following, if_neg (by omega), if_pos (by omega)]
  · rw [toNat_tailByte]
    omega
  · rw [lead]
    conv => rhs; rw [← Char.ofNat_toNat char]
    simp only [assemble, List.map_cons, List.map_nil, List.length_cons, List.length_nil,
      List.foldl_cons, List.foldl_nil, toNat_tailByte]
    congr 1
    omega

theorem spells_three {char : Char} (wide : 0x7FF < char.toNat) (narrow : char.toNat ≤ 0xFFFF) :
    Spells char (UInt8.ofNat (char.toNat / 4096 % 16 + 224))
      [UInt8.ofNat (char.toNat / 64 % 64 + 128), UInt8.ofNat (char.toNat % 64 + 128)] := by
  have lead : (UInt8.ofNat (char.toNat / 4096 % 16 + 224)).toNat =
      char.toNat / 4096 % 16 + 224 := toNat_byte (by omega)
  have noSurrogate : char.toNat < 0xD800 ∨ 0xDFFF < char.toNat := char.valid.imp_right And.left
  obtain ⟨low, high, follow, least, greatest⟩ := following_three wide narrow noSurrogate
  refine ⟨_, by rw [lead]; exact follow, .cons ?_ (.cons ?_ .nil), ?_⟩
  · rw [toNat_tailByte]
    exact ⟨least, greatest⟩
  · rw [toNat_tailByte]
    omega
  · rw [lead]
    conv => rhs; rw [← Char.ofNat_toNat char]
    simp only [assemble, List.map_cons, List.map_nil, List.length_cons, List.length_nil,
      List.foldl_cons, List.foldl_nil, toNat_tailByte]
    congr 1
    omega

theorem spells_four {char : Char} (wide : 0xFFFF < char.toNat) :
    Spells char (UInt8.ofNat (char.toNat / 262144 % 8 + 240))
      [UInt8.ofNat (char.toNat / 4096 % 64 + 128), UInt8.ofNat (char.toNat / 64 % 64 + 128),
        UInt8.ofNat (char.toNat % 64 + 128)] := by
  have lead : (UInt8.ofNat (char.toNat / 262144 % 8 + 240)).toNat =
      char.toNat / 262144 % 8 + 240 := toNat_byte (by omega)
  have last : char.toNat < 0x110000 := by
    rcases char.valid with small | ⟨_, large⟩
    · exact Nat.lt_trans small (by decide)
    · exact large
  obtain ⟨low, high, follow, least, greatest⟩ := following_four wide last
  refine ⟨_, by rw [lead]; exact follow, .cons ?_ (.cons ?_ (.cons ?_ .nil)), ?_⟩
  · rw [toNat_tailByte]
    exact ⟨least, greatest⟩
  · rw [toNat_tailByte]
    omega
  · rw [toNat_tailByte]
    omega
  · rw [lead]
    conv => rhs; rw [← Char.ofNat_toNat char]
    simp only [assemble, List.map_cons, List.map_nil, List.length_cons, List.length_nil,
      List.foldl_cons, List.foldl_nil, toNat_tailByte]
    congr 1
    omega

theorem exists_spells (char : Char) :
    ∃ lead tail, String.utf8EncodeChar char = lead :: tail ∧ Spells char lead tail := by
  rw [String.utf8EncodeChar.eq_1]
  split
  next narrow => exact ⟨_, _, rfl, spells_one narrow⟩
  next wide =>
    split
    next narrow => exact ⟨_, _, rfl, spells_two (Nat.lt_of_not_le wide) narrow⟩
    next wider =>
      split
      next narrow => exact ⟨_, _, rfl, spells_three (Nat.lt_of_not_le wider) narrow⟩
      next widest => exact ⟨_, _, rfl, spells_four (Nat.lt_of_not_le widest)⟩

theorem collect_pieces_encoded (chars : List Char) (index : Nat) :
    collect index (pieces (chars.flatMap String.utf8EncodeChar)) = .ok chars := by
  induction chars generalizing index with
  | nil => simp [pieces, collect]
  | cons char rest ih =>
      obtain ⟨lead, tail, encoded, spells⟩ := exists_spells char
      rw [List.flatMap_cons, encoded, List.cons_append, spells.pieces_append, collect, ih]
      rfl

/-- A text is read back from its encoding. -/
@[simp]
theorem decode_encode (text : String) : decode (encode text) = .ok text := by
  rw [decode, encode, collect_pieces_encoded]
  exact congrArg Except.ok (String.ofList_toList)

end SqlMapper.Text.Utf8
