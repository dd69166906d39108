import Mathlib.Data.List.Basic
import Mathlib.Data.List.TakeWhile
import SqlMapper.Number.DecimalText

/-!
# Reading back numerals

What a reader finds in the digits that a number is written with. A run of digits is as long as the
written number and ends where the text goes on with another character; zeros before a number do not
change its value. A decimal is written with as many digits behind the point as its scale, so its
reader counts the scale back, and a mantissa of 96 bits never fills the reader up.
-/

namespace SqlMapper

namespace Text

/-- A text that starts with no blank and ends with none is left as it is. -/
theorem trim_eq_self {chars : List Char} (first : ∀ char ∈ chars.head?, isBlank char = false)
    (last : ∀ char ∈ chars.getLast?, isBlank char = false) : trim chars = chars := by
  have start {chars : List Char} (visible : ∀ char ∈ chars.head?, isBlank char = false) :
      trimStart chars = chars := by
    cases chars with
    | nil => rfl
    | cons char rest => exact trimStart_cons_of_not_blank (visible char rfl)
  rw [trim, start first, start, List.reverse_reverse]
  rwa [List.head?_reverse]

/-- A text without blanks is left as it is. -/
theorem trim_of_visible {chars : List Char} (visible : ∀ char ∈ chars, isBlank char = false) :
    trim chars = chars :=
  trim_eq_self (fun char member => visible char (List.mem_of_mem_head? member))
    fun char member => visible char (List.mem_of_getLast? member)

/-- Blanks within a text are left as they are. -/
theorem trim_append_cons {left right : List Char} {char : Char} (nonempty : left ≠ [] ∧ right ≠ [])
    (before : ∀ other ∈ left, isBlank other = false)
    (behind : ∀ other ∈ right, isBlank other = false) :
    trim (left ++ char :: right) = left ++ char :: right := by
  apply trim_eq_self
  · rw [List.head?_append_of_ne_nil left nonempty.1]
    exact fun other member => before other (List.mem_of_mem_head? member)
  · rw [List.append_cons, List.getLast?_append_of_ne_nil _ nonempty.2]
    exact fun other member => behind other (List.mem_of_getLast? member)

end Text

namespace Number

theorem isDigit_eq_true_iff {char : Char} : isDigit char = true ↔ '0' ≤ char ∧ char ≤ '9' := by
  simp [isDigit, digitValue?]

theorem isDigit_of_mem_digits {number : Nat} {char : Char} (member : char ∈ digits number) :
    isDigit char = true := by
  have digit := Nat.isDigit_of_mem_toDigits (by decide) (by decide) member
  rw [isDigit_eq_true_iff]
  simpa [Char.isDigit, Char.le_def] using digit

theorem isDigit_of_mem_padded {width number : Nat} {char : Char}
    (member : char ∈ padded width number) : isDigit char = true := by
  rcases List.mem_append.1 member with zero | digit
  · rw [List.eq_of_mem_replicate zero]
    rfl
  · exact isDigit_of_mem_digits digit

theorem not_blank_of_isDigit {char : Char} (digit : isDigit char = true) :
    Text.isBlank char = false := by
  obtain ⟨least, greatest⟩ := isDigit_eq_true_iff.1 digit
  have lower : 48 ≤ char.toNat := Char.le_def.1 least
  have upper : char.toNat ≤ 57 := Char.le_def.1 greatest
  simp only [Text.isBlank]
  grind

theorem digits_ne_nil (number : Nat) : digits number ≠ [] :=
  Nat.toDigits_ne_nil

theorem padded_ne_nil (width number : Nat) : padded width number ≠ [] := by
  simp [padded, digits_ne_nil]

theorem length_padded_of_lt {width number : Nat} (positive : 0 < width)
    (fits : number < Nat.pow 10 width) : (padded width number).length = width := by
  have short : (digits number).length ≤ width :=
    (Nat.length_toDigits_le_iff (by decide) positive).2 fits
  rw [length_padded, Nat.max_eq_left short]

theorem padded_eq_cons (width number : Nat) :
    ∃ first rest, padded width number = first :: rest ∧ isDigit first = true := by
  obtain ⟨first, rest, written⟩ := List.exists_cons_of_ne_nil (padded_ne_nil width number)
  have member : first ∈ padded width number := by
    rw [written]
    exact List.mem_cons_self
  exact ⟨first, rest, written, isDigit_of_mem_padded member⟩

theorem visible_padded (width number : Nat) :
    ∀ char ∈ padded width number, Text.isBlank char = false :=
  fun _ member => not_blank_of_isDigit (isDigit_of_mem_padded member)

theorem valueOfDigits_cons (start : Nat) (char : Char) (rest : List Char) :
    valueOfDigits start (char :: rest) =
      valueOfDigits (start * 10 + (digitValue? char).getD 0) rest := rfl

theorem valueOfDigits_append (start : Nat) (left right : List Char) :
    valueOfDigits start (left ++ right) = valueOfDigits (valueOfDigits start left) right :=
  List.foldl_append

theorem le_valueOfDigits (start : Nat) (chars : List Char) : start ≤ valueOfDigits start chars := by
  induction chars generalizing start with
  | nil => exact Nat.le_refl start
  | cons char rest ih =>
      rw [valueOfDigits_cons]
      exact Nat.le_trans (by omega) (ih _)

theorem valueOfDigits_eq_ofDigitChars {chars : List Char}
    (run : ∀ char ∈ chars, isDigit char = true) (start : Nat) :
    valueOfDigits start chars = Nat.ofDigitChars 10 chars start := by
  induction chars generalizing start with
  | nil => rfl
  | cons char rest ih =>
      have value : digitValue? char = some (char.toNat - '0'.toNat) :=
        if_pos (isDigit_eq_true_iff.1 (run char List.mem_cons_self))
      have others (other : Char) (member : other ∈ rest) : isDigit other = true :=
        run other (List.mem_cons_of_mem _ member)
      rw [valueOfDigits_cons, value, ih others, Nat.ofDigitChars_cons, Nat.mul_comm]
      rfl

@[simp]
theorem valueOfDigits_digits (number : Nat) : valueOfDigits 0 (digits number) = number := by
  rw [valueOfDigits_eq_ofDigitChars fun _ => isDigit_of_mem_digits]
  exact Nat.ofDigitChars_ten_toDigits

@[simp]
theorem valueOfDigits_padded (width number : Nat) :
    valueOfDigits 0 (padded width number) = number := by
  have zeros (count : Nat) : valueOfDigits 0 (List.replicate count '0') = 0 := by
    induction count with
    | zero => rfl
    | succ count ih => exact ih
  rw [padded, valueOfDigits_append, zeros, valueOfDigits_digits]

namespace Decimal

/-- The decimal, its sign lost if it is a zero. -/
def unsignedZero (decimal : Decimal) : Decimal :=
  { decimal with negative := decimal.negative && decimal.mantissa != 0 }

/-- Only the sign of a zero is lost, so the number and its scale stay. -/
theorem equals_unsignedZero (decimal : Decimal) :
    decimal.equals decimal.unsignedZero = true := by
  have same : decimal.unsignedZero.signedMantissa = decimal.signedMantissa := by
    by_cases zero : decimal.mantissa = 0 <;> simp [signedMantissa, unsignedZero, zero]
  have scale : decimal.unsignedZero.scale = decimal.scale := rfl
  simp [equals, same, scale]

/-- A digit joins the mantissa as long as the mantissa and the places behind the point allow it. -/
theorem readDigits_cons_digit {char : Char} {pointSeen : Bool} {before : Before} {number : Unsigned}
    {rest : List Char} (digit : isDigit char = true)
    (fits : valueOfDigits number.mantissa [char] < mantissaBound)
    (places : pointSeen = true → number.scale < maxScale) :
    readDigits pointSeen before number (char :: rest) =
      readDigits pointSeen .digit
        ⟨valueOfDigits number.mantissa [char],
          if pointSeen then number.scale + 1 else number.scale⟩ rest := by
  obtain ⟨value, found⟩ := Option.isSome_iff_exists.1 digit
  have unfinished : placesEnd pointSeen number = false := by
    cases pointSeen with
    | false => rfl
    | true => simpa [placesEnd] using places rfl
  have sum : valueOfDigits number.mantissa [char] = number.mantissa * 10 + value := by
    simp [valueOfDigits, found]
  rw [sum] at fits ⊢
  simp [readDigits, found, unfinished, fits]

/-- What was read last once a run of digits is read. -/
def Before.afterRun (before : Before) (run : List Char) : Before :=
  if run.isEmpty then before else .digit

/-- A run of digits joins the mantissa one after the other. -/
theorem readDigits_append {run : List Char} (digits : ∀ char ∈ run, isDigit char = true)
    (pointSeen : Bool) (before : Before) (number : Unsigned) (rest : List Char)
    (fits : valueOfDigits number.mantissa run < mantissaBound)
    (places : pointSeen = true → number.scale + run.length ≤ maxScale) :
    readDigits pointSeen before number (run ++ rest) =
      readDigits pointSeen (before.afterRun run)
        ⟨valueOfDigits number.mantissa run,
          if pointSeen then number.scale + run.length else number.scale⟩ rest := by
  induction run generalizing before number with
  | nil => cases pointSeen <;> rfl
  | cons char run ih =>
      have split := valueOfDigits_append number.mantissa [char] run
      rw [List.singleton_append] at split
      rw [split] at fits
      have first := Nat.lt_of_le_of_lt (le_valueOfDigits _ run) fits
      have room (seen : pointSeen = true) : number.scale + (run.length + 1) ≤ maxScale :=
        places seen
      rw [List.cons_append, readDigits_cons_digit (digits char List.mem_cons_self) first
        fun seen => by have := room seen; omega]
      rw [ih (fun other member => digits other (List.mem_cons_of_mem _ member)) _ _ fits
        fun seen => by simpa [seen, Nat.add_assoc, Nat.add_comm 1] using room seen]
      cases pointSeen <;> simp [split, Before.afterRun, Nat.add_assoc, Nat.add_comm 1]

theorem Before.afterRun_of_ne_nil {run : List Char} (nonempty : run ≠ []) (before : Before) :
    before.afterRun run = .digit := by
  simp [afterRun, nonempty]

theorem Before.afterRun_digit (run : List Char) : Before.digit.afterRun run = .digit :=
  ite_self _

/-- Digits without a point are the mantissa of a decimal of scale zero. -/
theorem readDigits_whole {whole : List Char} (digits : ∀ char ∈ whole, isDigit char = true)
    (nonempty : whole ≠ []) (fits : valueOfDigits 0 whole < mantissaBound) :
    readDigits false .start ⟨0, 0⟩ whole = .ok ⟨valueOfDigits 0 whole, 0⟩ := by
  have read := readDigits_append digits false .start ⟨0, 0⟩ [] fits nofun
  rw [List.append_nil, Before.afterRun_of_ne_nil nonempty] at read
  exact read

/-- Digits on both sides of a point are the mantissa, and those behind it are counted. -/
theorem readDigits_point {whole fraction : List Char}
    (digits : ∀ char ∈ whole ++ fraction, isDigit char = true) (nonempty : whole ≠ [])
    (fits : valueOfDigits 0 (whole ++ fraction) < mantissaBound)
    (places : fraction.length ≤ maxScale) :
    readDigits false .start ⟨0, 0⟩ (whole ++ '.' :: fraction) =
      .ok ⟨valueOfDigits 0 (whole ++ fraction), fraction.length⟩ := by
  rw [valueOfDigits_append] at fits ⊢
  have wholeFits := Nat.lt_of_le_of_lt (le_valueOfDigits _ fraction) fits
  have before := readDigits_append (fun char member => digits char (List.mem_append_left _ member))
    false .start ⟨0, 0⟩ ('.' :: fraction) wholeFits nofun
  have behind := readDigits_append (fun char member => digits char (List.mem_append_right _ member))
    true .digit ⟨valueOfDigits 0 whole, 0⟩ [] fits (fun _ => by simpa using places)
  have step : readDigits false .digit ⟨valueOfDigits 0 whole, 0⟩ ('.' :: fraction) =
      readDigits true .digit ⟨valueOfDigits 0 whole, 0⟩ fraction := rfl
  rw [List.append_nil, Before.afterRun_digit] at behind
  rw [before, Before.afterRun_of_ne_nil nonempty]
  rw [← Nat.zero_add fraction.length]
  exact step.trans behind

/-- The digits of a positional notation are counted back: the mantissa from all of them, the scale
from those behind the point. -/
theorem readDigits_positional {mantissa scale : Nat} (fits : mantissa < mantissaBound)
    (places : scale ≤ maxScale) :
    readDigits false .start ⟨0, 0⟩ (positional mantissa scale) = .ok ⟨mantissa, scale⟩ := by
  rw [positional]
  split
  next zero =>
    have read := readDigits_whole (fun _ => isDigit_of_mem_digits) (digits_ne_nil mantissa)
      (by simpa using fits)
    rw [read, valueOfDigits_digits, zero]
  next =>
    have long : scale < (padded (scale + 1) mantissa).length := by
      rw [length_padded]
      omega
    have value := valueOfDigits_padded (scale + 1) mantissa
    have run (char : Char) (member : char ∈ padded (scale + 1) mantissa) : isDigit char = true :=
      isDigit_of_mem_padded member
    generalize padded (scale + 1) mantissa = written at *
    have nonempty : written.take (written.length - scale) ≠ [] := by
      rw [← List.length_pos_iff, List.length_take]
      omega
    have behind : (written.drop (written.length - scale)).length = scale := by
      rw [List.length_drop]
      omega
    have whole := List.take_append_drop (written.length - scale) written
    rw [readDigits_point (by rwa [whole]) nonempty (by rwa [whole, value]) (by rwa [behind]), whole,
      value, behind]

theorem isDigit_or_point_of_mem_positional {mantissa scale : Nat} {char : Char}
    (member : char ∈ positional mantissa scale) : isDigit char = true ∨ char = '.' := by
  rw [positional] at member
  split at member
  · exact .inl (isDigit_of_mem_digits member)
  · rcases List.mem_append.1 member with whole | behind
    · exact .inl (isDigit_of_mem_padded (List.mem_of_mem_take whole))
    rcases List.mem_cons.1 behind with point | fraction
    · exact .inr point
    · exact .inl (isDigit_of_mem_padded (List.mem_of_mem_drop fraction))

theorem mem_text {decimal : Decimal} {char : Char} (member : char ∈ decimal.text) :
    isDigit char = true ∨ char = '.' ∨ char = '-' := by
  rcases List.mem_append.1 member with sign | number
  · rw [signText] at sign
    split at sign
    · exact .inr (.inr (List.mem_singleton.1 sign))
    · cases sign
  · exact (isDigit_or_point_of_mem_positional number).imp_right .inl

theorem trim_text (decimal : Decimal) : Text.trim decimal.text = decimal.text := by
  refine Text.trim_of_visible fun char member => ?_
  rcases mem_text member with digit | rfl | rfl
  · exact not_blank_of_isDigit digit
  · rfl
  · rfl

theorem withSign_parts (decimal : Decimal) :
    withSign decimal.negative ⟨decimal.mantissa, decimal.scale⟩ = .ok decimal.unsignedZero := by
  have scale : decimal.scale % (maxScale + 1) = decimal.scale :=
    Nat.mod_eq_of_lt (Nat.lt_succ_of_le decimal.scale_le)
  simp only [withSign, scale, ofParts?, decimal.mantissa_lt, decimal.scale_le, and_self, dif_pos]
  rfl

/-- Behind an optional sign the digits of a positional notation are read, and no sign is one of
them. -/
theorem readPlain_text (decimal : Decimal) : readPlain decimal.text = .ok decimal.unsignedZero := by
  have number := readDigits_positional decimal.mantissa_lt decimal.scale_le
  have parts := withSign_parts decimal
  have chars (char : Char) (member : char ∈ positional decimal.mantissa decimal.scale) :
      isDigit char = true ∨ char = '.' := isDigit_or_point_of_mem_positional member
  rw [text, signText]
  generalize positional decimal.mantissa decimal.scale = written at number chars ⊢
  cases sign : decimal.negative with
  | true =>
      rw [sign] at parts
      show (do withSign true (← readDigits false .start ⟨0, 0⟩ written)) = _
      rw [number]
      exact parts
  | false =>
      rw [sign] at parts
      rw [if_neg Bool.false_ne_true, List.nil_append]
      unfold readPlain
      split
      next => cases number
      next => exact absurd (chars '-' List.mem_cons_self) (by decide)
      next => exact absurd (chars '+' List.mem_cons_self) (by decide)
      next =>
        rw [number]
        exact parts

/-- A decimal is read back from its text with the scale it has. -/
theorem read_text (decimal : Decimal) : read decimal.text = .ok decimal.unsignedZero := by
  have plain : decimal.text.dropWhile (!isExponentMark ·) = [] := by
    rw [List.dropWhile_eq_nil_iff]
    intro char member
    cases mark : isExponentMark char with
    | false => rfl
    | true =>
      have letter : char = 'e' ∨ char = 'E' := by simpa [isExponentMark] using mark
      rcases letter with rfl | rfl <;> exact absurd (mem_text member) (by decide)
  rw [read, plain]
  exact readPlain_text decimal

end Decimal

end Number

end SqlMapper
