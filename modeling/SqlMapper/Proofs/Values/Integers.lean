import Mathlib.Data.Rat.Floor
import Mathlib.Tactic.FieldSimp
import Mathlib.Tactic.Linarith
import Mathlib.Tactic.Positivity
import SqlMapper.Proofs.Steps
import SqlMapper.Value.Coercion

/-!
# Integers out of numbers

Four kinds of values denote a number: truth values, integers, decimals and the finite binary
numbers. What they denote is a rational number, and this file compares it with the 64-bit integer
that the value converts to.

A number that is a 64-bit integer always converts to itself. Beside that a value either does not
convert, or changes in one of two ways: a decimal loses its fraction, as long as what is left of it
is a 64-bit integer, and a whole binary number beyond the 64-bit integers becomes the last of them.
Narrower integers and the arguments and columns of the integer type go through the same conversion.
-/

namespace SqlMapper

namespace Number

theorem two_zpow_eq_div (exponent : ℤ) :
    (2 : ℚ) ^ exponent = (2 ^ exponent.toNat : ℕ) / (2 ^ (-exponent).toNat : ℕ) := by
  rcases Int.le_total 0 exponent with up | down
  · obtain ⟨above, rfl⟩ := Int.eq_ofNat_of_zero_le up
    simp
  · obtain ⟨below, rfl⟩ := Int.exists_eq_neg_ofNat down
    simp

/-- The rational number that a finite number denotes. -/
def Binary64.number? (real : Binary64) : Option ℚ :=
  match real.meaning with
  | .finite negative mantissa exponent =>
      some ((if negative then -1 else 1) * (mantissa * 2 ^ exponent))
  | _ => none

/-- The rational number that a decimal denotes. -/
def Decimal.number (decimal : Decimal) : ℚ :=
  decimal.signedMantissa / 10 ^ decimal.scale

/-- A number without its fraction. -/
def towardZero (number : ℚ) : ℤ :=
  if number < 0 then ⌈number⌉ else ⌊number⌋

@[simp]
theorem towardZero_intCast (whole : ℤ) : towardZero whole = whole := by
  simp [towardZero]

theorem towardZero_neg (number : ℚ) : towardZero (-number) = -towardZero number := by
  rcases lt_trichotomy number 0 with below | rfl | above
  · simp [towardZero, below, not_lt.2 below.le, Int.floor_neg]
  · rfl
  · simp [towardZero, above, not_lt.2 above.le, Int.ceil_neg]

theorem towardZero_natCast_div (mantissa unit : ℕ) :
    towardZero (mantissa / unit) = (mantissa / unit : ℕ) := by
  have positive : ¬(mantissa / unit : ℚ) < 0 := not_lt.2 (by positivity)
  rw [towardZero, if_neg positive, Rat.floor_natCast_div_natCast]
  rfl

theorem Decimal.truncate_eq_towardZero (decimal : Decimal) :
    decimal.truncate = towardZero decimal.number := by
  have magnitude := towardZero_natCast_div decimal.mantissa (10 ^ decimal.scale)
  push_cast at magnitude
  cases sign : decimal.negative with
  | false => simp [truncate, number, signedMantissa, sign, magnitude]
  | true => simp [truncate, number, signedMantissa, sign, neg_div, towardZero_neg, magnitude]

/-- A mantissa is scaled by a power of two upwards or downwards, so that it is whole afterwards just
when it leaves no remainder. -/
theorem eq_scaled_iff {mantissa above below : ℕ} (positive : 0 < below)
    (oneWay : above = 1 ∨ below = 1) {whole : ℤ} :
    (whole : ℚ) = mantissa * (above / below) ↔
      mantissa % below = 0 ∧ whole = (mantissa * above / below : ℕ) := by
  rcases oneWay with rfl | rfl
  · have divisor : (below : ℚ) ≠ 0 := by positivity
    rw [Nat.cast_one, mul_one_div, eq_div_iff divisor, Nat.mul_one]
    constructor
    · intro equal
      have product : whole * below = mantissa := by exact_mod_cast equal
      have nonneg : 0 ≤ whole := by
        refine Int.nonneg_of_mul_nonneg_left ?_ (Int.natCast_pos.2 positive)
        omega
      obtain ⟨quotient, rfl⟩ := Int.eq_ofNat_of_zero_le nonneg
      have multiple : quotient * below = mantissa := by exact_mod_cast product
      rw [← multiple, Nat.mul_mod_left, Nat.mul_div_cancel _ positive]
      exact ⟨rfl, rfl⟩
    · rintro ⟨exact, rfl⟩
      exact_mod_cast Nat.div_mul_cancel (Nat.dvd_of_mod_eq_zero exact)
  · have plain : (mantissa : ℚ) * (above / (1 : ℕ)) = (mantissa * above : ℕ) := by
      push_cast
      ring
    rw [plain, Nat.mod_one, Nat.div_one]
    norm_cast
    simp

/-- A binary number is whole just when what it denotes is. -/
theorem Binary64.toInt?_eq_some_iff {real : Binary64} {number : ℚ} {whole : ℤ}
    (denotes : real.number? = some number) :
    real.toInt? = some whole ↔ (whole : ℚ) = number := by
  rw [number?] at denotes
  cases found : real.meaning with
  | notANumber => simp [found] at denotes
  | infinite => simp [found] at denotes
  | finite negative mantissa exponent =>
      simp only [found, Option.some.injEq] at denotes
      subst number
      have oneWay : 2 ^ exponent.toNat = 1 ∨ 2 ^ (-exponent).toNat = 1 := by
        rcases Int.le_total 0 exponent with up | down
        · right
          rw [show (-exponent).toNat = 0 by omega, Nat.pow_zero]
        · left
          rw [show exponent.toNat = 0 by omega, Nat.pow_zero]
      have positive := Nat.two_pow_pos (-exponent).toNat
      simp only [toInt?, found, two_zpow_eq_div, Nat.pow_eq]
      generalize 2 ^ exponent.toNat = above at oneWay ⊢
      generalize 2 ^ (-exponent).toNat = below at positive oneWay ⊢
      have scaled : ∀ whole : ℤ, (whole : ℚ) = mantissa * (above / below) ↔
          mantissa % below = 0 ∧ whole = (mantissa * above / below : ℕ) :=
        fun whole => eq_scaled_iff positive oneWay
      cases negative with
      | false =>
          simp only [Bool.false_eq_true, reduceIte, one_mul, scaled]
          split
          · next exact => simp [exact, eq_comm]
          · next inexact => simp [inexact]
      | true =>
          have opposite : (whole : ℚ) = -1 * (mantissa * (above / below)) ↔
              ((-whole : ℤ) : ℚ) = mantissa * (above / below) := by
            push_cast
            rw [neg_one_mul, eq_neg_iff_add_eq_zero, neg_eq_iff_add_eq_zero]
          simp only [reduceIte, opposite, scaled]
          split
          · next exact =>
            rw [Option.some.injEq, neg_eq_iff_eq_neg, eq_comm]
            simp [exact]
          · next inexact => simp [inexact]

end Number

open Number

theorem leastInteger_le (whole : Int64) : leastInteger ≤ whole.toInt :=
  whole.le_toInt

theorem le_greatestInteger_toInt (whole : Int64) : whole.toInt ≤ greatestInteger :=
  Int.le_of_lt_add_one whole.toInt_lt

theorem toInt_ofInt_of_inside {whole : ℤ} (least : leastInteger ≤ whole)
    (greatest : whole ≤ greatestInteger) : (Int64.ofInt whole).toInt = whole :=
  Int64.toInt_ofInt_of_le least (Int.lt_add_one_of_le greatest)

theorem toInt_clampInteger (whole : ℤ) :
    (clampInteger whole).toInt = max leastInteger (min whole greatestInteger) := by
  have bounds : leastInteger ≤ greatestInteger := by decide
  exact toInt_ofInt_of_inside (by omega) (by omega)

namespace Value

/-- The number that a value denotes, if it denotes one. -/
def number? : Value → Option ℚ
  | boolean flag => some (if flag then 1 else 0)
  | integer number => some number.toInt
  | real number => number.number?
  | decimal number => some number.number
  | _ => none

/-- The conversion to an integer makes another number of the value. -/
inductive ChangesTo : Value → ℤ → Prop where
  /-- A decimal loses its fraction. -/
  | withoutFraction {number : Decimal} (fraction : (towardZero number.number : ℚ) ≠ number.number) :
      ChangesTo (decimal number) (towardZero number.number)
  /-- A whole number above all 64-bit integers becomes the greatest of them. -/
  | greatest {number : Binary64} {whole : ℤ} (denotes : number.number? = some (whole : ℚ))
      (beyond : greatestInteger < whole) : ChangesTo (real number) greatestInteger
  /-- A whole number below all 64-bit integers becomes the least of them. -/
  | least {number : Binary64} {whole : ℤ} (denotes : number.number? = some (whole : ℚ))
      (beyond : whole < leastInteger) : ChangesTo (real number) leastInteger

/-- The integer is the number that the value denotes, or what the conversion makes of it. -/
def Yields (value : Value) (number : ℚ) (whole : ℤ) : Prop :=
  (whole : ℚ) = number ∨ value.ChangesTo whole

variable {value : Value} {number : ℚ}

/-- A decimal converts to its integer part, if that is a 64-bit integer. -/
theorem toInteger_decimal_eq_ok_iff {decimal : Decimal} {whole : Int64} :
    (Value.decimal decimal).toInteger = .ok whole ↔ whole.toInt = towardZero decimal.number := by
  simp only [toInteger, ← decimal.truncate_eq_towardZero]
  split
  · next inside =>
    rw [Except.ok.injEq, ← Int64.toInt_inj, toInt_ofInt_of_inside inside.1 inside.2, eq_comm]
  · next outside =>
    refine iff_of_false (by simp) fun equal => outside ?_
    rw [← equal]
    exact ⟨leastInteger_le whole, le_greatestInteger_toInt whole⟩

/-- A binary number converts to the 64-bit integer nearest to it, if it is whole. -/
theorem toInteger_real_eq_ok_iff {real : Binary64} (denotes : real.number? = some number)
    {whole : Int64} :
    (Value.real real).toInteger = .ok whole ↔
      ∃ exact : ℤ, (exact : ℚ) = number ∧
        whole.toInt = max leastInteger (min exact greatestInteger) := by
  simp only [← Binary64.toInt?_eq_some_iff denotes, ← toInt_clampInteger, Int64.toInt_inj,
    toInteger]
  cases real.toInt? with
  | none => simp [mismatch]
  | some exact => simp [eq_comm]

theorem yields_decimal_iff {decimal : Decimal} {whole : ℤ} :
    (Value.decimal decimal).Yields decimal.number whole ↔ whole = towardZero decimal.number := by
  constructor
  · rintro (exact | changes)
    · rw [← exact, towardZero_intCast]
    · cases changes
      rfl
  · rintro rfl
    by_cases exact : (towardZero decimal.number : ℚ) = decimal.number
    · exact Or.inl exact
    · exact Or.inr (.withoutFraction exact)

theorem yields_real_iff {real : Binary64} (denotes : real.number? = some number) {whole : Int64} :
    (Value.real real).Yields number whole.toInt ↔
      ∃ exact : ℤ, (exact : ℚ) = number ∧
        whole.toInt = max leastInteger (min exact greatestInteger) := by
  have bounds : leastInteger ≤ greatestInteger := by decide
  have least := leastInteger_le whole
  have greatest := le_greatestInteger_toInt whole
  constructor
  · rintro (exact | changes)
    · exact ⟨whole.toInt, exact, by omega⟩
    · generalize whole.toInt = changed at changes least greatest ⊢
      cases changes with
      | @greatest _ exact there beyond =>
          exact ⟨exact, Option.some.inj (there.symm.trans denotes), by omega⟩
      | @least _ exact there beyond =>
          exact ⟨exact, Option.some.inj (there.symm.trans denotes), by omega⟩
  · rintro ⟨exact, rfl, clamped⟩
    rcases lt_or_ge greatestInteger exact with above | inside
    · rw [show whole.toInt = greatestInteger by omega]
      exact Or.inr (.greatest denotes above)
    · rcases lt_or_ge exact leastInteger with below | inside
      · rw [show whole.toInt = leastInteger by omega]
        exact Or.inr (.least denotes below)
      · exact Or.inl (by rw [show whole.toInt = exact by omega])

theorem yields_of_unchanged {whole : ℤ} (unchanged : ∀ whole, ¬value.ChangesTo whole) :
    value.Yields number whole ↔ (whole : ℚ) = number :=
  or_iff_left (unchanged whole)

/-- A value that denotes a number converts to a 64-bit integer if that is the number or one of the
changes, and otherwise not. -/
theorem toInteger_eq_ok_iff (denotes : value.number? = some number) {whole : Int64} :
    value.toInteger = .ok whole ↔ value.Yields number whole.toInt := by
  cases value with
  | boolean flag =>
      have unchanged : ∀ whole, ¬(Value.boolean flag).ChangesTo whole := fun _ => nofun
      simp only [number?, Option.some.injEq] at denotes
      rw [yields_of_unchanged unchanged, ← denotes, toInteger, Except.ok.injEq,
        ← Int64.toInt_inj, eq_comm]
      cases flag <;> norm_cast
  | integer given =>
      have unchanged : ∀ whole, ¬(Value.integer given).ChangesTo whole := fun _ => nofun
      simp only [number?, Option.some.injEq] at denotes
      rw [yields_of_unchanged unchanged, ← denotes, toInteger, Except.ok.injEq,
        ← Int64.toInt_inj, eq_comm]
      norm_cast
  | real given =>
      rw [toInteger_real_eq_ok_iff denotes, yields_real_iff denotes]
  | decimal given =>
      simp only [number?, Option.some.injEq] at denotes
      rw [toInteger_decimal_eq_ok_iff, ← denotes, yields_decimal_iff]
  | null | text | blob | date | time | timestamp | uuid => cases denotes

theorem toInteger32_eq_ok_iff {narrow : Int32} :
    value.toInteger32 = .ok narrow ↔
      ∃ wide, value.toInteger = .ok wide ∧ wide.toInt = narrow.toInt := by
  have smallest : Int32.minValue.toInt = -2147483648 := rfl
  have largest : Int32.maxValue.toInt = 2147483647 := rfl
  simp only [toInteger32, bind_eq_ok, guard_eq_ok, pure_eq_ok, smallest, largest]
  refine exists_congr fun wide => and_congr_right fun _ => ?_
  constructor
  · rintro ⟨above, below, rfl⟩
    exact (Int32.toInt_ofInt_of_le (by omega) (by omega)).symm
  · intro same
    have least := narrow.le_toInt
    have greatest := narrow.toInt_lt
    exact ⟨by omega, by omega, by rw [same, Int32.ofInt_toInt]⟩

theorem coerce_integer (denotes : value.number? = some number) :
    SqlType.integer.coerce value = (value.toInteger.map .integer).mapError .conversion := by
  cases value with
  | null => cases denotes
  | _ => rfl

theorem coerce_integer_eq_ok_iff (denotes : value.number? = some number) {result : Value} :
    SqlType.integer.coerce value = .ok result ↔
      ∃ whole : Int64, result = .integer whole ∧ value.Yields number whole.toInt := by
  simp only [coerce_integer denotes, mapError_eq_ok, map_eq_ok, toInteger_eq_ok_iff denotes]
  constructor
  · rintro ⟨whole, yields, same⟩
    exact ⟨whole, same.symm, yields⟩
  · rintro ⟨whole, same, yields⟩
    exact ⟨whole, yields, same.symm⟩

/-- Every conversion to an integer gives the number itself or one of the changes, and refuses what
is neither: to 64 and to 32 bits, of arguments and of columns. -/
theorem integer_conversions_yield (value : Value) (number : ℚ)
    (denotes : value.number? = some number) :
    (∀ whole : Int64, value.toInteger = .ok whole ↔ value.Yields number whole.toInt) ∧
      (∀ narrow : Int32, value.toInteger32 = .ok narrow ↔ value.Yields number narrow.toInt) ∧
      (∀ result, SqlType.integer.encode value = .ok result ↔
        ∃ whole : Int64, result = .integer whole ∧ value.Yields number whole.toInt) ∧
      (∀ result, SqlType.integer.decode value = .ok result ↔
        ∃ whole : Int64, result = .integer whole ∧ value.Yields number whole.toInt) ∧
      ∀ error, SqlType.integer.encode value = .error error ∨
        SqlType.integer.decode value = .error error → ∃ fault, error = .conversion fault := by
  refine ⟨fun whole => toInteger_eq_ok_iff denotes, fun narrow => ?_,
    fun result => coerce_integer_eq_ok_iff denotes,
    fun result => coerce_integer_eq_ok_iff denotes, fun error failed => ?_⟩
  · rw [toInteger32_eq_ok_iff]
    simp only [toInteger_eq_ok_iff denotes]
    constructor
    · rintro ⟨wide, yields, same⟩
      rwa [← same]
    · intro yields
      -- A narrow integer is a wide one, so the wide conversion gives it first.
      have least := narrow.le_toInt
      have greatest := narrow.toInt_lt
      have same : (Int64.ofInt narrow.toInt).toInt = narrow.toInt :=
        Int64.toInt_ofInt_of_le (by omega) (by omega)
      exact ⟨Int64.ofInt narrow.toInt, by rwa [same], same⟩
  · have coerced : SqlType.integer.coerce value = .error error := failed.elim id id
    exact SqlType.coerce_eq_error coerced

/-- Two and a half. -/
def twoAndAHalf : Decimal :=
  ⟨false, 25, 1, by decide, by decide⟩

/-- A whole number beyond the 64-bit integers, ten to the nineteenth. -/
def tenQuintillion : Binary64 :=
  ⟨0x43E158E460913D00⟩

theorem number?_twoAndAHalf : (Value.decimal twoAndAHalf).number? = some (5 / 2) := by
  simp only [number?, Decimal.number, Decimal.signedMantissa, twoAndAHalf]
  norm_num

theorem number?_tenQuintillion : (Value.real tenQuintillion).number? = some (10 ^ 19) := by
  have meaning : tenQuintillion.meaning = .finite false 4882812500000000 11 := by decide
  simp only [number?, Binary64.number?, meaning]
  norm_num

/-- A decimal without its fraction is what a narrow integer takes as well. -/
theorem integer_conversions_yield_twoAndAHalf :
    (Value.decimal twoAndAHalf).number? = some (5 / 2) ∧
      (Value.decimal twoAndAHalf).toInteger32 = .ok 2 := by
  have denotes := number?_twoAndAHalf
  rcases integer_conversions_yield _ _ denotes with ⟨_, narrow, _⟩
  have dropped : towardZero twoAndAHalf.number = 2 := by
    rw [← twoAndAHalf.truncate_eq_towardZero]
    decide
  have fraction : (towardZero twoAndAHalf.number : ℚ) ≠ twoAndAHalf.number := by
    rw [dropped, Option.some.inj denotes]
    norm_num
  have changes := ChangesTo.withoutFraction fraction
  rw [dropped] at changes
  exact ⟨number?_twoAndAHalf, (narrow 2).2 (Or.inr changes)⟩

/-- Two and a half becomes two, and ten to the nineteenth the greatest 64-bit integer. -/
theorem toInteger_changes_numbers :
    (Value.decimal twoAndAHalf).number? = some (5 / 2) ∧
      (Value.decimal twoAndAHalf).toInteger = .ok 2 ∧
      SqlType.integer.encode (.decimal twoAndAHalf) = .ok (.integer 2) ∧
      (Value.real tenQuintillion).number? = some (10 ^ 19) ∧
      (Value.real tenQuintillion).toInteger = .ok Int64.maxValue ∧
      SqlType.integer.decode (.real tenQuintillion) = .ok (.integer Int64.maxValue) :=
  ⟨number?_twoAndAHalf, by decide, by decide, number?_tenQuintillion, by decide, by decide⟩

end Value

end SqlMapper
