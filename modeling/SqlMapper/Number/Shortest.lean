import SqlMapper.Number.Basic
import SqlMapper.Number.Binary64

/-!
# Shortest decimal text of a binary number

The decimals that read back as a number fill an interval around it, which holds its ends exactly
when the mantissa is even. The text uses the coarsest decimal grid with a point in that interval; of
two such points the nearer, and of two equally near the upper one. It is written positionally, never
with an exponent.
-/

namespace SqlMapper.Number

/-- The interval of the decimals that read back as one positive number, and the number itself, in
units of `1 / unit`. -/
structure Interval where
  lower : Nat
  value : Nat
  upper : Nat
  unit : Nat
  closed : Bool

namespace Interval

/-- The interval of `mantissa * 2 ^ exponent`. Below a power of two the grid is twice as fine, the
finest grid excepted. -/
def around (mantissa : Nat) (exponent : Int) : Interval :=
  let below := if mantissa = Binary64.leadingBit ∧ Binary64.leastExponent < exponent then 1 else 2
  let factor := Nat.pow 2 (exponent - 2).toNat
  { lower := (4 * mantissa - below) * factor
    value := 4 * mantissa * factor
    upper := (4 * mantissa + 2) * factor
    unit := Nat.pow 2 (2 - exponent).toNat
    closed := mantissa % 2 == 0 }

/-- The value divided by the spacing `10 ^ exponent` of a decimal grid, as a quotient. -/
def onGrid (interval : Interval) (exponent : Int) : Nat × Nat :=
  (interval.value * Nat.pow 10 (-exponent).toNat, interval.unit * Nat.pow 10 exponent.toNat)

/-- The point `count * 10 ^ exponent` lies in the interval. -/
def holds (interval : Interval) (count : Nat) (exponent : Int) : Bool :=
  let fine := Nat.pow 10 (-exponent).toNat
  let point := count * (interval.unit * Nat.pow 10 exponent.toNat)
  if interval.closed then interval.lower * fine ≤ point && point ≤ interval.upper * fine
  else interval.lower * fine < point && point < interval.upper * fine

/-- The point of a decimal grid to write, if one of the value's two neighbours lies in the
interval. -/
def gridPoint? (interval : Interval) (exponent : Int) : Option Nat :=
  let (scaled, spacing) := interval.onGrid exponent
  let floor := scaled / spacing
  match interval.holds floor exponent, interval.holds (floor + 1) exponent with
  | true, true => some (roundHalfUp scaled spacing)
  | true, false => some floor
  | false, true => some (floor + 1)
  | false, false => none

/-- Tries a grid and then finer ones; seventeen digits always suffice, so the count of grids that
the caller grants does not run out. -/
def search (interval : Interval) (exponent : Int) : Nat → Nat × Int
  | 0 => (0, exponent)
  | grids + 1 =>
      match interval.gridPoint? exponent with
      | some count => (count, exponent)
      | none => interval.search (exponent - 1) grids

end Interval

/-- An exponent whose power of ten is above `mantissa * 2 ^ exponent`: a binary digit is a little
less than 0.30103 of a decimal one. -/
def coarsestGrid (mantissa : Nat) (exponent : Int) : Int :=
  (exponent + mantissa.log2 + 1) * 30103 / 100000 + 1

/-- The shortest decimal `count * 10 ^ exponent` that reads back as `mantissa * 2 ^ exponent`. -/
def shortestDecimal (mantissa : Nat) (exponent : Int) : Nat × Int :=
  (Interval.around mantissa exponent).search (coarsestGrid mantissa exponent) 24

/-- The text of a number. -/
def Binary64.text (number : Binary64) : List Char :=
  match number.meaning with
  | .notANumber => ['N', 'a', 'N']
  | .infinite negative => signText negative ++ ['i', 'n', 'f']
  | .finite negative mantissa exponent =>
      signText negative ++
        if mantissa = 0 then ['0']
        else
          let (count, power) := shortestDecimal mantissa exponent
          positional (count * Nat.pow 10 power.toNat) (-power).toNat

end SqlMapper.Number
