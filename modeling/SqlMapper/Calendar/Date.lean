import SqlMapper.Number.Basic

/-!
# Calendar dates

Dates of the proleptic Gregorian calendar, which has a year zero. Days are counted from 1 January
1970 by way of years that start in March, so that the leap day is the last of its year.
-/

namespace SqlMapper.Calendar

/-- The first year of the calendar. -/
def firstYear : Int := -262143

/-- The last year of the calendar. -/
def lastYear : Int := 262142

/-- The year has a 29 February. -/
def isLeapYear (year : Int) : Bool :=
  year % 4 == 0 && (year % 100 != 0 || year % 400 == 0)

/-- The number of days of a month; nothing is a month but 1 to 12. -/
def daysInMonth (year : Int) (month : Nat) : Nat :=
  match month with
  | 1 | 3 | 5 | 7 | 8 | 10 | 12 => 31
  | 4 | 6 | 9 | 11 => 30
  | 2 => if isLeapYear year then 29 else 28
  | _ => 0

/-- The year, month and day name a date of the calendar. -/
def IsDate (year : Int) (month day : Nat) : Prop :=
  firstYear ≤ year ∧ year ≤ lastYear ∧ 1 ≤ day ∧ day ≤ daysInMonth year month

instance (year : Int) (month day : Nat) : Decidable (IsDate year month day) :=
  inferInstanceAs (Decidable (_ ∧ _))

/-- A calendar date. -/
structure Date where
  year : Int
  month : Nat
  day : Nat
  isDate : IsDate year month day
  deriving DecidableEq

namespace Date

/-- The date with this year, month and day, if there is one. -/
def ofParts? (year : Int) (month day : Nat) : Option Date :=
  if valid : IsDate year month day then some ⟨year, month, day, valid⟩ else none

@[simp]
theorem ofParts?_parts (date : Date) : ofParts? date.year date.month date.day = some date := by
  simp [ofParts?, date.isDate]

/-- Days from 1 March of year zero to 1 January 1970. -/
def epochOffset : Int := 719468

/-- Days of four hundred years. -/
def daysPerEra : Int := 146097

/-- The date a number of days after 1 January 1970, if the calendar holds it. -/
def ofEpochDays? (days : Int) : Option Date :=
  let shifted := days + epochOffset
  let era := shifted / daysPerEra
  let dayOfEra := shifted % daysPerEra
  let yearOfEra :=
    (dayOfEra - dayOfEra / 1460 + dayOfEra / 36524 - dayOfEra / 146096) / 365
  let dayOfYear := dayOfEra - (365 * yearOfEra + yearOfEra / 4 - yearOfEra / 100)
  let monthFromMarch := (5 * dayOfYear + 2) / 153
  let day := dayOfYear - (153 * monthFromMarch + 2) / 5 + 1
  let month := if monthFromMarch < 10 then monthFromMarch + 3 else monthFromMarch - 9
  let year := yearOfEra + era * 400 + if month ≤ 2 then 1 else 0
  ofParts? year month.toNat day.toNat

/-- A year: four digits from 0 to 9999, otherwise a sign and at least four digits. -/
def yearText (year : Int) : List Char :=
  if 0 ≤ year ∧ year ≤ 9999 then Number.padded 4 year.natAbs
  else (if year < 0 then '-' else '+') :: Number.padded 4 year.natAbs

/-- The date written as year, month and day. -/
def text (date : Date) : List Char :=
  yearText date.year ++ '-' :: Number.padded 2 date.month ++ '-' :: Number.padded 2 date.day

end Date

end SqlMapper.Calendar
