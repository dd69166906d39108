import SqlMapper.Calendar.Date

/-!
# Times of day and timestamps

A time of day has nanoseconds, which may reach past the second they are held with. Past second 59
they are those of a leap second, which may follow any minute. Past another second they are those of
the second that follows: a time may be held so, but it is not made so from its parts.

A timestamp is a date with a time of day, in no time zone.
-/

namespace SqlMapper.Calendar

/-- The nanoseconds of a second. -/
def nanosPerSecond : Nat := 1000000000

/-- The parts name a time of day. -/
def IsTime (hour minute second nano : Nat) : Prop :=
  hour < 24 ∧ minute < 60 ∧ second < 60 ∧ nano < 2 * nanosPerSecond

instance (hour minute second nano : Nat) : Decidable (IsTime hour minute second nano) :=
  inferInstanceAs (Decidable (_ ∧ _))

/-- A time of day. -/
structure Time where
  hour : Nat
  minute : Nat
  second : Nat
  nano : Nat
  isTime : IsTime hour minute second nano
  deriving DecidableEq

namespace Time

/-- The nanoseconds do not reach past the second, unless into a leap second. -/
def KeepsSecond (time : Time) : Prop :=
  nanosPerSecond ≤ time.nano → time.second = 59

instance (time : Time) : Decidable time.KeepsSecond :=
  inferInstanceAs (Decidable (_ → _))

/-- The time with these parts, if there is one; no second but the last of a minute is passed. -/
def ofParts? (hour minute second nano : Nat) : Option Time :=
  if valid : IsTime hour minute second nano then
    let time : Time := ⟨hour, minute, second, nano, valid⟩
    if time.KeepsSecond then some time else none
  else none

theorem ofParts?_parts {time : Time} (kept : time.KeepsSecond) :
    ofParts? time.hour time.minute time.second time.nano = some time := by
  rw [ofParts?, dif_pos time.isTime]
  exact if_pos kept

/-- The first moment of a day. -/
def midnight : Time := ⟨0, 0, 0, 0, by decide⟩

/-- Nanoseconds behind a point with three, six or nine digits as needed, or nothing. -/
def fractionText (nano : Nat) : List Char :=
  if nano = 0 then []
  else if nano % 1000000 = 0 then '.' :: Number.padded 3 (nano / 1000000)
  else if nano % 1000 = 0 then '.' :: Number.padded 6 (nano / 1000)
  else '.' :: Number.padded 9 nano

/-- The time written as hour, minute and second, which is the second that the nanoseconds reach; a
leap second is written as second 60. -/
def text (time : Time) : List Char :=
  let shown := if nanosPerSecond ≤ time.nano then time.second + 1 else time.second
  Number.padded 2 time.hour ++ ':' :: Number.padded 2 time.minute ++ ':' :: Number.padded 2 shown ++
    fractionText (time.nano % nanosPerSecond)

end Time

/-- A date with a time of day. -/
structure Timestamp where
  date : Date
  time : Time
  deriving DecidableEq

namespace Timestamp

/-- The seconds of a day. -/
def secondsPerDay : Int := 86400

/-- The timestamp a number of seconds after the start of 1 January 1970, if the calendar holds it.
-/
def ofEpochSeconds? (seconds : Int) : Option Timestamp := do
  let date ← Date.ofEpochDays? (seconds / secondsPerDay)
  let rest := (seconds % secondsPerDay).toNat
  let time ← Time.ofParts? (rest / 3600) (rest / 60 % 60) (rest % 60) 0
  return ⟨date, time⟩

/-- The date and the time with a space between them. -/
def text (timestamp : Timestamp) : List Char :=
  timestamp.date.text ++ ' ' :: timestamp.time.text

end Timestamp

end SqlMapper.Calendar
