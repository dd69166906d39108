import SqlMapper.Calendar.Reading
import SqlMapper.Proofs.Values.Numerals

/-!
# Reading back dates and times

A date, a time and a timestamp are read by the first of their formats from the text they are written
as. Numbers of two digits follow one another with a character between them; a year of the first ten
thousand has four digits, any other has a sign and is read up to the hyphen behind it.

Nanoseconds that reach past their second are written as those of the second that follows. Behind
second 59 that is second 60, which is read as a leap second again. Behind any other it is a second
like all others, and the time that is read holds it with the nanoseconds that are left.
-/

namespace SqlMapper.Calendar

open Number (isDigit length_padded_of_lt padded padded_eq_cons padded_ne_nil visible_padded
  valueOfDigits_padded)

theorem takeWhile_padded (width number : Nat) (rest : List Char) :
    (padded width number ++ rest).takeWhile isDigit =
      padded width number ++ rest.takeWhile isDigit :=
  List.takeWhile_append_of_pos fun _ => Number.isDigit_of_mem_padded

/-- A number is read from the digits it is padded to, whatever follows them. -/
theorem readDigits_padded {width number : Nat} (positive : 0 < width)
    (fits : number < Nat.pow 10 width) (rest : List Char) :
    readDigits (some width) (padded width number ++ rest) = some (number, rest) := by
  have length := length_padded_of_lt positive fits
  simp only [readDigits, takeWhile_padded, List.take_left' length, List.drop_left' rfl,
    valueOfDigits_padded]
  rw [if_neg (by simp [padded_ne_nil])]

/-- A number of any length is read up to a character that is no digit. -/
theorem readDigits_whole {width number : Nat} {rest : List Char}
    (ends : rest.takeWhile isDigit = []) :
    readDigits none (padded width number ++ rest) = some (number, rest) := by
  simp only [readDigits, takeWhile_padded, ends, List.append_nil, List.drop_left' rfl,
    valueOfDigits_padded]
  rw [if_neg (by simp [padded_ne_nil])]

theorem trimStart_padded (width number : Nat) (rest : List Char) :
    Text.trimStart (padded width number ++ rest) = padded width number ++ rest := by
  obtain ⟨first, others, written, digit⟩ := padded_eq_cons width number
  rw [written, List.cons_append]
  exact Text.trimStart_cons_of_not_blank (Number.not_blank_of_isDigit digit)

theorem readField_padded {field : Field} (short : field ≠ .year) {number : Nat}
    (fits : number < 100) (rest : List Char) :
    readField field (padded 2 number ++ rest) = some ((number : Int), rest) := by
  have read := readDigits_padded (by decide : 0 < 2) fits rest
  cases field with
  | year => exact absurd rfl short
  | month | day | hour | minute | second => simp [readField, trimStart_padded, read]

theorem readField_year_unsigned {number : Nat} (fits : number < 10000) (rest : List Char) :
    readField .year (padded 4 number ++ rest) = some ((number : Int), rest) := by
  have read := readDigits_padded (by decide : 0 < 4) fits rest
  obtain ⟨first, others, written, digit⟩ := padded_eq_cons 4 number
  unfold readField
  rw [trimStart_padded]
  rw [written, List.cons_append] at read ⊢
  dsimp only
  -- The text starts with a digit, so neither sign is there to be read.
  split
  next start =>
    obtain ⟨rfl, -⟩ := List.cons.inj start
    exact absurd digit (by decide)
  next start =>
    obtain ⟨rfl, -⟩ := List.cons.inj start
    exact absurd digit (by decide)
  next =>
    rw [read]
    rfl
  next other _ _ => exact absurd rfl other

/-- A year is read back: of four digits without a sign, of any number of digits behind one. -/
theorem readField_year {year : Int} {rest : List Char} (ends : rest.takeWhile isDigit = []) :
    readField .year (Date.yearText year ++ rest) = some (year, rest) := by
  rw [Date.yearText]
  split
  next short =>
    have magnitude : (year.natAbs : Int) = year := by omega
    rw [readField_year_unsigned (by omega), magnitude]
  next long =>
    have read : readDigits none (padded 4 year.natAbs ++ rest) = some (year.natAbs, rest) :=
      readDigits_whole ends
    split
    next negative =>
      have magnitude : -(year.natAbs : Int) = year := by omega
      have sign : Text.trimStart ('-' :: (padded 4 year.natAbs ++ rest)) =
          '-' :: (padded 4 year.natAbs ++ rest) := Text.trimStart_cons_of_not_blank rfl
      simp only [List.cons_append, readField, sign, read, Option.map_some, magnitude]
    next =>
      have magnitude : (year.natAbs : Int) = year := by omega
      have sign : Text.trimStart ('+' :: (padded 4 year.natAbs ++ rest)) =
          '+' :: (padded 4 year.natAbs ++ rest) := Text.trimStart_cons_of_not_blank rfl
      simp only [List.cons_append, readField, sign, read, Option.map_some, magnitude]

/-- A fraction of up to nine digits is scaled up to nanoseconds. -/
theorem readFraction_padded {places number : Nat} (positive : 0 < places) (least : places ≤ 9)
    (fits : number < Nat.pow 10 places) :
    readFraction ('.' :: padded places number) = some (number * Nat.pow 10 (9 - places), []) := by
  have length := length_padded_of_lt positive fits
  have run : (padded places number).takeWhile isDigit = padded places number :=
    List.takeWhile_eq_self_iff.2 fun _ => Number.isDigit_of_mem_padded
  have short : (padded places number).take 9 = padded places number :=
    List.take_of_length_le (by rwa [length])
  simp only [readFraction, run, short, length, valueOfDigits_padded, List.drop_of_length_le,
    Nat.le_refl]
  rw [if_neg (by simp [padded_ne_nil])]

theorem readFraction_fractionText {nano : Nat} (fits : nano < nanosPerSecond) :
    readFraction (Time.fractionText nano) = some (nano, []) := by
  have small : nano < 1000000000 := fits
  rw [Time.fractionText]
  split
  next zero => rw [zero]; rfl
  split
  next milli =>
    have whole : nano / 1000000 * 1000000 = nano := by omega
    have read := readFraction_padded (by decide : 0 < 3) (by decide)
      (show nano / 1000000 < 1000 by omega)
    exact read.trans (congrArg (fun nano => some (nano, [])) whole)
  split
  next micro =>
    have whole : nano / 1000 * 1000 = nano := by omega
    have read := readFraction_padded (by decide : 0 < 6) (by decide)
      (show nano / 1000 < 1000000 by omega)
    exact read.trans (congrArg (fun nano => some (nano, [])) whole)
  next =>
    have read := readFraction_padded (by decide : 0 < 9) (by decide) fits
    exact read.trans (congrArg (fun nano => some (nano, [])) (Nat.mul_one nano))

/-- A format starts with a part that reads the start of a text. -/
theorem readParts_cons {part : Part} {reading read : Reading} {chars rest : List Char}
    (first : part.read reading chars = some (read, rest)) (format : List Part) :
    readParts (part :: format) reading chars = readParts format read rest := by
  simp [readParts, first]

theorem readParts_field (field : Field) (short : field ≠ .year) {number : Nat}
    (fits : number < 100) (format : List Part) (reading : Reading) (rest : List Char) :
    readParts (.field field :: format) reading (padded 2 number ++ rest) =
      readParts format (reading.set field number) rest :=
  readParts_cons (by simp [Part.read, readField_padded short fits]) format

theorem readParts_literal (char : Char) (format : List Part) (reading : Reading)
    (rest : List Char) :
    readParts (.literal char :: format) reading (char :: rest) = readParts format reading rest :=
  readParts_cons (by simp [Part.read]) format

theorem daysInMonth_le (year : Int) (month : Nat) : daysInMonth year month ≤ 31 := by
  unfold daysInMonth
  grind

theorem Date.day_le (date : Date) : date.day ≤ 31 :=
  Nat.le_trans date.isDate.2.2.2 (daysInMonth_le date.year date.month)

theorem Date.month_le (date : Date) : date.month ≤ 12 := by
  have days : 1 ≤ daysInMonth date.year date.month :=
    Nat.le_trans date.isDate.2.2.1 date.isDate.2.2.2
  unfold daysInMonth at days
  split at days <;> omega

/-- The numbers read from a written date. -/
def Reading.ofDate (date : Date) : Reading :=
  { year := date.year, month := date.month, day := date.day }

/-- The format of a date reads a written date, and leaves what follows to the rest of a format. -/
theorem readParts_dateText (date : Date) (format : List Part) (rest : List Char) :
    readParts (dateFormat ++ format) {} (date.text ++ rest) =
      readParts format (.ofDate date) rest := by
  have month := date.month_le
  have day := date.day_le
  have written : date.text ++ rest = Date.yearText date.year ++
      ('-' :: (padded 2 date.month ++ '-' :: (padded 2 date.day ++ rest))) := by
    simp [Date.text]
  have year : Part.read (.field .year) {} (date.text ++ rest) =
      some ({ year := date.year },
        '-' :: (padded 2 date.month ++ '-' :: (padded 2 date.day ++ rest))) := by
    rw [written, Part.read, readField_year rfl]
    rfl
  simp only [dateFormat, List.cons_append, List.nil_append]
  rw [readParts_cons year, readParts_literal, readParts_field .month nofun (by omega),
    readParts_literal, readParts_field .day nofun (by omega)]
  rfl

/-- A date is read back by the first of its formats. -/
theorem Date.read?_text (date : Date) : Date.read? date.text = some date := by
  have read := readParts_dateText date [] []
  rw [List.append_nil, List.append_nil] at read
  rw [Date.read?, read]
  simp [readParts, Reading.date?, Reading.ofDate]

/-- The second a time is written with; that of a leap second is 60. -/
def Time.shownSecond (time : Time) : Nat :=
  if nanosPerSecond ≤ time.nano then time.second + 1 else time.second

/-- The numbers read from a written time. -/
def Reading.ofTime (reading : Reading) (time : Time) : Reading :=
  { reading with
    hour := time.hour, minute := time.minute, second := time.shownSecond,
    nano := time.nano % nanosPerSecond }

theorem Time.text_eq (time : Time) :
    time.text = padded 2 time.hour ++ ':' :: (padded 2 time.minute ++
      ':' :: (padded 2 time.shownSecond ++ fractionText (time.nano % nanosPerSecond))) := by
  simp [text, shownSecond]

theorem readParts_timeText (time : Time) (reading : Reading) :
    readParts (secondFormat ++ [.fraction]) reading time.text = some (reading.ofTime time) := by
  obtain ⟨hour, minute, second, -⟩ := time.isTime
  have shown : time.shownSecond < 100 := by
    rw [Time.shownSecond]
    split <;> omega
  have fraction := readFraction_fractionText (Nat.mod_lt time.nano (by decide : 0 < nanosPerSecond))
  rw [time.text_eq]
  simp only [secondFormat, minuteFormat, List.cons_append, List.nil_append]
  rw [readParts_field .hour nofun (by omega), readParts_literal,
    readParts_field .minute nofun (by omega), readParts_literal,
    readParts_field .second nofun shown, readParts_cons (by rw [Part.read, fraction]; rfl)]
  rfl

theorem Time.isTime_carried {time : Time} (past : ¬time.KeepsSecond) :
    IsTime time.hour time.minute (time.second + 1) (time.nano - nanosPerSecond) := by
  obtain ⟨hour, minute, second, nano⟩ := time.isTime
  rw [KeepsSecond] at past
  exact ⟨hour, minute, by omega, by omega⟩

/-- The time as it is written: nanoseconds past the second, unless they are those of a leap second,
belong to the second that follows. -/
def Time.carried (time : Time) : Time :=
  if kept : time.KeepsSecond then time
  else
    ⟨time.hour, time.minute, time.second + 1, time.nano - nanosPerSecond, isTime_carried kept⟩

theorem Time.carried_of_keepsSecond {time : Time} (kept : time.KeepsSecond) :
    time.carried = time :=
  dif_pos kept

theorem Time.carried_eq_self_iff {time : Time} : time.carried = time ↔ time.KeepsSecond := by
  constructor
  · intro same
    by_cases kept : time.KeepsSecond
    · exact kept
    · rw [carried, dif_neg kept] at same
      exact absurd (congrArg Time.second same) (Nat.succ_ne_self _)
  · exact carried_of_keepsSecond

theorem Time.keepsSecond_carried (time : Time) : time.carried.KeepsSecond := by
  by_cases kept : time.KeepsSecond
  · rwa [carried_of_keepsSecond kept]
  · have nano := time.isTime.2.2.2
    rw [carried, dif_neg kept]
    intro (reaches : nanosPerSecond ≤ time.nano - nanosPerSecond)
    omega

/-- What is read from a written time is the time as it is written. Second 60 is the leap second
whose nanoseconds were written as a fraction. -/
theorem Reading.time?_ofTime (reading : Reading) (time : Time) :
    (reading.ofTime time).time? = some time.carried := by
  have read := Time.ofParts?_parts time.keepsSecond_carried
  obtain ⟨-, -, second, nano⟩ := time.isTime
  by_cases late : nanosPerSecond ≤ time.nano
  · have rest : time.nano % nanosPerSecond = time.nano - nanosPerSecond := by
      rw [Nat.mod_eq_sub_mod late, Nat.mod_eq_of_lt (by omega)]
    by_cases last : time.second = 59
    · have kept : time.KeepsSecond := fun _ => last
      have whole : nanosPerSecond + (time.nano - nanosPerSecond) = time.nano := by omega
      rw [Time.carried_of_keepsSecond kept, last] at read
      simpa [Reading.time?, Reading.ofTime, Time.shownSecond, late, last, rest, whole,
        Time.carried_of_keepsSecond kept] using read
    · have past : ¬time.KeepsSecond := fun kept => last (kept late)
      have shown : time.second + 1 ≠ 60 := by omega
      rw [Time.carried, dif_neg past] at read ⊢
      simpa [Reading.time?, Reading.ofTime, Time.shownSecond, late, rest, shown] using read
  · have kept : time.KeepsSecond := fun reaches => absurd reaches late
    have rest : time.nano % nanosPerSecond = time.nano := Nat.mod_eq_of_lt (Nat.lt_of_not_le late)
    have shown : time.second ≠ 60 := by omega
    rw [Time.carried_of_keepsSecond kept] at read ⊢
    simpa [Reading.time?, Reading.ofTime, Time.shownSecond, late, rest, shown] using read

theorem Time.read?_text (time : Time) : Time.read? time.text = some time.carried := by
  have read := readParts_timeText time {}
  simp [Time.read?, timeFormats, read, Reading.time?_ofTime]

/-- The timestamp as it is written. -/
def Timestamp.carried (timestamp : Timestamp) : Timestamp :=
  { timestamp with time := timestamp.time.carried }

theorem Timestamp.carried_eq_self_iff {timestamp : Timestamp} :
    timestamp.carried = timestamp ↔ timestamp.time.KeepsSecond := by
  rw [← Time.carried_eq_self_iff]
  constructor
  · intro same
    exact congrArg Timestamp.time same
  · intro same
    rw [carried, same]

theorem Reading.timestamp?_ofDate_ofTime (timestamp : Timestamp) :
    ((ofDate timestamp.date).ofTime timestamp.time).timestamp? = some timestamp.carried := by
  have date : ((ofDate timestamp.date).ofTime timestamp.time).date? = some timestamp.date :=
    timestamp.date.ofParts?_parts
  simp [timestamp?, date, time?_ofTime, Timestamp.carried]

/-- A timestamp is read back by the format with blanks between date and time. -/
theorem Timestamp.read?_text (timestamp : Timestamp) :
    Timestamp.read? timestamp.text = some timestamp.carried := by
  have start : Text.trimStart timestamp.time.text = timestamp.time.text := by
    rw [timestamp.time.text_eq]
    exact trimStart_padded 2 timestamp.time.hour _
  have blank (reading : Reading) : Part.blanks.read reading (' ' :: timestamp.time.text) =
      some (reading, timestamp.time.text) :=
    congrArg (fun rest => some (reading, rest)) start
  have read := readParts_dateText timestamp.date (.blanks :: (secondFormat ++ [.fraction]))
    (' ' :: timestamp.time.text)
  rw [readParts_cons (blank _), readParts_timeText] at read
  have found : (readParts (dateFormat ++ .blanks :: secondFormat ++ [.fraction]) {}
      timestamp.text).bind Reading.timestamp? = some timestamp.carried := by
    rw [List.append_assoc, List.cons_append, Timestamp.text, read]
    exact Reading.timestamp?_ofDate_ofTime timestamp
  rw [Timestamp.read?, timestampFormats, List.findSome?_cons, found]

example : Timestamp.text ⟨⟨262142, 12, 31, by decide⟩, ⟨23, 59, 59, 1999999999, by decide⟩⟩ =
    "+262142-12-31 23:59:60.999999999".toList := by decide

theorem Date.visible_text (date : Date) : ∀ char ∈ date.text, Text.isBlank char = false := by
  have year : ∀ char ∈ yearText date.year, Text.isBlank char = false := by
    rw [yearText]
    split
    · exact visible_padded 4 _
    · refine List.forall_mem_cons.2 ⟨?_, visible_padded 4 _⟩
      split <;> rfl
  simp only [text, List.forall_mem_append, List.forall_mem_cons]
  exact ⟨⟨year, rfl, visible_padded 2 _⟩, rfl, visible_padded 2 _⟩

theorem Time.visible_text (time : Time) : ∀ char ∈ time.text, Text.isBlank char = false := by
  have fraction (nano : Nat) : ∀ char ∈ fractionText nano, Text.isBlank char = false := by
    rw [fractionText]
    split
    · exact nofun
    repeat' split
    all_goals exact List.forall_mem_cons.2 ⟨rfl, visible_padded _ _⟩
  simp only [text_eq, List.forall_mem_append, List.forall_mem_cons]
  exact ⟨visible_padded 2 _, rfl, visible_padded 2 _, rfl, visible_padded 2 _, fraction _⟩

theorem Timestamp.trim_text (timestamp : Timestamp) :
    Text.trim timestamp.text = timestamp.text := by
  have nonempty : timestamp.date.text ≠ [] ∧ timestamp.time.text ≠ [] := by
    constructor
    · simp [Date.text]
    · simp [Time.text_eq]
  exact Text.trim_append_cons nonempty timestamp.date.visible_text timestamp.time.visible_text

end SqlMapper.Calendar
