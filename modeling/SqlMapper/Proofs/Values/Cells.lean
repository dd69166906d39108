import SqlMapper.Proofs.Text.Encoding
import SqlMapper.Proofs.Values.Calendar
import SqlMapper.Proofs.Values.Identifiers
import SqlMapper.Sqlite.Cell
import SqlMapper.Value.Coercion

/-!
# Values behind SQLite

SQLite has fewer kinds of values than there are semantic types. A value is stored in the cell it is
bound as, and the cell is read back as one of five kinds; the type of the value then brings it into
its own kind again. A zero decimal with a sign loses the sign, which its text has and the reader of
decimals drops, and is still the same number. A time of day whose nanoseconds reach past a second
that is not the last of its minute is written with the second that follows, and comes back as the
time that has this second, which is another value. All other values come back as they were.
-/

namespace SqlMapper

open Number Calendar

/-- A text is read back from its cell: its bytes are UTF-8. -/
@[simp]
theorem Cell.toValue_ofText (content : String) : (ofText content).toValue = .text content := by
  simp [ofText, toValue]

/-- A number equals itself. -/
theorem Number.Binary64.equals_self {number : Binary64} (isNumber : number.isNaN = false) :
    number.equals number = true := by
  rw [isNaN] at isNumber
  rw [equals]
  split <;> simp_all

namespace Value

/-- The value as it comes back: a zero decimal without its sign, and a time of day as it is written.
-/
def restored : Value → Value
  | decimal number => .decimal number.unsignedZero
  | time moment => .time moment.carried
  | timestamp instant => .timestamp instant.carried
  | value => value

/-- A time of day in the value has no nanoseconds past its second but those of a leap second. -/
def KeepsSecond : Value → Prop
  | time moment => moment.KeepsSecond
  | timestamp instant => instant.time.KeepsSecond
  | _ => True

theorem toDecimal_display (number : Decimal) :
    (text (decimal number).display).toDecimal = .ok number.unsignedZero := by
  rw [toDecimal, trimmed, display, String.toList_ofList, number.trim_text, number.read_text]
  rfl

theorem toDate_display (day : Date) : (text (date day).display).toDate = .ok day := by
  rw [toDate, trimmed, display, String.toList_ofList, Text.trim_of_visible day.visible_text,
    day.read?_text]

theorem toTime_display (moment : Time) :
    (text (time moment).display).toTime = .ok moment.carried := by
  rw [toTime, trimmed, display, String.toList_ofList, Text.trim_of_visible moment.visible_text,
    moment.read?_text]

theorem toTimestamp_display (instant : Timestamp) :
    (text (timestamp instant).display).toTimestamp = .ok instant.carried := by
  have read : Timestamp.read? (trimmed (timestamp instant).display) = some instant.carried := by
    rw [trimmed, display, String.toList_ofList, instant.trim_text, instant.read?_text]
  -- Only the general equation: Lean does not derive those of the single kinds in time.
  rw [toTimestamp.eq_def]
  simp only [read]

theorem toUuid_display (identifier : Uuid) :
    (text (uuid identifier).display).toUuid = .ok identifier := by
  rw [toUuid, display, String.toList_ofList, identifier.read?_text]

/-- A value of a kind that SQLite lacks is stored as its text and converted back from it. -/
theorem decode_of_convert {value found : Value}
    (lowered : Cell.ofValue value = .ofText value.display)
    (converted : value.type.convert (.text value.display) = .ok found) :
    value.type.decode (Cell.ofValue value).toValue = .ok found := by
  rw [lowered, Cell.toValue_ofText, SqlType.decode, SqlType.coerce, converted]
  rfl

theorem equals_self {value : Value}
    (isNumber : ∀ number, value = .real number → number.isNaN = false) :
    value.equals value = true := by
  cases value with
  | real number => exact Binary64.equals_self (isNumber number rfl)
  | decimal number => exact number.equals_refl
  | _ => exact beq_self_eq_true _

/-- What comes back equals the value unless a second was carried. -/
theorem equals_restored_iff {value : Value}
    (isNumber : ∀ number, value = .real number → number.isNaN = false) :
    value.equals value.restored = true ↔ value.KeepsSecond := by
  have same := equals_self isNumber
  cases value with
  | decimal number => exact iff_of_true number.equals_unsignedZero trivial
  | time moment =>
      have equal : (time moment).equals (time moment.carried) = true ↔ moment = moment.carried := by
        simp [equals]
      rw [restored, equal, eq_comm]
      exact Time.carried_eq_self_iff
  | timestamp instant =>
      have equal : (timestamp instant).equals (timestamp instant.carried) = true ↔
          instant = instant.carried := by
        simp [equals]
      rw [restored, equal, eq_comm]
      exact Timestamp.carried_eq_self_iff
  | _ => exact iff_of_true same trivial

/-- A value is found again behind a column without a declared type: the column keeps its cell, and
the type of the value decodes what the cell is read as into the restored value. That is an equal
value, a decimal with its scale, unless it has a time of day with nanoseconds that reach past its
second and are not those of a leap second. A real must be a number. -/
theorem storage_roundTrip (value : Value)
    (isNumber : ∀ number, value = .real number → number.isNaN = false) :
    (Cell.ofValue value).stored = Cell.ofValue value ∧
      value.type.decode (Cell.ofValue value).toValue = .ok value.restored ∧
      (value.equals value.restored = true ↔ value.KeepsSecond) := by
  have same := equals_restored_iff isNumber
  cases value with
  | null => exact ⟨rfl, rfl, same⟩
  | boolean flag => cases flag <;> exact ⟨rfl, rfl, same⟩
  | integer number => exact ⟨rfl, rfl, same⟩
  | real number =>
      have kept : (Cell.real number).stored = .real number := by
        rw [Cell.stored, isNumber number rfl, if_neg Bool.false_ne_true]
      exact ⟨kept, rfl, same⟩
  | text content =>
      have read := Cell.toValue_ofText content
      exact ⟨rfl, congrArg SqlType.text.decode read, same⟩
  | blob bytes => exact ⟨rfl, rfl, same⟩
  | decimal number =>
      have converted := congrArg (Except.map Value.decimal) (toDecimal_display number)
      exact ⟨rfl, decode_of_convert rfl converted, same⟩
  | date day =>
      have converted := congrArg (Except.map Value.date) (toDate_display day)
      exact ⟨rfl, decode_of_convert rfl converted, same⟩
  | time moment =>
      have converted := congrArg (Except.map Value.time) (toTime_display moment)
      exact ⟨rfl, decode_of_convert rfl converted, same⟩
  | timestamp instant =>
      have converted := congrArg (Except.map Value.timestamp) (toTimestamp_display instant)
      exact ⟨rfl, decode_of_convert rfl converted, same⟩
  | uuid identifier =>
      have converted := congrArg (Except.map Value.uuid) (toUuid_display identifier)
      exact ⟨rfl, decode_of_convert rfl converted, same⟩

/-- A leap second of the last day. -/
def lastMoment : Value :=
  .timestamp ⟨⟨262142, 12, 31, by decide⟩, ⟨23, 59, 59, 1999999999, by decide⟩⟩

/-- The zero with a sign. -/
def signedZero : Value :=
  .real (.zero true)

theorem storage_roundTrip_signedZero :
    (∀ number, signedZero = .real number → number.isNaN = false) ∧
      (Cell.ofValue signedZero).stored = Cell.ofValue signedZero ∧
      signedZero.type.decode (Cell.ofValue signedZero).toValue = .ok signedZero ∧
      lastMoment.type.decode (Cell.ofValue lastMoment).toValue = .ok lastMoment := by
  have isNumber : ∀ number, signedZero = .real number → number.isNaN = false := by
    rintro _ ⟨⟩
    decide
  obtain ⟨kept, read, -⟩ := storage_roundTrip signedZero isNumber
  exact ⟨isNumber, kept, read, (storage_roundTrip lastMoment nofun).2.1⟩

/-- A second and a third behind second 4. -/
def overlongSecond : Value :=
  .time ⟨23, 56, 4, 1333333333, by decide⟩

/-- The time comes back as a third of a second behind second 5, which is another value. -/
theorem overlongSecond_comesBack :
    overlongSecond.type.decode (Cell.ofValue overlongSecond).toValue =
        .ok (.time ⟨23, 56, 5, 333333333, by decide⟩) ∧
      overlongSecond.equals (.time ⟨23, 56, 5, 333333333, by decide⟩) = false := by
  have read := toTime_display ⟨23, 56, 4, 1333333333, by decide⟩
  have converted := congrArg (Except.map Value.time) read
  exact ⟨decode_of_convert rfl converted, by decide⟩

end Value

end SqlMapper
