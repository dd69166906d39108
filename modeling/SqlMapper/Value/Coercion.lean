import SqlMapper.Error
import SqlMapper.Value.Conversion

/-!
# Coercion by semantic type

A semantic type brings a value into its canonical kind. The same coercion encodes arguments before
they are bound and decodes raw values read through a column. NULL stays NULL under every type.
-/

namespace SqlMapper

namespace SqlType

/-- The value in the canonical kind of the type. -/
def convert (type : SqlType) (value : Value) : Except ConversionFault Value :=
  match type with
  | .any => .ok value
  | .text => value.toText.map .text
  | .integer => value.toInteger.map .integer
  | .real => value.toReal.map .real
  | .decimal => value.toDecimal.map .decimal
  | .boolean => value.toBoolean.map .boolean
  | .date => value.toDate.map .date
  | .time => value.toTime.map .time
  | .timestamp => value.toTimestamp.map .timestamp
  | .blob => value.toBytes.map .blob
  | .uuid => value.toUuid.map .uuid

/-- The value in the canonical kind of the type; NULL is every type's. -/
def coerce (type : SqlType) (value : Value) : Except Error Value :=
  if value.isNull then .ok .null else (type.convert value).mapError .conversion

/-- Prepares a value to be bound as an argument of the type. -/
def encode (type : SqlType) (value : Value) : Except Error Value :=
  type.coerce value

/-- Interprets a value read from a column of the type. -/
def decode (type : SqlType) (value : Value) : Except Error Value :=
  type.coerce value

@[simp]
theorem coerce_null (type : SqlType) : type.coerce .null = .ok .null := rfl

/-- Coercion fails by conversion only. -/
theorem coerce_eq_error {type : SqlType} {value : Value} {error : Error}
    (failed : type.coerce value = .error error) : ∃ fault, error = .conversion fault := by
  rw [coerce] at failed
  split at failed
  · cases failed
  · cases converted : type.convert value with
    | error fault =>
        rw [converted] at failed
        cases failed
        exact ⟨fault, rfl⟩
    | ok result =>
        rw [converted] at failed
        cases failed

end SqlType

/-- The argument with its value encoded. -/
def Argument.encode (argument : Argument) : Except Error Argument := do
  let value ← argument.type.encode argument.value
  return { argument with value }

end SqlMapper
