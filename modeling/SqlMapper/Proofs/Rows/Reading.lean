import SqlMapper.Rows.Lookup

/-!
# Reading a row at an index

To read a column of a row is to find the index of its value and to decode the value there. By name
and table the index is found if a single result column fits; this file turns the search into a count
of the result columns that fit.

An index that is found is that of a result column, and a row is as wide as the description of the
result columns. So nothing is read outside a row, whether it is looked for by column or by label.
-/

namespace SqlMapper

/-- The access does not reach outside its row. -/
def StaysInside {α : Type} (access : Except Error α) : Prop :=
  ∀ index, access ≠ .error (.execution (.outsideRow index))

namespace StaysInside

variable {α β : Type}

theorem ok (value : α) : StaysInside (.ok value) := by
  intro index escapes
  cases escapes

theorem bind {first : Except Error α} {next : α → Except Error β} (inside : StaysInside first)
    (further : ∀ value, StaysInside (next value)) : StaysInside (first >>= next) := by
  cases first with
  | ok value => exact further value
  | error error =>
      intro index escapes
      apply inside index
      exact congrArg Except.error (Except.error.inj escapes)

/-- A conversion does not look at the row. -/
theorem conversion (converted : Except ConversionFault α) :
    StaysInside (converted.mapError .conversion) := by
  intro index escapes
  cases converted <;> cases escapes

end StaysInside

namespace Row

variable {row : Row} {column : Column} {index : Nat}

theorem get_of_indexOf? {value : Value} (found : row.indexOf? column = .ok (some index))
    (there : row.values[index]? = some value) :
    row.get column = (column.type.decode value).map some := by
  have reads : row.valueAt index = .ok value := by rw [valueAt, there]
  simp only [get, found, reads, bind, Except.bind]
  cases column.type.decode value <;> rfl

theorem get_of_indexOf?_error {error : Error} (fails : row.indexOf? column = .error error) :
    row.get column = .error error := by
  simp [get, fails, bind, Except.bind]

theorem mem_wildcardIndexes :
    index ∈ row.wildcardIndexes column ↔
      ∃ described, row.columns[index]? = some described ∧ describes column described = true := by
  simp only [wildcardIndexes, List.mem_map, List.mem_filter, Prod.exists,
    List.mk_mem_zipIdx_iff_getElem?]
  constructor
  · rintro ⟨described, _, ⟨there, fits⟩, rfl⟩
    exact ⟨described, there, fits⟩
  · rintro ⟨described, there, fits⟩
    exact ⟨described, index, ⟨there, fits⟩, rfl⟩

theorem length_wildcardIndexes :
    (row.wildcardIndexes column).length = row.columns.countP (describes column) := by
  calc (row.wildcardIndexes column).length
      = row.columns.zipIdx.countP (describes column ∘ Prod.fst) := by
        rw [wildcardIndexes, List.length_map, ← List.countP_eq_length_filter]
        rfl
    _ = (row.columns.zipIdx.map Prod.fst).countP (describes column) := List.countP_map.symm
    _ = row.columns.countP (describes column) := by rw [List.zipIdx_map_fst]

/-- A column that a single result column describes is found there. -/
theorem indexOf?_of_countP_one {described : ResultColumn} (mode : row.set.mode = .wildcard)
    (there : row.columns[index]? = some described) (fits : describes column described = true)
    (once : row.columns.countP (describes column) = 1) :
    row.indexOf? column = .ok (some index) := by
  have own : index ∈ row.wildcardIndexes column := mem_wildcardIndexes.2 ⟨described, there, fits⟩
  rw [← length_wildcardIndexes] at once
  rcases List.length_eq_one_iff.1 once with ⟨only, single⟩
  rw [single, List.mem_singleton] at own
  simp only [indexOf?, mode, single, own]

/-- A column that several result columns describe is ambiguous. -/
theorem indexOf?_of_countP_more {more : Nat} (mode : row.set.mode = .wildcard)
    (several : row.columns.countP (describes column) = more + 2) :
    row.indexOf? column =
      .error (.ambiguousColumn column.name column.tableReference (more + 2)) := by
  rw [← length_wildcardIndexes] at several
  rcases indexes : row.wildcardIndexes column with _ | ⟨first, _ | ⟨second, rest⟩⟩
  · simp [indexes] at several
  · simp [indexes] at several
  · rw [indexes] at several
    simp only [indexOf?, mode, indexes, several]

theorem index_lt_of_columns (inside : index < row.columns.length) : index < row.values.length := by
  rw [row.length_values]
  exact inside

theorem index_lt_of_findIdx? {fits : ResultColumn → Bool}
    (found : row.columns.findIdx? fits = some index) : index < row.values.length := by
  rcases List.findIdx?_eq_some_iff_getElem.1 found with ⟨inside, _⟩
  exact index_lt_of_columns inside

/-- How a row reads a column. -/
inductive Reading (row : Row) (column : Column) : Prop where
  /-- The row does not have the column. -/
  | absent (lacks : row.hasColumn column = false) (found : row.indexOf? column = .ok none)
      (reads : row.get column = .ok none)
  /-- The row has the column at an index. -/
  | single (index : Nat) (inside : index < row.values.length) (has : row.hasColumn column = true)
      (found : row.indexOf? column = .ok (some index))
      (reads : row.get column = (column.type.decode row.values[index]).map some)
  /-- The row has the column more than once. -/
  | several (has : row.hasColumn column = true) (mode : row.set.mode = .wildcard)
      (more : 2 ≤ row.columns.countP (describes column))
      (found : row.indexOf? column = .error (.ambiguousColumn column.name column.tableReference
        (row.columns.countP (describes column))))
      (reads : row.get column = .error (.ambiguousColumn column.name column.tableReference
        (row.columns.countP (describes column))))

theorem Reading.of_index (has : row.hasColumn column = true)
    (found : row.indexOf? column = .ok (some index)) (inside : index < row.values.length) :
    row.Reading column :=
  .single index inside has found (get_of_indexOf? found (List.getElem?_eq_getElem inside))

theorem get_of_indexOf?_none (found : row.indexOf? column = .ok none) :
    row.get column = .ok none := by
  simp [get, found, bind, Except.bind, pure, Except.pure]

theorem reading (row : Row) (column : Column) : row.Reading column := by
  cases mode : row.set.mode with
  | labeled =>
      cases labeled : row.indexOfLabel? column.effectiveLabel with
      | none =>
          have found : row.indexOf? column = .ok none := by simp [indexOf?, mode, labeled]
          exact .absent (by simp [hasColumn, mode, labeled]) found (get_of_indexOf?_none found)
      | some index =>
          have found : row.indexOf? column = .ok (some index) := by simp [indexOf?, mode, labeled]
          exact .of_index (by simp [hasColumn, mode, labeled]) found (index_lt_of_findIdx? labeled)
  | wildcard =>
      rcases indexes : row.wildcardIndexes column with _ | ⟨index, _ | ⟨next, others⟩⟩
      · have found : row.indexOf? column = .ok none := by simp [indexOf?, mode, indexes]
        exact .absent (by simp [hasColumn, mode, indexes]) found (get_of_indexOf?_none found)
      · have member : index ∈ row.wildcardIndexes column := by simp [indexes]
        rcases mem_wildcardIndexes.1 member with ⟨described, there, _⟩
        have inside := index_lt_of_columns (List.getElem?_eq_some_iff.1 there).1
        have found : row.indexOf? column = .ok (some index) := by
          simp only [indexOf?, mode, indexes]
        exact .of_index (by simp [hasColumn, mode, indexes]) found inside
      · have count : row.columns.countP (describes column) = others.length + 2 := by
          rw [← length_wildcardIndexes, indexes]
          rfl
        have found := indexOf?_of_countP_more mode count
        rw [← count] at found
        exact .several (by simp [hasColumn, mode, indexes]) mode (by omega) found
          (get_of_indexOf?_error found)

/-- A column that is found is read inside the row, at the index where it is found. -/
theorem get_of_found (found : row.indexOf? column = .ok (some index)) :
    ∃ inside : index < row.values.length,
      row.get column = (column.type.decode row.values[index]).map some := by
  cases row.reading column with
  | absent _ missing _ =>
      rw [missing] at found
      cases found
  | single place inside _ same reads =>
      rw [same] at found
      cases found
      exact ⟨inside, reads⟩
  | several _ _ _ failed _ =>
      rw [failed] at found
      cases found

/-- Reading a column finds nothing exactly if the row does not have it. -/
theorem hasColumn_eq_false_iff :
    row.hasColumn column = false ↔ row.get column = .ok none := by
  cases row.reading column with
  | absent lacks _ reads => simp [lacks, reads]
  | single index inside has _ reads =>
      rw [has, reads]
      cases column.type.decode row.values[index] <;> simp [Except.map]
  | several has _ _ _ reads => simp [has, reads]

/-- Reading a column fails if its value does not convert, or if the row has it more than once. -/
theorem get_eq_error {error : Error} (failed : row.get column = .error error) :
    (∃ fault, error = .conversion fault) ∨
      row.set.mode = .wildcard ∧ 2 ≤ row.columns.countP (describes column) ∧
        error = .ambiguousColumn column.name column.tableReference
          (row.columns.countP (describes column)) := by
  cases row.reading column with
  | absent _ _ reads =>
      rw [reads] at failed
      cases failed
  | single index inside _ _ reads =>
      rw [reads] at failed
      left
      cases decoded : column.type.decode row.values[index] with
      | ok result =>
          rw [decoded] at failed
          cases failed
      | error cause =>
          rw [decoded] at failed
          cases failed
          exact SqlType.coerce_eq_error decoded
  | several _ mode more _ reads =>
      rw [reads] at failed
      cases failed
      exact Or.inr ⟨mode, more, rfl⟩

/-- Reading a column is ambiguous exactly if it is looked for by name and table and at least two
result columns fit. -/
theorem get_eq_ambiguousColumn_iff {name table : String} {matching : Nat} :
    row.get column = .error (.ambiguousColumn name table matching) ↔
      row.set.mode = .wildcard ∧ 2 ≤ matching ∧
        row.columns.countP (describes column) = matching ∧
        name = column.name ∧ table = column.tableReference := by
  constructor
  · intro ambiguous
    rcases get_eq_error ambiguous with ⟨fault, same⟩ | ⟨mode, more, same⟩
    · cases same
    · cases same
      exact ⟨mode, more, rfl, rfl, rfl⟩
  · rintro ⟨mode, more, rfl, rfl, rfl⟩
    obtain ⟨further, count⟩ := Nat.exists_eq_add_of_le' more
    have found := indexOf?_of_countP_more mode count
    rw [← count] at found
    exact get_of_indexOf?_error found

theorem staysInside_get (row : Row) (column : Column) : StaysInside (row.get column) := by
  intro index escapes
  rcases get_eq_error escapes with ⟨fault, same⟩ | ⟨_, _, same⟩
  · cases same
  · cases same

/-- A label that is found is read inside the row, at the index where it is found. -/
theorem getValue_of_found {label : String} (found : row.findColumn? label = some index) :
    ∃ inside : index < row.values.length, row.getValue label = .ok row.values[index] := by
  have inside : index < row.values.length := by
    rw [findColumn?, Option.or_eq_some_iff] at found
    rcases found with labeled | ⟨_, named⟩
    · exact index_lt_of_findIdx? labeled
    · exact index_lt_of_findIdx? named
  refine ⟨inside, ?_⟩
  simp only [getValue, found, valueAt, List.getElem?_eq_getElem inside]

theorem staysInside_getValue (row : Row) (label : String) : StaysInside (row.getValue label) := by
  cases found : row.findColumn? label with
  | none =>
      rw [getValue, found]
      intro index escapes
      cases escapes
  | some index =>
      rcases getValue_of_found found with ⟨_, reads⟩
      rw [reads]
      exact .ok _

theorem staysInside_getAs {α : Type} (row : Row) (convert : Value → Except ConversionFault α)
    (label : String) : StaysInside (row.getAs convert label) := by
  apply StaysInside.bind (row.staysInside_getValue label)
  intro value
  exact .conversion _

theorem staysInside_getStream (row : Row) (label : String) :
    StaysInside (row.getStream label) := by
  apply StaysInside.bind (row.staysInside_getValue label)
  intro value index escapes
  cases value <;> cases escapes

end Row

end SqlMapper
