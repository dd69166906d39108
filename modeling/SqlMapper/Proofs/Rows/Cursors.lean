import SqlMapper.Proofs.Rows.Reading

/-!
# Where a cursor stands

A cursor is moved and asked for its row, in any order. Asking leaves it where it is; a move takes it
to the next row, and from the last row or from behind it to the place behind the last. So the number
of moves says where a cursor stands, and of as many moves as one likes exactly the first few find a
row, one for each row there is.

Together with the bounds on the indexes that a row is read at, this shows that no access to a result
reaches outside of it: neither the cursor outside the rows nor a reading outside the row.
-/

namespace SqlMapper

theorem BufferedRows.ofRows_eq_ok {columns : List ResultColumn} {rows : List (List Value)}
    {buffered : BufferedRows} (accepted : ofRows columns rows = .ok buffered) :
    buffered.columns = columns ∧ buffered.rows = rows := by
  unfold ofRows at accepted
  split at accepted
  · cases accepted
    exact ⟨rfl, rfl⟩
  · cases accepted

namespace ResultSet

variable {set : ResultSet} {index : Nat}

theorem exists_row? (inside : index < set.length) :
    ∃ row, set.row? index = some row ∧ row.set = set ∧ row.index = index := by
  unfold row?
  split
  next values found => exact ⟨_, rfl, rfl, rfl⟩
  next missing =>
    have outside := List.getElem?_eq_none_iff.1 missing
    exact absurd inside (Nat.not_lt.2 outside)

theorem row?_eq_none (outside : set.length ≤ index) : set.row? index = none := by
  unfold row?
  split
  next values found =>
    have inside := (List.getElem?_eq_some_iff.1 found).1
    exact absurd inside (Nat.not_lt.2 outside)
  next => rfl

end ResultSet

namespace Cursor

/-- What a cursor can be asked. -/
inductive Call where
  | next
  | row
  deriving DecidableEq

/-- What a cursor answers. -/
inductive Answer where
  /-- After a move: whether there is a row. -/
  | moved (there : Bool)
  | row (current : Option Row)

/-- The cursor behind a call, and its answer. -/
def call (cursor : Cursor) : Call → Cursor × Answer
  | .next => (cursor.next.1, .moved cursor.next.2)
  | .row => (cursor, .row cursor.row?)

/-- The answers to calls, one after the other. -/
def answers (cursor : Cursor) : List Call → List Answer
  | [] => []
  | asked :: rest => (cursor.call asked).2 :: (cursor.call asked).1.answers rest

/-- Where a new cursor is after a number of moves. -/
def afterMoves (set : ResultSet) : Nat → Cursor
  | 0 => start set
  | moves + 1 => { set, position := some (min moves set.length) }

variable (set : ResultSet)

/-- A move finds a row as long as there were fewer moves than there are rows. -/
theorem next_afterMoves (moves : Nat) :
    (afterMoves set moves).next =
      (afterMoves set (moves + 1), decide (moves < set.length)) := by
  cases moves with
  | zero =>
      by_cases inside : 0 < set.length
      · simp [next, afterMoves, start, inside]
      · have empty : set.length = 0 := by omega
        simp [next, afterMoves, start, empty]
  | succ moves =>
      by_cases inside : moves + 1 < set.length
      · have here : min moves set.length = moves := by omega
        have there : min (moves + 1) set.length = moves + 1 := by omega
        simp [next, afterMoves, here, there, inside]
      · have here : min (moves + 1) set.length = set.length := by omega
        have outside : ¬min moves set.length + 1 < set.length := by omega
        simp [next, afterMoves, here, inside, outside]

/-- After a move a cursor is on the row that the moves before passed over to. -/
theorem row?_afterMoves (moves : Nat) : (afterMoves set (moves + 1)).row? = set.row? moves := by
  rw [row?, afterMoves, Option.bind_some]
  by_cases inside : moves ≤ set.length
  · rw [Nat.min_eq_left inside]
  · have outside : set.length ≤ moves := by omega
    rw [Nat.min_eq_right outside, ResultSet.row?_eq_none outside,
      ResultSet.row?_eq_none (Nat.le_refl _)]

/-- Each call is answered by the cursor where the moves before the call took it. -/
theorem getElem?_answers (moves : Nat) (before after : List Call) (asked : Call) :
    ((afterMoves set moves).answers (before ++ asked :: after))[before.length]? =
      some ((afterMoves set (moves + before.count .next)).call asked).2 := by
  induction before generalizing moves with
  | nil => rfl
  | cons first others ih =>
      rw [List.cons_append, answers, List.length_cons, List.getElem?_cons_succ]
      cases first with
      | next =>
          have later : moves + (Call.next :: others).count .next =
              moves + 1 + others.count .next := by
            rw [List.count_cons_self]
            omega
          rw [call, next_afterMoves, ih, later]
      | row =>
          have same : (Call.row :: others).count .next = others.count .next :=
            List.count_cons_of_ne (by decide)
          rw [call, ih, same]

theorem getElem?_answers_next (before after : List Call) :
    ((start set).answers (before ++ .next :: after))[before.length]? =
      some (.moved (decide (before.count .next < set.length))) := by
  have answered := getElem?_answers set 0 before after .next
  rw [Nat.zero_add, call, next_afterMoves] at answered
  exact answered

theorem getElem?_answers_row (before after : List Call) :
    ((start set).answers (before ++ .row :: after))[before.length]? =
      some (.row (afterMoves set (before.count .next)).row?) := by
  have answered := getElem?_answers set 0 before after .row
  rw [Nat.zero_add] at answered
  exact answered

/-- A cursor is on a row after at least one move and at most as many as there are rows. -/
theorem exists_row?_afterMoves {moves : Nat} (moved : 1 ≤ moves) (inside : moves ≤ set.length) :
    ∃ row, (afterMoves set moves).row? = some row ∧ row.set = set ∧ row.index = moves - 1 := by
  obtain ⟨passed, rfl⟩ := Nat.exists_eq_add_of_le' moved
  rw [row?_afterMoves, Nat.add_sub_cancel]
  exact ResultSet.exists_row? inside

theorem row?_afterMoves_eq_none {moves : Nat} (outside : ¬(1 ≤ moves ∧ moves ≤ set.length)) :
    (afterMoves set moves).row? = none := by
  cases moves with
  | zero => rfl
  | succ passed =>
      rw [row?_afterMoves]
      apply ResultSet.row?_eq_none
      omega

end Cursor

namespace BufferedRows

/-- However a cursor through an accepted result is called, its moves find one row after the other
and then no more; and in each row, what is found for a column or a label is inside the row. -/
theorem accesses_stay_inside (columns : List ResultColumn) (rows : List (List Value))
    (mode : LookupMode) (buffered : BufferedRows) (accepted : ofRows columns rows = .ok buffered) :
    let set : ResultSet := ⟨buffered, mode⟩
    (∀ before after : List Cursor.Call,
      let moves := before.count .next
      ((Cursor.start set).answers (before ++ .next :: after))[before.length]? =
          some (.moved (decide (moves + 1 ≤ rows.length))) ∧
        (1 ≤ moves ∧ moves ≤ rows.length → ∃ row : Row,
          ((Cursor.start set).answers (before ++ .row :: after))[before.length]? =
              some (.row (some row)) ∧
            row.set = set ∧ row.index = moves - 1 ∧ rows[moves - 1]? = some row.values) ∧
        (¬(1 ≤ moves ∧ moves ≤ rows.length) →
          ((Cursor.start set).answers (before ++ .row :: after))[before.length]? =
            some (.row none))) ∧
      ∀ row : Row, row.set = set →
        (∀ column index, row.indexOf? column = .ok (some index) →
          ∃ inside : index < row.values.length,
            row.get column = (column.type.decode row.values[index]).map some) ∧
        (∀ label index, row.findColumn? label = some index →
          ∃ inside : index < row.values.length, row.getValue label = .ok row.values[index]) ∧
        (∀ column, StaysInside (row.get column)) ∧
        (∀ label, StaysInside (row.getValue label)) ∧
        (∀ (α : Type) (convert : Value → Except ConversionFault α) label,
          StaysInside (row.getAs convert label)) ∧
        (∀ label, StaysInside (row.getStream label)) ∧
        (∀ column, row.hasColumn column = false ↔ row.get column = .ok none) ∧
        ∀ column name table matching,
          row.get column = .error (.ambiguousColumn name table matching) ↔
            mode = .wildcard ∧ 2 ≤ matching ∧
              columns.countP (Row.describes column) = matching ∧
              name = column.name ∧ table = column.tableReference := by
  obtain ⟨rfl, rfl⟩ := ofRows_eq_ok accepted
  intro set
  constructor
  · intro before after moves
    refine ⟨Cursor.getElem?_answers_next set before after, ?_, ?_⟩
    · rintro ⟨moved, inside⟩
      rcases Cursor.exists_row?_afterMoves set moved inside with ⟨row, current, sameSet, place⟩
      refine ⟨row, ?_, sameSet, place, ?_⟩
      · rw [Cursor.getElem?_answers_row, current]
      · have there := row.isRow
        rw [sameSet, place] at there
        exact there
    · intro outside
      rw [Cursor.getElem?_answers_row, Cursor.row?_afterMoves_eq_none set outside]
  · intro row sameSet
    refine ⟨fun _ _ => Row.get_of_found, fun _ _ => Row.getValue_of_found,
      row.staysInside_get, row.staysInside_getValue, fun _ => row.staysInside_getAs,
      row.staysInside_getStream, fun _ => Row.hasColumn_eq_false_iff, ?_⟩
    intro column name table matching
    rw [Row.get_eq_ambiguousColumn_iff, Row.columns, sameSet]

/-- Two pairs of numbers, both of which are called an identifier. -/
def pairs : BufferedRows where
  columns := [.named "id", .named "id"]
  rows := [[.integer 1, .integer 2], [.integer 3, .integer 4]]
  length_row := by decide

/-- The second move finds the second pair, in which the identifier is ambiguous; the third move
finds none. -/
theorem accesses_stay_inside_pairs :
    ofRows pairs.columns pairs.rows = .ok pairs ∧
      let cursor := Cursor.start ⟨pairs, .wildcard⟩
      let identifier : Column := { table := "pair", name := "id", type := .integer }
      (cursor.answers [.next, .row, .next, .next, .row])[2]? = some (.moved true) ∧
        (cursor.answers [.next, .row, .next, .next, .row])[3]? = some (.moved false) ∧
        (cursor.answers [.next, .row, .next, .next, .row])[4]? = some (.row none) ∧
        ∃ row, (cursor.answers [.next, .row, .next, .row])[3]? = some (.row (some row)) ∧
          row.values = [.integer 3, .integer 4] ∧
          row.get identifier = .error (.ambiguousColumn "id" "pair" 2) := by
  have accepted : ofRows pairs.columns pairs.rows = .ok pairs := rfl
  rcases accesses_stay_inside pairs.columns pairs.rows .wildcard pairs accepted with
    ⟨answered, readings⟩
  rcases (answered [.next, .row, .next] []).2.1 (by decide) with
    ⟨row, current, sameSet, _, values⟩
  refine ⟨accepted, (answered [.next, .row] [.next, .row]).1,
    (answered [.next, .row, .next] [.row]).1,
    (answered [.next, .row, .next, .next] []).2.2 (by decide), row, current,
    (Option.some.inj values).symm, ?_⟩
  rcases readings row sameSet with ⟨_, _, _, _, _, _, _, ambiguous⟩
  exact (ambiguous _ _ _ _).2 ⟨rfl, Nat.le_refl 2, by decide, rfl, rfl⟩

end BufferedRows

end SqlMapper
