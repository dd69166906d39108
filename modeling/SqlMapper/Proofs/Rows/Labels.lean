import SqlMapper.Proofs.Rows.Wildcard

/-!
# Looking up the columns of a select list

A select list of whole tables gives each column its effective label, the name the query refers to
its table by, an underscore and its own name. A column is found at the first result column with its
label. The underscore may be part of either name, so the labels of two columns may agree although
neither their tables nor their names do: the column `item_id` of `order` and the column `id` of
`order_item`. The column of the later table then reads as the value of the earlier one.

This file says exactly when that happens. Two labels agree only if the names do, or if the name of
one table goes on, behind the name of the other and an underscore, with what the column of the other
starts with. So a column is found at its own place unless an earlier table has such a column.
-/

namespace SqlMapper

open Text (foldCase sameName)

/-- Words joined by a separator agree if the words do, or if a word of one pair reaches over the
separator of the other. -/
theorem append_separator_inj_iff {α : Type} {separator : α} {one name other last : List α} :
    one ++ separator :: name = other ++ separator :: last ↔
      (one = other ∧ name = last) ∨
        (∃ middle, other = one ++ separator :: middle ∧ name = middle ++ separator :: last) ∨
          ∃ middle, one = other ++ separator :: middle ∧ last = middle ++ separator :: name := by
  constructor
  · intro agree
    rcases List.append_eq_append_iff.1 agree with ⟨common, first, second⟩ | ⟨common, first, second⟩
    · cases common with
      | nil => exact Or.inl ⟨by simpa using first.symm, by simpa using second⟩
      | cons char middle =>
          simp only [List.cons_append, List.cons.injEq] at second
          exact Or.inr (Or.inl ⟨middle, by rw [first, second.1], second.2⟩)
    · cases common with
      | nil => exact Or.inl ⟨by simpa using first, by simpa using second.symm⟩
      | cons char middle =>
          simp only [List.cons_append, List.cons.injEq] at second
          exact Or.inr (Or.inr ⟨middle, by rw [first, second.1], second.2⟩)
  · rintro (⟨rfl, rfl⟩ | ⟨middle, rfl, rfl⟩ | ⟨middle, rfl, rfl⟩) <;> simp

/-- The first place where a property holds is at or before a place where it does. -/
theorem findIdx?_append_cons {α : Type} (holds : α → Bool) {earlier later : List α} {thing : α}
    (satisfies : holds thing = true) :
    (earlier ++ thing :: later).findIdx? holds =
      some ((earlier.findIdx? holds).getD earlier.length) := by
  rw [List.findIdx?_append, List.findIdx?_cons, if_pos satisfies]
  cases earlier.findIdx? holds <;> simp

/-- The label of a result column, given its name and the name of its table. -/
def labelOf (header : String × String) : String :=
  s!"{header.2}_{header.1}"

/-- The result columns have the same label, in any case. -/
def sharesLabel (one other : String × String) : Bool :=
  sameName (labelOf one) (labelOf other)

/-- The name of the second table goes on, behind the name of the first and an underscore, with what
the column of the first starts with, in any case. -/
def RunsInto (one other : String × String) : Prop :=
  ∃ middle, foldCase other.2 = foldCase one.2 ++ '_' :: middle ∧
    foldCase one.1 = middle ++ '_' :: foldCase other.1

/-- The text in the middle is what the name of the second table has behind that of the first. -/
theorem runsInto_iff {one other : String × String} :
    RunsInto one other ↔
      foldCase other.2 =
          foldCase one.2 ++ '_' :: (foldCase other.2).drop ((foldCase one.2).length + 1) ∧
        foldCase one.1 =
          (foldCase other.2).drop ((foldCase one.2).length + 1) ++ '_' :: foldCase other.1 := by
  constructor
  · rintro ⟨middle, longer, overlap⟩
    have rest : (foldCase other.2).drop ((foldCase one.2).length + 1) = middle := by
      rw [longer, ← List.drop_drop, List.drop_left, List.drop_succ_cons, List.drop_zero]
    rw [rest]
    exact ⟨longer, overlap⟩
  · rintro ⟨longer, overlap⟩
    exact ⟨_, longer, overlap⟩

/-- The names of two result columns differ and run together to the same label. -/
def RunTogether (one other : String × String) : Prop :=
  RunsInto one other ∨ RunsInto other one

instance (one other : String × String) : Decidable (RunsInto one other) :=
  decidable_of_iff' _ runsInto_iff

instance (one other : String × String) : Decidable (RunTogether one other) :=
  inferInstanceAs (Decidable (_ ∨ _))

theorem foldCase_labelOf (header : String × String) :
    foldCase (labelOf header) = foldCase header.2 ++ '_' :: foldCase header.1 := by
  have separator : ("_" : String).toList = ['_'] := rfl
  have folded : Char.toLower '_' = '_' := rfl
  simp [labelOf, foldCase, separator, folded, toString]

theorem sharesLabel_iff {one other : String × String} :
    sharesLabel one other = true ↔
      answersTo other.2 other.1 one = true ∨ RunTogether one other := by
  rw [sharesLabel, Text.sameName_iff, foldCase_labelOf, foldCase_labelOf, append_separator_inj_iff,
    answersTo_iff, and_comm]
  rfl

theorem not_runsInto_of_sameTable {one other : String × String} (table : one.2 = other.2) :
    ¬RunsInto one other := by
  rintro ⟨middle, longer, _⟩
  have lengths := congrArg List.length longer
  rw [table, List.length_append, List.length_cons] at lengths
  omega

/-- A column of an earlier table of a select list has the label of the given column. -/
def Table.Anticipated (table : Table) (column : Column) (before : List Table) : Prop :=
  ∃ header ∈ before.flatMap Table.headers, RunTogether header (column.name, table.referenceName)

instance (table : Table) (column : Column) (before : List Table) :
    Decidable (table.Anticipated column before) :=
  inferInstanceAs (Decidable (∃ header ∈ _, _))

section Headers

variable {before after : List Table} {table : Table} {left right : List Column} {column : Column}

/-- Columns of tables that are referred to by different names share a label only if their names run
together. -/
theorem sharesLabel_iff_runTogether (references : ReferencesDistinct (before ++ table :: after))
    {header : String × String} (member : header ∈ before.flatMap Table.headers) :
    sharesLabel header (column.name, table.referenceName) = true ↔
      RunTogether header (column.name, table.referenceName) := by
  rcases mem_headers.1 member with ⟨other, there, namesake, _, rfl⟩
  have apart : ¬sameName other.referenceName table.referenceName = true :=
    (List.pairwise_append.1 references).2.2 other there table List.mem_cons_self
  rw [sharesLabel_iff]
  refine or_iff_right fun names => apart ?_
  exact Text.sameName_iff.2 (answersTo_iff.1 names).2

/-- Columns of one table never share a label. -/
theorem not_sharesLabel_of_mem_left (distinct : table.ColumnsDistinct)
    (columns : table.columns = left ++ column :: right) {given : Column} (member : given ∈ left) :
    ¬sharesLabel (given.name, table.referenceName) (column.name, table.referenceName) = true := by
  rw [Table.ColumnsDistinct, columns] at distinct
  have alone : ¬sameName given.name column.name = true :=
    (List.pairwise_append.1 distinct).2.2 given member column List.mem_cons_self
  intro shares
  rcases sharesLabel_iff.1 shares with names | runs | runs
  · exact alone (Text.sameName_iff.2 (answersTo_iff.1 names).1)
  · exact not_runsInto_of_sameTable (Eq.refl table.referenceName) runs
  · exact not_runsInto_of_sameTable (Eq.refl table.referenceName) runs

/-- The first place with the label of a column is in a table before its own, or else its own. -/
theorem findIdx?_headers (distinct : table.ColumnsDistinct)
    (columns : table.columns = left ++ column :: right) :
    ((before ++ table :: after).flatMap Table.headers).findIdx?
        (sharesLabel · (column.name, table.referenceName)) =
      some (((before.flatMap Table.headers).findIdx?
        (sharesLabel · (column.name, table.referenceName))).getD
          ((before.flatMap Table.columns).length + left.length)) := by
  have split : (before ++ table :: after).flatMap Table.headers =
      (before.flatMap Table.headers ++ left.map fun given => (given.name, table.referenceName)) ++
        (column.name, table.referenceName) ::
          ((right.map fun given => (given.name, table.referenceName)) ++
            after.flatMap Table.headers) := by
    simp [Table.headers, columns]
  have none : (left.map fun given => (given.name, table.referenceName)).findIdx?
      (sharesLabel · (column.name, table.referenceName)) = none := by
    refine List.findIdx?_eq_none_iff.2 fun header member => ?_
    rcases List.mem_map.1 member with ⟨given, there, rfl⟩
    exact Bool.eq_false_iff.2 (not_sharesLabel_of_mem_left distinct columns there)
  have own : sharesLabel (column.name, table.referenceName) (column.name, table.referenceName) =
      true := Text.sameName_refl _
  rw [split, findIdx?_append_cons (sharesLabel · (column.name, table.referenceName)) own,
    List.findIdx?_append, none]
  simp [List.length_flatMap, Table.headers]

end Headers

/-- The row is of a query whose select list is all columns of the tables in order: its result
columns have the labels of the select list. -/
structure Row.ReadsListed (row : Row) (query : Select) (tables : List Table) : Prop where
  projections : query.projections = (tables.flatMap Table.columns).map Projection.ofColumn
  mode : row.set.mode = .forSelect query
  labels : row.columns.map (fun described => some described.label) =
    query.projections.map Projection.label

/-- No column of the tables has a label of its own. -/
def Unlabeled (tables : List Table) : Prop :=
  ∀ table ∈ tables, ∀ column ∈ table.columns, column.label = none

instance (tables : List Table) : Decidable (Unlabeled tables) :=
  inferInstanceAs (Decidable (∀ table ∈ tables, _))

namespace Row

variable {row : Row} {query : Select} {tables : List Table} {table : Table} {column : Column}

theorem effectiveLabel_eq_labelOf (built : table.Built) (member : column ∈ table.columns)
    (unlabeled : column.label = none) :
    column.effectiveLabel = labelOf (column.name, table.referenceName) := by
  rcases built.homed column member with ⟨named, renamed⟩
  rw [Column.effectiveLabel, unlabeled, Column.tableReference, named, renamed]
  rfl

theorem ReadsListed.labels_eq (reads : row.ReadsListed query tables)
    (built : ∀ table ∈ tables, table.Built) (unlabeled : Unlabeled tables) :
    row.columns.map ResultColumn.label = (tables.flatMap Table.headers).map labelOf := by
  have listed : row.columns.map ResultColumn.label =
      (tables.flatMap Table.columns).map Column.effectiveLabel := by
    have reported := reads.labels
    rw [reads.projections, List.map_map] at reported
    refine (List.map_inj_right fun _ _ => Option.some.inj).1 ?_
    rw [List.map_map, List.map_map]
    exact reported
  have told : ∀ table ∈ tables,
      table.columns.map Column.effectiveLabel = table.headers.map labelOf := by
    intro table there
    rw [Table.headers, List.map_map]
    exact List.map_congr_left fun column member =>
      effectiveLabel_eq_labelOf (built table there) member (unlabeled table there column member)
  rw [listed, List.map_flatMap, List.map_flatMap, List.flatMap_def, List.flatMap_def,
    List.map_congr_left told]

theorem ReadsListed.length_values (reads : row.ReadsListed query tables)
    (built : ∀ table ∈ tables, table.Built) (unlabeled : Unlabeled tables) :
    row.values.length = (tables.flatMap Table.headers).length := by
  have same := congrArg List.length (reads.labels_eq built unlabeled)
  rw [List.length_map, List.length_map] at same
  rw [row.length_values, ← same]
  rfl

theorem ReadsListed.mode_eq (reads : row.ReadsListed query tables) (there : table ∈ tables)
    (member : column ∈ table.columns) : row.set.mode = .labeled := by
  have listed : query.projections ≠ [] := by
    rw [reads.projections]
    exact List.ne_nil_of_mem (List.mem_map_of_mem (List.mem_flatMap.2 ⟨table, there, member⟩))
  rw [reads.mode, LookupMode.forSelect, Select.hasProjections]
  simp [listed]

/-- The index of a column is the first place of the select list with its label. -/
theorem ReadsListed.indexOf?_eq (reads : row.ReadsListed query tables)
    (built : ∀ table ∈ tables, table.Built) (unlabeled : Unlabeled tables)
    (there : table ∈ tables) (member : column ∈ table.columns) :
    row.indexOf? column = .ok ((tables.flatMap Table.headers).findIdx?
      (sharesLabel · (column.name, table.referenceName))) := by
  have label := effectiveLabel_eq_labelOf (built table there) member
    (unlabeled table there column member)
  have across : row.indexOfLabel? column.effectiveLabel =
      (row.columns.map ResultColumn.label).findIdx? (sameName · column.effectiveLabel) := by
    rw [List.findIdx?_map]
    rfl
  rw [reads.labels_eq built unlabeled, List.findIdx?_map, label] at across
  simp only [indexOf?, reads.mode_eq there member, label, across]
  rfl

/-- A column of a select list of whole tables reads as the value at its own place, unless a table
before its own anticipates it: then it reads as the value of a column of such a table. -/
theorem get_of_readsListed (query : Select) (before after : List Table) (table : Table)
    (left right : List Column) (column : Column) (row : Row)
    (reads : row.ReadsListed query (before ++ table :: after))
    (built : ∀ source ∈ before ++ table :: after, source.Built)
    (references : ReferencesDistinct (before ++ table :: after))
    (distinct : ∀ source ∈ before ++ table :: after, source.ColumnsDistinct)
    (unlabeled : Unlabeled (before ++ table :: after))
    (columns : table.columns = left ++ column :: right) :
    ∃ place value, row.values[place]? = some value ∧
      row.get column = (column.type.decode value).map some ∧
      ((¬table.Anticipated column before ∧
          place = (before.flatMap Table.columns).length + left.length) ∨
        ∃ header, (before.flatMap Table.headers)[place]? = some header ∧
          RunTogether header (column.name, table.referenceName)) := by
  have there : table ∈ before ++ table :: after := by simp
  have member : column ∈ table.columns := by simp [columns]
  have found := reads.indexOf?_eq built unlabeled there member
  rw [findIdx?_headers (distinct table there) columns] at found
  have wide := reads.length_values built unlabeled
  have within : ∀ place, place ≤ (before.flatMap Table.columns).length + left.length →
      place < row.values.length := by
    intro place behind
    have own : ((before ++ table :: after).flatMap Table.headers)[
        (before.flatMap Table.columns).length + left.length]? =
          some (column.name, table.referenceName) := getElem?_headers columns
    have inside := (List.getElem?_eq_some_iff.1 own).1
    omega
  cases earlier : (before.flatMap Table.headers).findIdx?
      (sharesLabel · (column.name, table.referenceName)) with
  | none =>
      rw [earlier, Option.getD_none] at found
      have there := List.getElem?_eq_getElem (within _ (Nat.le_refl _))
      refine ⟨_, _, there, get_of_indexOf? found there, Or.inl ⟨?_, rfl⟩⟩
      rintro ⟨header, given, runs⟩
      have shares := (sharesLabel_iff_runTogether references given).2 runs
      have differs := List.findIdx?_eq_none_iff.1 earlier header given
      exact Bool.false_ne_true (differs.symm.trans shares)
  | some place =>
      rw [earlier, Option.getD_some] at found
      rcases List.findIdx?_eq_some_iff_getElem.1 earlier with ⟨inside, shares, _⟩
      have before_own : place ≤ (before.flatMap Table.columns).length + left.length := by
        have width : (before.flatMap Table.headers).length =
            (before.flatMap Table.columns).length := by simp [List.length_flatMap, Table.headers]
        omega
      have there := List.getElem?_eq_getElem (within place before_own)
      refine ⟨place, _, there, get_of_indexOf? found there, Or.inr
        ⟨(before.flatMap Table.headers)[place], List.getElem?_eq_getElem inside, ?_⟩⟩
      exact (sharesLabel_iff_runTogether references (List.getElem_mem inside)).1 shares

end Row

/-- Orders, each with the number of the item that it is about. -/
def orders : Table :=
  ((Table.named "order").addColumn { table := "", name := "id", type := .integer }).addColumn
    { table := "", name := "item_id", type := .integer }

/-- What was ordered, and how much of it. -/
def orderItems : Table :=
  ((Table.named "order_item").addColumn { table := "", name := "id", type := .integer }).addColumn
    { table := "", name := "amount", type := .integer }

/-- The number of an ordered item, as the item tells it. -/
def idOfItem : Column :=
  { table := "order_item", name := "id", type := .integer }

/-- How much of an item was ordered. -/
def amountOfItem : Column :=
  { table := "order_item", name := "amount", type := .integer }

/-- Orders with items, both selected by name. -/
def ordersWithItems : Select :=
  (((Select.fromTable orders).join ⟨.cross, .table orderItems, none⟩).columnsOf orders).columnsOf
    orderItems

/-- Order 1, which is about item 7, next to two pieces of item 3. -/
def ordersRow : Row where
  set :=
    { rows :=
        { columns := Storage.resultColumns
            ["order_id", "order_item_id", "order_item_id", "order_item_amount"] []
          rows := [[.integer 1, .integer 7, .integer 3, .integer 2]]
          length_row := by decide }
      mode := .forSelect ordersWithItems }
  index := 0
  values := [.integer 1, .integer 7, .integer 3, .integer 2]
  isRow := rfl

theorem ordersRow_readsListed : ordersRow.ReadsListed ordersWithItems [orders, orderItems] where
  projections := rfl
  mode := rfl
  labels := rfl

theorem built_orders : ∀ source ∈ [orders, orderItems], source.Built := by
  have first : orders.Built := .addColumn (.addColumn (.named "order") _) _
  have second : orderItems.Built := .addColumn (.addColumn (.named "order_item") _) _
  simp [first, second]

theorem ordersRow_get_amountOfItem :
    ordersRow.ReadsListed ordersWithItems [orders, orderItems] ∧
      (∀ source ∈ [orders, orderItems], source.Built) ∧
      ReferencesDistinct [orders, orderItems] ∧
      (∀ source ∈ [orders, orderItems], source.ColumnsDistinct) ∧
      Unlabeled [orders, orderItems] ∧ ¬orderItems.Anticipated amountOfItem [orders] ∧
      ordersRow.get amountOfItem = .ok (some (.integer 2)) := by
  have references : ReferencesDistinct [orders, orderItems] := by decide
  have distinct : ∀ source ∈ [orders, orderItems], source.ColumnsDistinct := by decide
  have unlabeled : Unlabeled [orders, orderItems] := by decide
  have clear : ¬orderItems.Anticipated amountOfItem [orders] := by decide
  refine ⟨ordersRow_readsListed, built_orders, references, distinct, unlabeled, clear, ?_⟩
  rcases Row.get_of_readsListed ordersWithItems [orders] [] orderItems [_] [] amountOfItem ordersRow
    ordersRow_readsListed built_orders references distinct unlabeled rfl with
    ⟨place, value, there, reads, ⟨_, rfl⟩ | ⟨header, given, together⟩⟩
  · cases there
    exact reads
  · exact absurd ⟨header, List.mem_of_getElem? given, together⟩ clear

/-- The number of the ordered item reads as that of the item the order is about: the labels of the
two columns agree. -/
theorem ordersRow_get_idOfItem :
    ordersRow.ReadsListed ordersWithItems [orders, orderItems] ∧
      (∀ source ∈ [orders, orderItems], source.Built) ∧
      ReferencesDistinct [orders, orderItems] ∧
      (∀ source ∈ [orders, orderItems], source.ColumnsDistinct) ∧
      Unlabeled [orders, orderItems] ∧ idOfItem ∈ orderItems.columns ∧
      ordersRow.values[orders.columns.length]? = some (.integer 3) ∧
      ordersRow.get idOfItem = .ok (some (.integer 7)) :=
  ⟨ordersRow_readsListed, built_orders, by decide, by decide, by decide, by decide, rfl, rfl⟩

end SqlMapper
