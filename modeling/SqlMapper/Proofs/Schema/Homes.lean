import SqlMapper.Proofs.Steps
import SqlMapper.Schema.Table

/-!
# Columns at home in their table

A table takes every column over under its own name and alias. So whatever is done to build a table,
each of its columns knows the name and the alias of the table, and a query can be told from the
column alone which of its sources the column belongs to.
-/

namespace SqlMapper

variable {name : String} {binding : Binding}

theorem Column.bind_eq_ok {column bound : Column} :
    column.bind binding = .ok bound ↔
      column.binding = none ∧ { column with binding := some binding } = bound := by
  rw [bind]
  split
  · next unbound => simp [unbound]
  · next found => simp [found]

namespace Table

variable {table bound : Table}

theorem mem_columns_of_require {column : Column} (found : table.require name = .ok column) :
    column ∈ table.columns := by
  rw [require] at found
  split at found
  · next there =>
    cases found
    exact List.mem_of_find?_eq_some there
  · cases found

theorem mem_replaceFirst {columns : List Column} {replacement column : Column}
    (member : column ∈ replaceFirst name replacement columns) :
    column = replacement ∨ column ∈ columns := by
  induction columns with
  | nil => cases member
  | cons first rest ih =>
      rw [replaceFirst] at member
      split at member
      · exact (List.mem_cons.1 member).imp_right (List.mem_cons_of_mem first)
      · rcases List.mem_cons.1 member with rfl | later
        · exact Or.inr List.mem_cons_self
        · exact (ih later).imp_right (List.mem_cons_of_mem first)

/-- Every column carries the name and the alias of the table. -/
def Homed (table : Table) : Prop :=
  ∀ column ∈ table.columns, column.table = table.name ∧ column.aliasName = table.aliasName

namespace Homed

theorem named (name : String) : (Table.named name).Homed := by
  simp [Homed, Table.named]

/-- A column is at home in the table it enters, wherever it was before. -/
theorem addColumn (homed : table.Homed) (column : Column) : (table.addColumn column).Homed := by
  intro entered member
  rcases List.mem_append.1 member with old | new
  · exact homed entered old
  · rw [List.mem_singleton.1 new]
    exact ⟨rfl, rfl⟩

theorem withPrimaryKey (homed : table.Homed) (key : String) : (table.withPrimaryKey key).Homed :=
  homed

theorem aliased (homed : table.Homed) (name : String) : (table.aliased name).Homed := by
  intro renamed member
  rcases List.mem_map.1 member with ⟨column, old, rfl⟩
  exact ⟨(homed column old).1, rfl⟩

theorem bindColumn (homed : table.Homed) (binds : table.bindColumn name binding = .ok bound) :
    bound.Homed := by
  rw [Table.bindColumn, bind_eq_ok] at binds
  rcases binds with ⟨column, found, binds⟩
  rw [bind_eq_ok] at binds
  rcases binds with ⟨written, write, finish⟩
  rw [← pure_eq_ok.1 finish]
  rcases Column.bind_eq_ok.1 write with ⟨_, rfl⟩
  intro other member
  rcases mem_replaceFirst member with rfl | old
  · exact homed column (mem_columns_of_require found)
  · exact homed other old

end Homed

/-- The tables that can be built: from a name, by columns, a key, aliases and late bindings. -/
inductive Built : Table → Prop where
  | named (name : String) : Built (.named name)
  | addColumn {table : Table} (built : Built table) (column : Column) :
      Built (table.addColumn column)
  | withPrimaryKey {table : Table} (built : Built table) (key : String) :
      Built (table.withPrimaryKey key)
  | aliased {table : Table} (built : Built table) (name : String) : Built (table.aliased name)
  | bindColumn {table bound : Table} {name : String} {binding : Binding} (built : Built table)
      (binds : table.bindColumn name binding = .ok bound) : Built bound

theorem Built.homed (built : table.Built) : table.Homed := by
  induction built with
  | named name => exact .named name
  | addColumn _ column ih => exact ih.addColumn column
  | withPrimaryKey _ key ih => exact ih.withPrimaryKey key
  | aliased _ name ih => exact ih.aliased name
  | bindColumn _ binds ih => exact ih.bindColumn binds

end Table

end SqlMapper
