import SqlMapper.Statement.Tree

/-!
# Building statements

Conveniences that build the tree of a statement clause by clause. Conditions added one after the
other are joined by `AND`, leaning left.
-/

namespace SqlMapper

namespace Expr

/-- An argument of the given type. -/
def typed (value : Value) (type : SqlType) : Expr :=
  .argument ⟨value, type⟩

/-- An argument typed by its value. -/
def ofValue (value : Value) : Expr :=
  .argument (.inferred value)

/-- The number of rows, `COUNT(*)`. -/
def countAll : Expr :=
  .call "COUNT" [.raw "*"]

/-- Operands joined by an operator, leaning left; a single one stays as it is. -/
def leanLeft (operator : BinaryOperator) (first : Expr) (rest : List Expr) : Expr :=
  rest.foldl (.binary operator) first

/-- Operands joined by an operator, leaning right; a single one stays as it is. -/
def leanRight (operator : BinaryOperator) (first : Expr) : List Expr → Expr
  | [] => first
  | next :: rest => .binary operator first (leanRight operator next rest)

/-- A condition added to those already there. -/
def conjoin (existing : Option Expr) (condition : Expr) : Expr :=
  match existing with
  | some existing => .binary .and existing condition
  | none => condition

end Expr

namespace Projection

/-- A column under its effective label. -/
def ofColumn (column : Column) : Projection :=
  ⟨.column column, some column.effectiveLabel⟩

/-- An expression under a label. -/
def labeled (expr : Expr) (label : String) : Projection :=
  ⟨expr, some label⟩

/-- An expression without a label. -/
def plain (expr : Expr) : Projection :=
  ⟨expr, none⟩

end Projection

namespace Select

/-- Every column of a table. -/
def fromTable (table : Table) : Select :=
  { source := some (.table table) }

/-- The query has a select list. -/
def hasProjections (query : Select) : Bool :=
  !query.projections.isEmpty

/-- Adds an item to the select list. -/
def project (query : Select) (projection : Projection) : Select :=
  { query with projections := query.projections ++ [projection] }

/-- Adds a column to the select list, under its effective label. -/
def column (query : Select) (column : Column) : Select :=
  query.project (.ofColumn column)

/-- Adds every column of a table to the select list. -/
def columnsOf (query : Select) (table : Table) : Select :=
  { query with projections := query.projections ++ table.columns.map .ofColumn }

/-- Adds a joined source. -/
def join (query : Select) (join : Join) : Select :=
  { query with joins := query.joins ++ [join] }

/-- Adds a condition on rows. -/
def addFilter (query : Select) (condition : Expr) : Select :=
  { query with filter := some (.conjoin query.filter condition) }

/-- Adds a condition on groups. -/
def addHaving (query : Select) (condition : Expr) : Select :=
  { query with having := some (.conjoin query.having condition) }

/-- Asks for a limit, keeping the offset. -/
def withLimit (query : Select) (limit : Nat) : Select :=
  { query with page := some { query.page.getD {} with limit := some limit } }

/-- Asks for an offset, keeping the limit. -/
def withOffset (query : Select) (offset : Nat) : Select :=
  { query with page := some { query.page.getD {} with offset := some offset } }

end Select

namespace Insert

/-- One row of values: each is typed by the column at its place, and by itself past the last
column. -/
def valueRow : List Column → List Value → List Expr
  | _, [] => []
  | [], values => values.map .ofValue
  | column :: columns, value :: values => .typed value column.type :: valueRow columns values

/-- Adds a row of values. -/
def addValues (insert : Insert) (values : List Value) : Insert :=
  { insert with rows := insert.rows ++ [valueRow insert.columns values] }

/-- Adds a row of expressions. -/
def addRow (insert : Insert) (row : List Expr) : Insert :=
  { insert with rows := insert.rows ++ [row] }

end Insert

namespace Update

/-- Assigns an expression to a column. -/
def assign (update : Update) (column : Column) (value : Expr) : Update :=
  { update with assignments := update.assignments ++ [⟨column, value⟩] }

/-- Assigns a value to a column, whose type it takes. -/
def set (update : Update) (column : Column) (value : Value) : Update :=
  update.assign column (.typed value column.type)

/-- Adds a condition on rows. -/
def addFilter (update : Update) (condition : Expr) : Update :=
  { update with filter := some (.conjoin update.filter condition) }

end Update

/-- Adds a condition on rows. -/
def Delete.addFilter (delete : Delete) (condition : Expr) : Delete :=
  { delete with filter := some (.conjoin delete.filter condition) }

end SqlMapper
