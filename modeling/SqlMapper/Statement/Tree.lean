import SqlMapper.Schema.Table
import SqlMapper.Sql.Token
import SqlMapper.Value.Basic

/-!
# Statements

A statement is a tree of clauses and expressions. A query may stand as a source, as a scalar or
behind `EXISTS`, so queries and expressions are defined together. The order of the clauses is fixed
by the type, not by the caller.
-/

namespace SqlMapper

/-- An operator between two operands. -/
inductive BinaryOperator where
  | equal
  | notEqual
  | less
  | lessEqual
  | greater
  | greaterEqual
  | and
  | or
  | add
  | subtract
  | multiply
  | divide
  | concat
  deriving DecidableEq, Repr

/-- An operator before its operand. -/
inductive UnaryOperator where
  | not
  | negate
  deriving DecidableEq, Repr

/-- The direction of an order. -/
inductive Direction where
  | ascending
  | descending
  deriving DecidableEq, Repr

/-- Where an order puts NULL. -/
inductive NullsOrder where
  | first
  | last
  deriving DecidableEq, Repr

/-- The part of a result that is asked for. -/
structure Page where
  offset : Option Nat := none
  limit : Option Nat := none
  deriving DecidableEq, Repr

/-- The greatest limit, the greatest SQL integer. -/
def Page.maxLimit : Nat := Int64.maxValue.toNatClampNeg

/-- The offset and the limit: without an offset the result is read from its start, without a limit
to its end. -/
def Page.bounds (page : Page) : Nat × Nat :=
  (page.offset.getD 0, page.limit.getD maxLimit)

mutual

/-- An expression. -/
inductive Expr where
  | column (column : Column)
  /-- An argument, written as a placeholder. -/
  | argument (argument : Argument)
  /-- SQL text written as it is. -/
  | raw (text : String)
  | binary (operator : BinaryOperator) (left right : Expr)
  | unary (operator : UnaryOperator) (operand : Expr)
  | call (function : String) (arguments : List Expr)
  | isNull (operand : Expr) (negated : Bool)
  | inList (operand : Expr) (elements : List Expr) (negated : Bool)
  | between (operand low high : Expr) (negated : Bool)
  | like (operand pattern : Expr) (negated : Bool)
  | subquery (query : Select)
  | existsQuery (query : Select) (negated : Bool)

/-- An item of a select list, perhaps under a label. -/
structure Projection where
  expr : Expr
  label : Option String

/-- What a query reads from. -/
inductive Source where
  | table (table : Table)
  | query (query : Select) (aliasName : String)

/-- A source joined to those before it. -/
structure Join where
  kind : JoinKind
  source : Source
  /-- The condition; every kind but a cross join has one. -/
  condition : Option Expr

/-- A term of an order. -/
structure OrderTerm where
  expr : Expr
  direction : Direction
  nulls : Option NullsOrder

/-- A query. Without projections it selects every column. -/
structure Select where
  distinct : Bool := false
  projections : List Projection := []
  source : Option Source := none
  joins : List Join := []
  filter : Option Expr := none
  groupBy : List Expr := []
  having : Option Expr := none
  orderBy : List OrderTerm := []
  page : Option Page := none

end

/-- New rows for a table. -/
structure Insert where
  table : Table
  columns : List Column := []
  rows : List (List Expr) := []

/-- A column with its new value. -/
structure Assignment where
  column : Column
  value : Expr

/-- New values for the rows of a table. -/
structure Update where
  table : Table
  assignments : List Assignment := []
  filter : Option Expr := none

/-- The removal of rows from a table. -/
structure Delete where
  table : Table
  filter : Option Expr := none

/-- A statement. -/
inductive Statement where
  | select (query : Select)
  | insert (insertion : Insert)
  | update (change : Update)
  | delete (removal : Delete)

end SqlMapper
