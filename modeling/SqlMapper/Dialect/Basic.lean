import SqlMapper.Text.Basic

/-!
# Dialects

The SQL dialects with built-in rules. Each is known by a canonical name and by common aliases, in
any case.
-/

namespace SqlMapper

/-- A SQL dialect. -/
inductive Dialect where
  | generic
  | sqlite
  | postgresql
  | mysql
  | sqlServer
  deriving DecidableEq, Repr

namespace Dialect

/-- SQLite, unless a caller says otherwise. -/
instance : Inhabited Dialect := ⟨sqlite⟩

/-- Every dialect. -/
def all : List Dialect := [generic, sqlite, postgresql, mysql, sqlServer]

/-- The canonical name. -/
def name : Dialect → String
  | generic => "generic"
  | sqlite => "sqlite"
  | postgresql => "postgresql"
  | mysql => "mysql"
  | sqlServer => "sqlserver"

/-- The names that are understood. -/
def aliases : Dialect → List String
  | generic => ["generic", "ansi"]
  | sqlite => ["sqlite", "sqlite3"]
  | postgresql => ["postgresql", "postgres", "pg"]
  | mysql => ["mysql", "mariadb"]
  | sqlServer => ["sqlserver", "mssql", "tsql"]

/-- The dialect a name stands for, in any case. -/
def ofName? (name : String) : Option Dialect :=
  all.find? fun dialect => dialect.aliases.any (Text.sameName name)

/-- The dialect numbers its placeholders. -/
def numbersPlaceholders : Dialect → Bool
  | postgresql | sqlServer => true
  | _ => false

/-- The complaint about a name that is no dialect's. -/
def unknownMessage : String := "unknown dialect"

end Dialect

end SqlMapper
