import SqlMapper.Number.Binary64

/-!
# Tables of data files

A data file is a table of named values, in which tables nest. There are several ways to define a
table, and each table is defined once: a header opens it, a header of a table inside it implies it,
a dotted name defines it in passing, or it stands as a value between braces and is closed. A header
may open what other headers only implied. A dotted name may add to what dotted names of the same
table have defined.
-/

namespace SqlMapper.Toml

/-- How a table was defined. -/
inductive Origin where
  /-- As a value between braces; nothing is added to it. -/
  | closed
  /-- By a header of its own. -/
  | header
  /-- By the header of a table inside it. -/
  | implied
  /-- By a dotted name. -/
  | dotted
  deriving DecidableEq, Repr

/-- A value of a data file. -/
inductive Node where
  | text (text : String)
  | integer (number : Int)
  | float (number : Number.Binary64)
  | boolean (flag : Bool)
  /-- A date, a time of day or both, as written. -/
  | moment (text : String)
  | array (elements : List Node)
  | table (origin : Origin) (entries : List (String × Node))
  /-- Tables that share one header, each opened by it anew. -/
  | tables (earlier : List (List (String × Node))) (last : List (String × Node))

/-- The named values of a table, in the order in which the names were defined. -/
abbrev Entries := List (String × Node)

/-- A name behind the names of the tables that hold it. -/
structure KeyPath where
  tables : List String
  name : String
  deriving DecidableEq, Repr

namespace KeyPath

/-- The names of the path in order. -/
def names (path : KeyPath) : List String :=
  path.tables ++ [path.name]

end KeyPath

namespace Entries

/-- The entries with a value replaced, or added at the end. -/
def put (name : String) (node : Node) : Entries → Entries
  | [] => [(name, node)]
  | (other, held) :: rest =>
      if other = name then (name, node) :: rest else (other, held) :: put name node rest

/-- Changes the table at the end of names, the change being told how the table was defined. Tables
that are missing are defined as the way of getting there defines them; of tables that share a header
the last is meant. A dotted name does not pass a table that has a header. -/
def within (passing : Origin) (change : Origin → Entries → Option Entries) :
    List String → Origin → Entries → Option Entries
  | [], origin, entries => change origin entries
  | name :: names, _, entries =>
      match entries.lookup name with
      | none =>
          (within passing change names passing []).map fun inner =>
            put name (.table passing inner) entries
      | some (.table .closed _) => none
      | some (.table origin inner) =>
          if passing = .dotted ∧ origin = .header then none
          else
            (within passing change names origin inner).map fun inner =>
              put name (.table origin inner) entries
      | some (.tables earlier last) =>
          (within passing change names .header last).map fun last =>
            put name (.tables earlier last) entries
      | some _ => none

/-- Gives a value to a new name. Behind other names its table has to be defined by dotted names. -/
def define (path : KeyPath) (node : Node) : Origin → Entries → Option Entries :=
  within .dotted
    (fun origin entries =>
      if (path.tables = [] ∨ origin = .dotted) ∧ (entries.lookup path.name).isNone then
        some (put path.name node entries)
      else none)
    path.tables

/-- Gives a value to a new name of the table with a header. -/
def defineUnder (header : List String) (path : KeyPath) (node : Node) (entries : Entries) :
    Option Entries :=
  within .implied (define path node) header .header entries

/-- Opens a table by its header: a new one, or one that other headers implied. -/
def openTable (path : KeyPath) (entries : Entries) : Option Entries :=
  within .implied
    (fun _ entries =>
      match entries.lookup path.name with
      | none => some (put path.name (.table .header []) entries)
      | some (.table .implied inner) => some (put path.name (.table .header inner) entries)
      | some _ => none)
    path.tables .header entries

/-- Opens one more of the tables that share a header. -/
def openElement (path : KeyPath) (entries : Entries) : Option Entries :=
  within .implied
    (fun _ entries =>
      match entries.lookup path.name with
      | none => some (put path.name (.tables [] []) entries)
      | some (.tables earlier last) =>
          some (put path.name (.tables (earlier ++ [last]) []) entries)
      | some _ => none)
    path.tables .header entries

end Entries

end SqlMapper.Toml
