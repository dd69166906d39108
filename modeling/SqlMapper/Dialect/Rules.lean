import SqlMapper.Dialect.Basic
import SqlMapper.Error
import SqlMapper.Sql.Rendering
import SqlMapper.Value.Conversion

/-!
# Rules of a dialect

What differs between dialects: placeholders, quotation, the page clause, the kinds of joins, and
whether a page needs an order. A rule left out is the one most dialects follow.
-/

namespace SqlMapper

open Value in
/-- A page bound as an argument; it has to fit a SQL integer. -/
def countArgument (name : String) (count : Nat) : Except Error Argument :=
  if (count : Int) ≤ greatestInteger then .ok ⟨integer (Int64.ofNat count), .integer⟩
  else .error (.unsupported (.bound name count))

/-- A name between an opening and a closing sign; a closing sign in the name is doubled. -/
def quoteWith (opening closing : Char) (name : String) : String :=
  String.ofList <|
    opening :: (name.toList.flatMap fun char => if char = closing then [char, char] else [char]) ++
      [closing]

/-- A part of a page clause: a token or one of the bounds. -/
inductive PagePart where
  | token (token : Token)
  | offset
  | limit
  deriving DecidableEq, Repr

/-- The page clause of these parts, the bounds bound as arguments from left to right. -/
def pageClause (parts : List PagePart) (offset limit : Nat) : Except Error Fragment :=
  match parts with
  | [] => .ok .empty
  | .token token :: rest => do
      let clause ← pageClause rest offset limit
      return .ofToken token ++ clause
  | .offset :: rest => do
      let argument ← countArgument "offset" offset
      let clause ← pageClause rest offset limit
      return .ofArgument argument ++ clause
  | .limit :: rest => do
      let argument ← countArgument "limit" limit
      let clause ← pageClause rest offset limit
      return .ofArgument argument ++ clause

/-- `LIMIT` limit `OFFSET` offset. -/
def limitOffset : List PagePart :=
  [.token .limit, .limit, .token .offset, .offset]

/-- `LIMIT` offset `,` limit. -/
def limitComma : List PagePart :=
  [.token .limit, .offset, .token .comma, .limit]

/-- `OFFSET` offset `ROWS FETCH NEXT` limit `ROWS ONLY`. -/
def offsetFetch : List PagePart :=
  [.token .offset, .offset, .token .rows, .token .fetch, .token .next, .limit, .token .rows,
    .token .only]

/-- How a dialect writes SQL. -/
structure DialectRules where
  /-- The name in messages. -/
  name : String
  /-- The placeholder of an argument, counted from one. -/
  placeholder : Nat → String := fun _ => "?"
  /-- A name as an identifier. -/
  quote : String → String := quoteWith '"' '"'
  /-- The page clause for an offset and a limit; it holds exactly two arguments. -/
  page : (offset limit : Nat) → Except Error Fragment := pageClause limitOffset
  /-- The dialect has this kind of join. -/
  supports : JoinKind → Bool := fun _ => true
  /-- A page clause needs an order. -/
  pagesNeedOrder : Bool := false

/-- The signs that rendering needs. -/
def DialectRules.signs (rules : DialectRules) : Signs :=
  { placeholder := rules.placeholder, quote := rules.quote }

namespace Dialect

/-- The placeholder of an argument, counted from one. -/
def placeholder (dialect : Dialect) (number : Nat) : String :=
  match dialect with
  | .postgresql => s!"${number}"
  | .sqlServer => s!"@p{number}"
  | _ => "?"

/-- A name as an identifier. -/
def quote (dialect : Dialect) (name : String) : String :=
  match dialect with
  | .mysql => quoteWith '\x60' '\x60' name
  | .sqlServer => quoteWith '[' ']' name
  | _ => quoteWith '"' '"' name

/-- The parts of the page clause. -/
def pageParts : Dialect → List PagePart
  | .mysql => limitComma
  | .sqlServer => offsetFetch
  | _ => limitOffset

/-- The dialect has this kind of join. -/
def supports (dialect : Dialect) (kind : JoinKind) : Bool :=
  !(dialect == .mysql && kind == .full)

/-- The rules of a built-in dialect. -/
def rules (dialect : Dialect) : DialectRules where
  name := dialect.name
  placeholder := dialect.placeholder
  quote := dialect.quote
  page := pageClause dialect.pageParts
  supports := dialect.supports
  pagesNeedOrder := dialect == .sqlServer

end Dialect

end SqlMapper
