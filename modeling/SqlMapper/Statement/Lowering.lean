import SqlMapper.Dialect.Rules
import SqlMapper.Statement.Precedence

/-!
# From statements to fragments

A statement becomes the fragment of its clauses, in the order in which they are written. Of several
faults the one that is met first on the way is reported: clauses go in order, a join is checked
before its source is lowered, a row of an `INSERT` before its values are.
-/

namespace SqlMapper

/-- A clause: a boundary, its keywords, and its body. -/
def clauseOf (keywords : List Token) (body : Fragment) : Fragment :=
  ⟨.clauseBreak :: keywords.map .token⟩ ++ body

/-- The keyword `NOT`, if it is wanted. -/
def negation (negated : Bool) : Fragment :=
  if negated then .ofToken .not else .empty

/-- Fragments between commas. -/
def commaSeparated (fragments : List Fragment) : Fragment :=
  .join .comma fragments

/-- The table's name, and its alias if it has one. -/
def Table.lower (table : Table) : Fragment :=
  match table.aliasName with
  | some name => (Fragment.ofName table.name).named name
  | none => .ofName table.name

/-- The keyword that names a kind of join. -/
def JoinKind.token : JoinKind → Token
  | .inner => .inner
  | .left => .left
  | .right => .right
  | .full => .full
  | .cross => .cross

/-- The keyword of a direction. -/
def Direction.token : Direction → Token
  | .ascending => .asc
  | .descending => .desc

/-- The keywords that put NULL first or last, if an order says so. -/
def nullsKeywords : Option NullsOrder → Fragment
  | none => .empty
  | some .first => .ofToken .nulls ++ .ofToken .first
  | some .last => .ofToken .nulls ++ .ofToken .last

/-- The page clause of a query; a dialect may want the query to be ordered, and its clause has to
hold the two bounds and nothing else as arguments. -/
def lowerPage (rules : DialectRules) (ordered : Bool) : Option Page → Except Error Fragment
  | none => .ok .empty
  | some page => do
      if rules.pagesNeedOrder && !ordered then throw (.unsupported (.unorderedPage rules.name))
      let (offset, limit) := page.bounds
      let fragment ← rules.page offset limit
      if fragment.argumentCount ≠ 2 then
        throw (.unsupported (.pageArguments rules.name fragment.argumentCount))
      return clauseOf [] fragment

mutual

/-- The fragment of an expression. -/
def Expr.lower (rules : DialectRules) : Expr → Except Error Fragment
  | .column column => .ok (.ofChunk (.qualified column.tableReference column.name))
  | .argument argument => .ok (.ofArgument argument)
  | .raw text => .ok (.ofChunk (.raw text))
  | .binary operator left right => do
      let leftFragment ← left.lower rules
      let rightFragment ← right.lower rules
      return parenthesizedIf (left.needsParens operator .left) leftFragment ++
        .ofToken operator.token ++
        parenthesizedIf (right.needsParens operator .right) rightFragment
  | .unary operator operand => do
      let fragment ← operand.lower rules
      return .ofToken operator.token ++ parenthesizedIf operand.isBinary fragment
  | .call function arguments => do
      let fragments ← lowerExprs rules arguments
      return .called function (commaSeparated fragments)
  | .isNull operand negated => do
      let fragment ← operand.lower rules
      return parenthesizedIf operand.isBinary fragment ++ .ofToken .is ++ negation negated ++
        .ofToken .null
  | .inList operand elements negated => do
      if elements.isEmpty then throw (.unsupported .emptyInList)
      let fragment ← operand.lower rules
      let fragments ← lowerExprs rules elements
      return parenthesizedIf operand.isBinary fragment ++ negation negated ++ .ofToken .in ++
        (commaSeparated fragments).parenthesized
  | .between operand low high negated => do
      let fragment ← operand.lower rules
      let lowFragment ← low.lower rules
      let highFragment ← high.lower rules
      return parenthesizedIf operand.isBinary fragment ++ negation negated ++ .ofToken .between ++
        parenthesizedIf low.isBinary lowFragment ++ .ofToken .and ++
        parenthesizedIf high.isBinary highFragment
  | .like operand pattern negated => do
      let fragment ← operand.lower rules
      let patternFragment ← pattern.lower rules
      return parenthesizedIf operand.isBinary fragment ++ negation negated ++ .ofToken .like ++
        parenthesizedIf pattern.isBinary patternFragment
  | .subquery query => do
      let fragment ← query.lower rules
      return fragment.parenthesized
  | .existsQuery query negated => do
      let fragment ← query.lower rules
      return negation negated ++ .ofToken .exists ++ fragment.parenthesized

/-- The fragments of expressions. -/
def lowerExprs (rules : DialectRules) : List Expr → Except Error (List Fragment)
  | [] => .ok []
  | expr :: rest => do
      let fragment ← expr.lower rules
      let fragments ← lowerExprs rules rest
      return fragment :: fragments

/-- The clause of a condition; without a condition there is none. -/
def lowerCondition (rules : DialectRules) (keyword : Token) :
    Option Expr → Except Error Fragment
  | none => .ok .empty
  | some condition => do
      let fragment ← condition.lower rules
      return clauseOf [keyword] fragment

/-- An item of a select list, under its label if it has one. -/
def Projection.lower (rules : DialectRules) : Projection → Except Error Fragment
  | { expr, label } => do
      let fragment ← expr.lower rules
      return match label with
        | some label => fragment.named label
        | none => fragment

/-- The items of a select list. -/
def lowerProjections (rules : DialectRules) : List Projection → Except Error (List Fragment)
  | [] => .ok []
  | projection :: rest => do
      let fragment ← projection.lower rules
      let fragments ← lowerProjections rules rest
      return fragment :: fragments

/-- A source, under its alias if it has one. -/
def Source.lower (rules : DialectRules) : Source → Except Error Fragment
  | .table table => .ok table.lower
  | .query query name => do
      let fragment ← query.lower rules
      return fragment.parenthesized.named name

/-- The clause of a query's first source. -/
def lowerFrom (rules : DialectRules) : Option Source → Except Error Fragment
  | none => .ok .empty
  | some source => do
      let fragment ← source.lower rules
      return clauseOf [.from] fragment

/-- The clause of a joined source. The dialect has to have the kind of join; a cross join has no
condition and every other join has one. -/
def Join.lower (rules : DialectRules) : Join → Except Error Fragment
  | { kind, source, condition } => do
      if !rules.supports kind then throw (.unsupported (.join rules.name kind))
      let sourceFragment ← source.lower rules
      let head := clauseOf [kind.token, .join] sourceFragment
      match kind, condition with
      | .cross, none => return head
      | .cross, some _ => throw (.unsupported .crossJoinCondition)
      | kind, none => throw (.unsupported (.missingJoinCondition kind))
      | _, some condition =>
          let fragment ← condition.lower rules
          return head ++ .ofToken .on ++ fragment

/-- The clauses of the joined sources. -/
def lowerJoins (rules : DialectRules) : List Join → Except Error Fragment
  | [] => .ok .empty
  | join :: rest => do
      let fragment ← join.lower rules
      let fragments ← lowerJoins rules rest
      return fragment ++ fragments

/-- A term of an order. -/
def OrderTerm.lower (rules : DialectRules) : OrderTerm → Except Error Fragment
  | { expr, direction, nulls } => do
      let fragment ← expr.lower rules
      return fragment ++ .ofToken direction.token ++ nullsKeywords nulls

/-- The terms of an order. -/
def lowerOrderTerms (rules : DialectRules) : List OrderTerm → Except Error (List Fragment)
  | [] => .ok []
  | term :: rest => do
      let fragment ← term.lower rules
      let fragments ← lowerOrderTerms rules rest
      return fragment :: fragments

/-- The fragment of a query. -/
def Select.lower (rules : DialectRules) : Select → Except Error Fragment
  | { distinct, projections, source, joins, filter, groupBy, having, orderBy, page } => do
      let items ← lowerProjections rules projections
      let sourceClause ← lowerFrom rules source
      let joinClauses ← lowerJoins rules joins
      let filterClause ← lowerCondition rules .where filter
      let groups ← lowerExprs rules groupBy
      let havingClause ← lowerCondition rules .having having
      let terms ← lowerOrderTerms rules orderBy
      let pageClause ← lowerPage rules (!orderBy.isEmpty) page
      return .ofToken .select ++ (if distinct then .ofToken .distinct else .empty) ++
        (if projections.isEmpty then .ofToken .star else commaSeparated items) ++
        sourceClause ++ joinClauses ++ filterClause ++
        (if groupBy.isEmpty then .empty else clauseOf [.group, .by] (commaSeparated groups)) ++
        havingClause ++
        (if orderBy.isEmpty then .empty else clauseOf [.order, .by] (commaSeparated terms)) ++
        pageClause

end

/-- The rows of an `INSERT`, each as wide as the column list. -/
def lowerRows (rules : DialectRules) (width index : Nat) :
    List (List Expr) → Except Error (List Fragment)
  | [] => .ok []
  | row :: rest => do
      if row.length ≠ width then throw (.unsupported (.insertRowWidth index row.length width))
      let values ← lowerExprs rules row
      let fragments ← lowerRows rules width (index + 1) rest
      return (commaSeparated values).parenthesized :: fragments

/-- The fragment of an `INSERT`, which names columns and has rows. -/
def Insert.lower (rules : DialectRules) (insert : Insert) : Except Error Fragment := do
  if insert.columns.isEmpty then
    throw (.unsupported (.insertWithoutColumns insert.table.name))
  if insert.rows.isEmpty then
    throw (.unsupported (.insertWithoutRows insert.table.name))
  let rows ← lowerRows rules insert.columns.length 0 insert.rows
  let columns := commaSeparated (insert.columns.map fun column => .ofName column.name)
  return .ofToken .insert ++ .ofToken .into ++ .ofName insert.table.name ++ columns.parenthesized ++
    clauseOf [.values] (commaSeparated rows)

/-- The assignments of an `UPDATE`. -/
def lowerAssignments (rules : DialectRules) :
    List Assignment → Except Error (List Fragment)
  | [] => .ok []
  | assignment :: rest => do
      let value ← assignment.value.lower rules
      let fragments ← lowerAssignments rules rest
      return (Fragment.ofName assignment.column.name ++ .ofToken .equal ++ value) :: fragments

/-- The fragment of an `UPDATE`, which has assignments. -/
def Update.lower (rules : DialectRules) (update : Update) : Except Error Fragment := do
  if update.assignments.isEmpty then
    throw (.unsupported (.updateWithoutAssignments update.table.name))
  let assignments ← lowerAssignments rules update.assignments
  let filterClause ← lowerCondition rules .where update.filter
  return .ofToken .update ++ update.table.lower ++ clauseOf [.set] (commaSeparated assignments) ++
    filterClause

/-- The fragment of a `DELETE`. -/
def Delete.lower (rules : DialectRules) (delete : Delete) : Except Error Fragment := do
  let filterClause ← lowerCondition rules .where delete.filter
  return .ofToken .delete ++ .ofToken .from ++ delete.table.lower ++ filterClause

/-- The fragment of a statement. -/
def Statement.lower (rules : DialectRules) : Statement → Except Error Fragment
  | .select query => query.lower rules
  | .insert insertion => insertion.lower rules
  | .update change => change.lower rules
  | .delete removal => removal.lower rules

end SqlMapper
