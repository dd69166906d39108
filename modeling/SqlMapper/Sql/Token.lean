/-!
# Keywords, operators and punctuation

The fixed words and signs of SQL. Operators stand between spaces; punctuation clings to what it
separates or encloses. The star is neither: it is spaced like a word. The kinds of joins are named
by the keywords they are written with.
-/

namespace SqlMapper

/-- A fixed word or sign of SQL. -/
inductive Token where
  | select
  | distinct
  | «from»
  | «where»
  | and
  | or
  | not
  | as
  | on
  | join
  | inner
  | left
  | right
  | full
  | cross
  | group
  | order
  | «by»
  | having
  | asc
  | desc
  | nulls
  | first
  | last
  | limit
  | offset
  | rows
  | fetch
  | next
  | only
  | insert
  | into
  | values
  | update
  | set
  | delete
  | is
  | null
  | «in»
  | between
  | like
  | «exists»
  | star
  | comma
  | openParen
  | closeParen
  | dot
  | semicolon
  | equal
  | notEqual
  | less
  | greater
  | lessEqual
  | greaterEqual
  | plus
  | minus
  | slash
  | concat
  deriving DecidableEq, Repr

namespace Token

/-- How the token is written. -/
def text : Token → String
  | select => "SELECT"
  | distinct => "DISTINCT"
  | «from» => "FROM"
  | «where» => "WHERE"
  | and => "AND"
  | or => "OR"
  | not => "NOT"
  | as => "AS"
  | on => "ON"
  | join => "JOIN"
  | inner => "INNER"
  | left => "LEFT"
  | right => "RIGHT"
  | full => "FULL"
  | cross => "CROSS"
  | group => "GROUP"
  | order => "ORDER"
  | «by» => "BY"
  | having => "HAVING"
  | asc => "ASC"
  | desc => "DESC"
  | nulls => "NULLS"
  | first => "FIRST"
  | last => "LAST"
  | limit => "LIMIT"
  | offset => "OFFSET"
  | rows => "ROWS"
  | fetch => "FETCH"
  | next => "NEXT"
  | only => "ONLY"
  | insert => "INSERT"
  | into => "INTO"
  | values => "VALUES"
  | update => "UPDATE"
  | set => "SET"
  | delete => "DELETE"
  | is => "IS"
  | null => "NULL"
  | «in» => "IN"
  | between => "BETWEEN"
  | like => "LIKE"
  | «exists» => "EXISTS"
  | star => "*"
  | comma => ","
  | openParen => "("
  | closeParen => ")"
  | dot => "."
  | semicolon => ";"
  | equal => "="
  | notEqual => "<>"
  | less => "<"
  | greater => ">"
  | lessEqual => "<="
  | greaterEqual => ">="
  | plus => "+"
  | minus => "-"
  | slash => "/"
  | concat => "||"

/-- The token is an operator, which stands between spaces. -/
def isOperator : Token → Bool
  | equal | notEqual | less | greater | lessEqual | greaterEqual | plus | minus | slash | concat =>
      true
  | _ => false

/-- The token is punctuation, which is never spaced like a word. -/
def isPunctuation : Token → Bool
  | comma | openParen | closeParen | dot | semicolon => true
  | _ => false

/-- The keywords, then the punctuation, then the operators. -/
def all : List Token :=
  [ select, distinct, «from», «where», and, or, not, as, on, join, inner, left, right, full, cross,
    group, order, «by», having, asc, desc, nulls, first, last, limit, offset, rows, fetch, next,
    only, insert, into, values, update, set, delete, is, null, «in», between, like, «exists», star,
    comma, openParen, closeParen, dot, semicolon, equal, notEqual, less, greater, lessEqual,
    greaterEqual, plus, minus, slash, concat ]

end Token

/-- How a source is joined to those before it. -/
inductive JoinKind where
  | inner
  | left
  | right
  | full
  | cross
  deriving DecidableEq, Repr

namespace JoinKind

/-- Every kind of join. -/
def all : List JoinKind := [.inner, .left, .right, .full, .cross]

/-- The keywords of a join. -/
def keywords : JoinKind → String
  | .inner => "INNER JOIN"
  | .left => "LEFT JOIN"
  | .right => "RIGHT JOIN"
  | .full => "FULL JOIN"
  | .cross => "CROSS JOIN"

end JoinKind

end SqlMapper
