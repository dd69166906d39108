import SqlMapper.Proofs.Grammar.Nesting
import SqlMapper.Proofs.Grammar.Reading

/-!
# Reading chunks by precedence climbing

The parser reads an operand, then climbs: as long as the operator or predicate that follows binds at
least as strongly as the level asked for, it takes what was read as its left operand. On its right
it reads an operand of the next higher level, so equal operators group to the left. An operator
before its operand is taken wherever an operand may start. The fuel bounds the depth of the
recursion; a chunk costs at most two steps.
-/

namespace SqlMapper

namespace Chunk

/-- The binary operator that the chunk writes. -/
def operator? : Chunk → Option BinaryOperator
  | .token .equal => some .equal
  | .token .notEqual => some .notEqual
  | .token .less => some .less
  | .token .lessEqual => some .lessEqual
  | .token .greater => some .greater
  | .token .greaterEqual => some .greaterEqual
  | .token .and => some .and
  | .token .or => some .or
  | .token .plus => some .add
  | .token .minus => some .subtract
  | .token .star => some .multiply
  | .token .slash => some .divide
  | .token .concat => some .concat
  | _ => none

theorem eq_token_of_operator? {chunk : Chunk} {operator : BinaryOperator}
    (found : chunk.operator? = some operator) : chunk = .token operator.token := by
  cases chunk with
  | token fixed =>
      cases fixed <;> first | (cases found; rfl) | cases found
  | _ => cases found

end Chunk

namespace Grammar

/-- What an operand starts with. -/
inductive Start where
  /-- A unit, with its chunks. -/
  | unit (chunks : List Chunk)
  /-- The parenthesis before an expression. -/
  | group
  | unary (operator : UnaryOperator)

/-- The start of an operand, and the chunks behind it. A call or a query ends where its parenthesis
closes. -/
def start? : List Chunk → Option (Start × List Chunk)
  | .qualified table column :: rest => some (.unit [.qualified table column], rest)
  | .argument bound :: rest => some (.unit [.argument bound], rest)
  | .raw text :: rest => some (.unit [.raw text], rest)
  | .call function :: rest =>
      (Chunk.splitClosing 0 rest).map fun (body, behind) =>
        (.unit (.call function :: body ++ [.token .closeParen]), behind)
  | .token .exists :: .token .openParen :: rest =>
      (Chunk.splitClosing 0 rest).map fun (body, behind) =>
        (.unit (.token .exists :: .token .openParen :: body ++ [.token .closeParen]), behind)
  | .token .openParen :: .token .select :: rest =>
      (Chunk.splitClosing 0 rest).map fun (body, behind) =>
        (.unit (.token .openParen :: .token .select :: body ++ [.token .closeParen]), behind)
  | .token .openParen :: rest => some (.group, rest)
  | .token .not :: rest => some (.unary .not, rest)
  | .token .minus :: rest => some (.unary .negate, rest)
  | _ => none

/-- What follows an operand and takes it over. -/
inductive Link where
  | binary (operator : BinaryOperator)
  | isNull (negated : Bool)
  | inList (negated : Bool)
  | between (negated : Bool)
  | like (negated : Bool)

/-- How strongly a link binds. -/
def Link.strength : Link → Nat
  | .binary operator => operator.strength
  | _ => predicateStrength

/-- The link that chunks start with, and the chunks behind it. -/
def link? : List Chunk → Option (Link × List Chunk)
  | .token .is :: .token .null :: rest => some (.isNull false, rest)
  | .token .is :: .token .not :: .token .null :: rest => some (.isNull true, rest)
  | .token .in :: .token .openParen :: rest => some (.inList false, rest)
  | .token .not :: .token .in :: .token .openParen :: rest => some (.inList true, rest)
  | .token .between :: rest => some (.between false, rest)
  | .token .not :: .token .between :: rest => some (.between true, rest)
  | .token .like :: rest => some (.like false, rest)
  | .token .not :: .token .like :: rest => some (.like true, rest)
  | chunk :: rest => chunk.operator?.map fun operator => (.binary operator, rest)
  | [] => none

/-- How strongly the chunks bind to an operand before them. -/
def pull (chunks : List Chunk) : Nat :=
  match link? chunks with
  | some (link, _) => link.strength
  | none => 0

/-- The chunks behind an expected token. -/
def skip (token : Token) : List Chunk → Option (List Chunk)
  | .token found :: rest => if found = token then some rest else none
  | _ => none

mutual

/-- Reads an operand and what binds to it at least as strongly as the level. -/
def read : (fuel level : Nat) → List Chunk → Option (Reading × List Chunk)
  | 0, _, _ => none
  | fuel + 1, level, chunks =>
      match start? chunks with
      | none => none
      | some (.unit span, rest) => climb fuel level (.unit span) rest
      | some (.group, rest) => do
          let (inner, rest) ← read fuel 0 rest
          let rest ← skip .closeParen rest
          climb fuel level inner rest
      | some (.unary operator, rest) => do
          let (operand, rest) ← read fuel operator.strength rest
          climb fuel level (.unary operator operand) rest

/-- Lets the links that bind at least as strongly as the level take over what was read. -/
def climb : (fuel level : Nat) → Reading → List Chunk → Option (Reading × List Chunk)
  | 0, _, _, _ => none
  | fuel + 1, level, left, chunks =>
      match link? chunks with
      | none => some (left, chunks)
      | some (link, rest) =>
          if link.strength < level then some (left, chunks)
          else do
            let (whole, rest) ← complete fuel left link rest
            climb fuel level whole rest

/-- Reads what a link wants behind it. -/
def complete : (fuel : Nat) → Reading → Link → List Chunk → Option (Reading × List Chunk)
  | 0, _, _, _ => none
  | fuel + 1, left, .binary operator, rest => do
      let (right, rest) ← read fuel (operator.strength + 1) rest
      return (.binary operator left right, rest)
  | _ + 1, left, .isNull negated, rest => some (.isNull left negated, rest)
  | fuel + 1, left, .inList negated, rest => do
      let (elements, rest) ← readElements fuel rest
      return (.inList left elements negated, rest)
  | fuel + 1, left, .between negated, rest => do
      let (low, rest) ← read fuel (predicateStrength + 1) rest
      let rest ← skip .and rest
      let (high, rest) ← read fuel (predicateStrength + 1) rest
      return (.between left low high negated, rest)
  | fuel + 1, left, .like negated, rest => do
      let (pattern, rest) ← read fuel (predicateStrength + 1) rest
      return (.like left pattern negated, rest)

/-- Reads expressions between commas, up to a closing parenthesis. -/
def readElements : (fuel : Nat) → List Chunk → Option (List Reading × List Chunk)
  | 0, _ => none
  | fuel + 1, chunks => do
      let (element, rest) ← read fuel 0 chunks
      match rest with
      | .token .comma :: rest => do
          let (elements, rest) ← readElements fuel rest
          return (element :: elements, rest)
      | .token .closeParen :: rest => return ([element], rest)
      | _ => none

end

/-- The reading of chunks, if all of them make up an expression. -/
def parse (chunks : List Chunk) : Option Reading :=
  match read (2 * chunks.length + 1) 0 chunks with
  | some (reading, []) => some reading
  | _ => none

end Grammar

end SqlMapper
