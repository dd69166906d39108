import SqlMapper.Proofs.Lowering.Heredity

/-!
# Nesting of parentheses

A walk over chunks counts the nesting levels open and stops where a chunk closes a level that is not
open. Chunks are balanced when the walk gets through and ends where it began. Every fragment lowered
for a dialect with balanced page clauses is balanced, and every built-in dialect has them. So the
parenthesis that closes a query or a call is found by walking from the one that opens it.
-/

namespace SqlMapper

namespace Chunk

/-- The nesting depth behind chunks, or nothing when one of them closes a level that is not open. -/
def depthBehind? (depth : Nat) : List Chunk → Option Nat
  | [] => some depth
  | chunk :: rest =>
      if chunk.closes ∧ depth = 0 then none
      else depthBehind? (Rendering.depthBehind depth chunk) rest

/-- The chunks close exactly the levels that they open. -/
def Balanced (chunks : List Chunk) : Prop :=
  depthBehind? 0 chunks = some 0

theorem eq_closeParen_of_closes {chunk : Chunk} (closes : chunk.closes = true) :
    chunk = .token .closeParen := by
  cases chunk with
  | token fixed => cases fixed <;> first | rfl | cases closes
  | _ => cases closes

theorem depthBehind?_append {depth : Nat} {first second : List Chunk} :
    depthBehind? depth (first ++ second) =
      (depthBehind? depth first).bind (depthBehind? · second) := by
  induction first generalizing depth with
  | nil => rfl
  | cons chunk rest ih =>
      rw [List.cons_append, depthBehind?, depthBehind?]
      split
      · rfl
      · exact ih

theorem depthBehind_add {depth outer : Nat} {chunk : Chunk}
    (walked : ¬(chunk.closes = true ∧ depth = 0)) :
    Rendering.depthBehind (depth + outer) chunk = Rendering.depthBehind depth chunk + outer := by
  unfold Rendering.depthBehind
  split
  · omega
  · split
    · rename_i closes
      have positive : depth ≠ 0 := fun zero => walked ⟨closes, zero⟩
      omega
    · rfl

/-- A walk that gets through gets through inside further levels too. -/
theorem depthBehind?_add {depth behind : Nat} {chunks : List Chunk} (outer : Nat)
    (walked : depthBehind? depth chunks = some behind) :
    depthBehind? (depth + outer) chunks = some (behind + outer) := by
  induction chunks generalizing depth with
  | nil =>
      rw [depthBehind?, Option.some.injEq] at walked
      rw [depthBehind?, walked]
  | cons chunk rest ih =>
      rw [depthBehind?] at walked ⊢
      split at walked
      · cases walked
      · rename_i inside
        have stillInside : ¬(chunk.closes = true ∧ depth + outer = 0) := fun outside =>
          inside ⟨outside.1, by omega⟩
        rw [if_neg stillInside, depthBehind_add inside]
        exact ih walked

theorem foldl_depthBehind {depth behind : Nat} {chunks : List Chunk}
    (walked : depthBehind? depth chunks = some behind) :
    chunks.foldl Rendering.depthBehind depth = behind := by
  induction chunks generalizing depth with
  | nil => exact Option.some.inj walked
  | cons chunk rest ih =>
      rw [depthBehind?] at walked
      split at walked
      · cases walked
      · exact ih walked

/-- A walk that gets through ends as many levels deeper as it opens more than it closes. -/
theorem depthBehind?_count {depth behind : Nat} {chunks : List Chunk}
    (walked : depthBehind? depth chunks = some behind) :
    behind + chunks.countP closes = depth + chunks.countP opens := by
  induction chunks generalizing depth with
  | nil =>
      rw [depthBehind?, Option.some.injEq] at walked
      simp [walked]
  | cons chunk rest ih =>
      rw [depthBehind?] at walked
      split at walked
      · cases walked
      · rename_i inside
        have counted := ih walked
        have plain : chunk.opens = true → chunk.closes = false := by
          cases chunk with
          | token fixed => cases fixed <;> decide
          | _ => simp [closes]
        rw [List.countP_cons, List.countP_cons]
        unfold Rendering.depthBehind at counted
        grind

/-- A walk that gets through gets through every beginning of the chunks. -/
theorem exists_depthBehind?_prefix {depth behind : Nat} {before rest : List Chunk}
    (walked : depthBehind? depth (before ++ rest) = some behind) :
    ∃ between, depthBehind? depth before = some between ∧
      depthBehind? between rest = some behind := by
  rw [depthBehind?_append] at walked
  exact Option.bind_eq_some_iff.1 walked

/-- No beginning of the chunks closes more levels than it opens, and all of them close as many as
they open. -/
structure WellBracketed (chunks : List Chunk) : Prop where
  closes_le_opens : ∀ before, before <+: chunks → before.countP closes ≤ before.countP opens
  opens_eq_closes : chunks.countP opens = chunks.countP closes

namespace Balanced

theorem nil : Balanced [] := rfl

theorem depthBehind? {chunks : List Chunk} (balanced : Balanced chunks) (depth : Nat) :
    depthBehind? depth chunks = some depth := by
  simpa using depthBehind?_add depth balanced

theorem append {first second : List Chunk} (firstBalanced : Balanced first)
    (secondBalanced : Balanced second) : Balanced (first ++ second) := by
  rw [Balanced, depthBehind?_append, firstBalanced]
  exact secondBalanced

theorem singleton {chunk : Chunk} (notOpening : chunk.opens = false)
    (notClosing : chunk.closes = false) : Balanced [chunk] := by
  simp [Balanced, Chunk.depthBehind?, Rendering.depthBehind, notOpening, notClosing]

theorem cons {chunk : Chunk} {rest : List Chunk} (notOpening : chunk.opens = false)
    (notClosing : chunk.closes = false) (balanced : Balanced rest) : Balanced (chunk :: rest) :=
  append (singleton notOpening notClosing) balanced

/-- Balanced chunks between an opening chunk and a parenthesis. -/
theorem enclosed {opening : Chunk} {body : List Chunk} (opens : opening.opens = true)
    (balanced : Balanced body) : Balanced (opening :: body ++ [.token .closeParen]) := by
  have plain : opening.closes = false := by
    cases opening with
    | token fixed => cases fixed <;> first | rfl | cases opens
    | _ => rfl
  have inside : Chunk.depthBehind? 0 (opening :: body) = some 1 := by
    rw [Chunk.depthBehind?, if_neg (by simp [plain]), Rendering.depthBehind, if_pos opens]
    exact balanced.depthBehind? 1
  rw [Balanced, depthBehind?_append, inside]
  rfl

/-- In balanced chunks the depth behind every beginning is the number of levels that it opens more
than it closes. -/
theorem foldl_depthBehind_count {before rest : List Chunk} (balanced : Balanced (before ++ rest)) :
    before.foldl Rendering.depthBehind 0 + before.countP Chunk.closes =
      before.countP Chunk.opens := by
  rcases exists_depthBehind?_prefix balanced with ⟨between, walked, -⟩
  rw [foldl_depthBehind walked, depthBehind?_count walked, Nat.zero_add]

theorem wellBracketed {chunks : List Chunk} (balanced : Balanced chunks) :
    WellBracketed chunks where
  closes_le_opens := by
    rintro before ⟨rest, rfl⟩
    have counted := balanced.foldl_depthBehind_count
    omega
  opens_eq_closes := by
    have counted := depthBehind?_count balanced
    omega

/-- In balanced chunks a closing chunk stands inside a level. -/
theorem depth_pos {before rest : List Chunk} {chunk : Chunk} (closes : chunk.closes = true)
    (balanced : Balanced (before ++ chunk :: rest)) :
    0 < before.foldl Rendering.depthBehind 0 := by
  rcases exists_depthBehind?_prefix balanced with ⟨between, walked, onwards⟩
  rw [foldl_depthBehind walked]
  rw [Chunk.depthBehind?] at onwards
  split at onwards
  · cases onwards
  · rename_i inside
    exact Nat.pos_of_ne_zero fun zero => inside ⟨closes, zero⟩

end Balanced

/-- What encloses balanced chunks in parentheses has no balanced beginning short of its end. -/
theorem not_balanced_of_enclosed_append {first second body : List Chunk} {chunk : Chunk}
    (nonempty : first ≠ []) (balanced : Balanced body)
    (same : first ++ chunk :: second = .token .openParen :: body ++ [.token .closeParen]) :
    ¬Balanced first := by
  intro firstBalanced
  cases first with
  | nil => exact nonempty rfl
  | cons opening inner =>
      simp only [List.cons_append, List.cons.injEq] at same
      rcases same with ⟨rfl, same⟩
      rcases List.append_eq_append_iff.1 same with ⟨more, rfl, _⟩ | ⟨more, whole, tail⟩
      · -- The depth never falls to zero inside the body.
        have walked : depthBehind? 0 (inner ++ more) = some 0 := balanced
        rw [depthBehind?_append] at walked
        cases reached : depthBehind? 0 inner with
        | none => simp [reached] at walked
        | some depth =>
            have inside : depthBehind? 0 (.token .openParen :: inner) = some (depth + 1) :=
              depthBehind?_add 1 reached
            rw [Balanced, inside] at firstBalanced
            cases firstBalanced
      · cases more with
        | nil =>
            have inside : depthBehind? 0 (.token .openParen :: inner) = some 1 := by
              rw [whole, List.append_nil]
              exact balanced.depthBehind? 1
            rw [Balanced, inside] at firstBalanced
            cases firstBalanced
        | cons head others => simp at tail

/-- The chunks up to the parenthesis that closes the level at the given depth, and those behind
it. -/
def splitClosing (depth : Nat) : List Chunk → Option (List Chunk × List Chunk)
  | [] => none
  | chunk :: rest =>
      if chunk.closes ∧ depth = 0 then some ([], rest)
      else
        (splitClosing (Rendering.depthBehind depth chunk) rest).map
          fun (body, behind) => (chunk :: body, behind)

theorem splitClosing_append {depth : Nat} {body rest : List Chunk}
    (walked : depthBehind? depth body = some 0) :
    splitClosing depth (body ++ .token .closeParen :: rest) = some (body, rest) := by
  induction body generalizing depth with
  | nil =>
      rw [depthBehind?, Option.some.injEq] at walked
      subst depth
      rfl
  | cons chunk others ih =>
      rw [depthBehind?] at walked
      rw [List.cons_append, splitClosing]
      split at walked
      · cases walked
      · rename_i inside
        rw [if_neg inside, ih walked]
        rfl

theorem eq_append_of_splitClosing {depth : Nat} {chunks body rest : List Chunk}
    (found : splitClosing depth chunks = some (body, rest)) :
    chunks = body ++ .token .closeParen :: rest ∧ depthBehind? depth body = some 0 := by
  induction chunks generalizing depth body with
  | nil => cases found
  | cons chunk others ih =>
      rw [splitClosing] at found
      split at found
      · rename_i closing
        rw [Option.some.injEq, Prod.mk.injEq] at found
        rcases found with ⟨rfl, rfl⟩
        rcases closing with ⟨closes, rfl⟩
        rw [eq_closeParen_of_closes closes]
        exact ⟨rfl, rfl⟩
      · rename_i inside
        simp only [Option.map_eq_some_iff, Prod.mk.injEq, Prod.exists] at found
        rcases found with ⟨inner, behind, innerFound, rfl, rfl⟩
        rcases ih innerFound with ⟨rfl, walked⟩
        refine ⟨rfl, ?_⟩
        rw [depthBehind?, if_neg inside]
        exact walked

end Chunk

theorem Fragment.hereditary_balanced :
    Fragment.Hereditary fun fragment => Chunk.Balanced fragment.chunks where
  empty := Chunk.Balanced.nil
  ofChunk := Chunk.Balanced.singleton
  append := Chunk.Balanced.append
  parenthesized := Chunk.Balanced.enclosed rfl
  called := Chunk.Balanced.enclosed rfl

/-- The page clauses that the dialect writes close exactly the levels that they open. -/
def DialectRules.PagesBalanced (rules : DialectRules) : Prop :=
  ∀ offset limit clause, rules.page offset limit = .ok clause → Chunk.Balanced clause.chunks

theorem Dialect.pagesBalanced (dialect : Dialect) : dialect.rules.PagesBalanced :=
  fun _ _ _ => Fragment.hereditary_balanced.pageClause

section Lowering

variable {rules : DialectRules} (pages : rules.PagesBalanced) {fragment : Fragment}

include pages

/-- A lowered expression closes exactly the levels that it opens. -/
theorem Expr.balanced_lower {expr : Expr} (lowered : expr.lower rules = .ok fragment) :
    Chunk.Balanced fragment.chunks :=
  Expr.holds_lower Fragment.hereditary_balanced pages expr lowered

theorem balanced_lowerExprs {exprs : List Expr} {fragments : List Fragment}
    (lowered : lowerExprs rules exprs = .ok fragments) :
    Chunk.Balanced (commaSeparated fragments).chunks :=
  Fragment.hereditary_balanced.commaSeparated
    (holds_lowerExprs Fragment.hereditary_balanced pages exprs lowered)

/-- A lowered query closes exactly the levels that it opens. -/
theorem Select.balanced_lower {query : Select} (lowered : query.lower rules = .ok fragment) :
    Chunk.Balanced fragment.chunks :=
  Select.holds_lower Fragment.hereditary_balanced pages query lowered

/-- A lowered statement closes exactly the levels that it opens. -/
theorem Statement.balanced_lower {statement : Statement}
    (lowered : statement.lower rules = .ok fragment) : Chunk.Balanced fragment.chunks :=
  statement.holds_lower Fragment.hereditary_balanced pages lowered

end Lowering

end SqlMapper
