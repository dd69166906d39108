import SqlMapper.Proofs.Lowering.Demands

/-!
# When formatting fails

A statement is formatted if it lowers and its arguments encode. Under a built-in dialect a page is
refused for bounds that are no SQL integers only, and whatever lowering refuses is reported as an
unsupported shape. Arguments are encoded after that, so a fault of a conversion tells that the
statement lowers, and it is the fault of the first argument that has one.
-/

namespace SqlMapper

section Pages

variable {name : String} {count : Nat} {error : Error}

theorem le_greatestInteger : (count : Int) ≤ greatestInteger ↔ count ≤ Page.maxLimit := by
  have greatest : greatestInteger = (Page.maxLimit : Int) := by decide +kernel
  rw [greatest, Int.ofNat_le]

/-- A bound becomes an argument if it is a SQL integer. -/
theorem exists_countArgument_eq_ok :
    (∃ argument, countArgument name count = .ok argument) ↔ count ≤ Page.maxLimit := by
  rw [countArgument, ← le_greatestInteger]
  split
  case isTrue fits => simp [fits]
  case isFalse exceeds => simp [exceeds]

theorem countArgument_eq_error (refused : countArgument name count = .error error) :
    error = .unsupported (.bound name count) := by
  rw [countArgument] at refused
  split at refused
  · cases refused
  · cases refused
    rfl

/-- The number that a part of a page clause binds. -/
def PagePart.bound? (offset limit : Nat) : PagePart → Option Nat
  | .token _ => none
  | .offset => some offset
  | .limit => some limit

theorem exists_pageClause_eq_ok {parts : List PagePart} {offset limit : Nat} :
    (∃ clause, pageClause parts offset limit = .ok clause) ↔
      ∀ bound ∈ parts.filterMap (PagePart.bound? offset limit), bound ≤ Page.maxLimit := by
  induction parts with
  | nil => simp [pageClause]
  | cons part rest ih =>
      cases part with
      | token token =>
          rw [pageClause, exists_map_eq_ok, ih]
          rfl
      | offset | limit =>
          rw [pageClause, exists_bind_eq_ok fun _ => exists_map_eq_ok, exists_countArgument_eq_ok,
            ih]
          simp [PagePart.bound?]

theorem pageClause_eq_error {parts : List PagePart} {offset limit : Nat}
    (refused : pageClause parts offset limit = .error error) :
    ∃ name bound, error = .unsupported (.bound name bound) := by
  induction parts with
  | nil => cases refused
  | cons part rest ih =>
      cases part with
      | token token =>
          rw [pageClause, map_eq_error] at refused
          exact ih refused
      | offset | limit =>
          rw [pageClause, bind_eq_error] at refused
          rcases refused with boundRefused | ⟨_, _, restRefused⟩
          · exact ⟨_, _, countArgument_eq_error boundRefused⟩
          · exact ih (map_eq_error.1 restRefused)

/-- A built-in dialect has a page clause for all bounds that are SQL integers. -/
theorem Demand.pageBounds_met_iff {dialect : Dialect} {page : Page} :
    (Demand.pageBounds page).Met dialect.rules ↔
      page.bounds.1 ≤ Page.maxLimit ∧ page.bounds.2 ≤ Page.maxLimit := by
  have written : (∃ clause, dialect.rules.page page.bounds.1 page.bounds.2 = .ok clause) ↔
      page.bounds.1 ≤ Page.maxLimit ∧ page.bounds.2 ≤ Page.maxLimit := by
    have bounds : dialect.pageParts.filterMap (PagePart.bound? page.bounds.1 page.bounds.2) =
          [page.bounds.1, page.bounds.2] ∨
        dialect.pageParts.filterMap (PagePart.bound? page.bounds.1 page.bounds.2) =
          [page.bounds.2, page.bounds.1] := by
      cases dialect
      case mysql | sqlServer => exact .inl rfl
      case generic | sqlite | postgresql => exact .inr rfl
    apply exists_pageClause_eq_ok.trans
    rcases bounds with bounds | bounds
    · rw [bounds, List.forall_mem_cons, List.forall_mem_singleton]
    · rw [bounds, List.forall_mem_cons, List.forall_mem_singleton]
      exact and_comm
  rw [← written, Demand.Met]
  constructor
  · rintro ⟨clause, clauseWritten, _⟩
    exact ⟨clause, clauseWritten⟩
  · rintro ⟨clause, clauseWritten⟩
    refine ⟨clause, clauseWritten, ?_⟩
    rw [Fragment.argumentCount, arguments_pageClause clauseWritten]
    cases dialect <;> rfl

theorem Demand.fault?_eq_unsupported {dialect : Dialect} {demand : Demand}
    (unmet : demand.fault? dialect.rules = some error) : ∃ shape, error = .unsupported shape := by
  cases demand with
  | joinCondition kind given =>
      cases kind <;> cases given <;> cases unmet <;> exact ⟨_, rfl⟩
  | pageBounds page =>
      rw [Demand.fault?] at unmet
      cases clause : dialect.rules.page page.bounds.1 page.bounds.2 with
      | error refusal =>
          rw [clause] at unmet
          cases unmet
          rcases pageClause_eq_error clause with ⟨name, bound, rfl⟩
          exact ⟨_, rfl⟩
      | ok body =>
          rw [clause] at unmet
          dsimp only at unmet
          split at unmet <;> cases unmet
          exact ⟨_, rfl⟩
  | _ =>
      rw [Demand.fault?] at unmet
      split at unmet <;> cases unmet
      exact ⟨_, rfl⟩

end Pages

/-- Lowering for a built-in dialect fails with an unsupported shape only. -/
theorem Statement.lower_eq_unsupported {dialect : Dialect} {statement : Statement} {error : Error}
    (failed : statement.lower dialect.rules = .error error) :
    ∃ shape, error = .unsupported shape := by
  rw [Statement.lower_eq_error_iff] at failed
  rcases List.exists_of_findSome?_eq_some failed with ⟨demand, _, unmet⟩
  exact Demand.fault?_eq_unsupported unmet

theorem Argument.encode_eq_error {argument : Argument} {error : Error}
    (failed : argument.encode = .error error) : ∃ fault, error = .conversion fault := by
  rw [encode, map_eq_error] at failed
  exact SqlType.coerce_eq_error failed

/-- What fails first in a list is its head, or it comes behind a head that does not fail. -/
theorem exists_first_cons {α : Type} {passes fails : α → Prop} {head : α} {rest : List α} :
    (∃ before bad after, head :: rest = before ++ bad :: after ∧
        (∀ item ∈ before, passes item) ∧ fails bad) ↔
      fails head ∨ (passes head ∧ ∃ before bad after, rest = before ++ bad :: after ∧
        (∀ item ∈ before, passes item) ∧ fails bad) := by
  constructor
  · rintro ⟨before, bad, after, same, pass, failed⟩
    cases before with
    | nil =>
        cases same
        exact Or.inl failed
    | cons first others =>
        cases same
        rcases List.forall_mem_cons.1 pass with ⟨firstPasses, othersPass⟩
        exact Or.inr ⟨firstPasses, others, bad, after, rfl, othersPass, failed⟩
  · rintro (failed | ⟨headPasses, before, bad, after, rfl, pass, failed⟩)
    · exact ⟨[], head, rest, rfl, by simp, failed⟩
    · exact ⟨head :: before, bad, after, rfl, List.forall_mem_cons.2 ⟨headPasses, pass⟩, failed⟩

namespace Formatter

theorem exists_encodeArguments_eq_ok {arguments : List Argument} :
    (∃ encoded, encodeArguments arguments = .ok encoded) ↔
      ∀ argument ∈ arguments, ∃ encoded, argument.encode = .ok encoded := by
  induction arguments with
  | nil => simp [encodeArguments]
  | cons argument rest ih =>
      rw [encodeArguments, exists_bind_eq_ok fun _ => exists_map_eq_ok, ih, List.forall_mem_cons]

/-- Of the arguments that do not encode the first is reported. -/
theorem encodeArguments_eq_error {arguments : List Argument} {error : Error} :
    encodeArguments arguments = .error error ↔
      ∃ before bad after, arguments = before ++ bad :: after ∧
        (∀ argument ∈ before, ∃ encoded, argument.encode = .ok encoded) ∧
        bad.encode = .error error := by
  induction arguments with
  | nil => simp [encodeArguments]
  | cons argument rest ih =>
      rw [encodeArguments, bind_eq_error, exists_first_cons, ← ih]
      simp only [map_eq_error, exists_and_right]

variable {rules : DialectRules} {layout : Layout} {statement : Statement}

theorem exists_format_eq_ok :
    (∃ compiled, (Formatter.mk rules layout).format statement = .ok compiled) ↔
      ∃ fragment, statement.lower rules = .ok fragment ∧
        ∀ argument ∈ fragment.arguments, ∃ encoded, argument.encode = .ok encoded := by
  simp only [format_eq_ok, ← exists_encodeArguments_eq_ok]
  constructor
  · rintro ⟨compiled, fragment, lowered, encoded, success, _⟩
    exact ⟨fragment, lowered, encoded, success⟩
  · rintro ⟨fragment, lowered, encoded, success⟩
    exact ⟨_, fragment, lowered, encoded, success, rfl⟩

theorem format_eq_error_of_lower {fragment : Fragment} {error : Error}
    (lowered : statement.lower rules = .ok fragment) :
    (Formatter.mk rules layout).format statement = .error error ↔
      encodeArguments fragment.arguments = .error error := by
  rw [format, lower, lowered]
  exact map_eq_error

/-- A statement lowers if the demands of all its places are met, and is formatted if its arguments
encode as well. A built-in dialect demands of a page that its bounds are SQL integers, and refuses
unsupported shapes only. Of the arguments that do not encode the first is reported. -/
theorem format_succeeds_iff (rules : DialectRules) (dialect : Dialect) (layout : Layout)
    (statement : Statement) :
    ((∃ fragment, statement.lower rules = .ok fragment) ↔
      ∀ demand ∈ statement.demands, demand.Met rules) ∧
    (∀ page : Page, (Demand.pageBounds page).Met dialect.rules ↔
      page.bounds.1 ≤ Page.maxLimit ∧ page.bounds.2 ≤ Page.maxLimit) ∧
    (∀ error, statement.lower dialect.rules = .error error →
      ∃ shape, error = .unsupported shape) ∧
    ((∃ compiled, (Formatter.mk rules layout).format statement = .ok compiled) ↔
      ∃ fragment, statement.lower rules = .ok fragment ∧
        ∀ argument ∈ fragment.arguments, ∃ encoded, argument.encode = .ok encoded) ∧
    ((∃ compiled, (Formatter.mk dialect.rules layout).format statement = .ok compiled) ↔
      (∀ demand ∈ statement.demands, demand.Met dialect.rules) ∧
        ∀ argument ∈ statement.arguments dialect, ∃ encoded, argument.encode = .ok encoded) ∧
    (∀ fragment error, statement.lower rules = .ok fragment →
      ((Formatter.mk rules layout).format statement = .error error ↔
        ∃ fault before bad after, error = .conversion fault ∧
          fragment.arguments = before ++ bad :: after ∧
          (∀ argument ∈ before, ∃ encoded, argument.encode = .ok encoded) ∧
          bad.type.encode bad.value = .error error)) := by
  refine ⟨Statement.exists_lower_eq_ok_iff,
    fun _ => Demand.pageBounds_met_iff, fun _ => Statement.lower_eq_unsupported,
    exists_format_eq_ok, ?_, ?_⟩
  · rw [exists_format_eq_ok, ← Statement.exists_lower_eq_ok_iff]
    constructor
    · rintro ⟨fragment, lowered, encode⟩
      rw [Statement.arguments_lower lowered] at encode
      exact ⟨⟨fragment, lowered⟩, encode⟩
    · rintro ⟨⟨fragment, lowered⟩, encode⟩
      rw [← Statement.arguments_lower lowered] at encode
      exact ⟨fragment, lowered, encode⟩
  · intro fragment error lowered
    rw [format_eq_error_of_lower lowered, encodeArguments_eq_error]
    constructor
    · rintro ⟨before, bad, after, same, encode, failed⟩
      rcases Argument.encode_eq_error failed with ⟨fault, rfl⟩
      exact ⟨fault, before, bad, after, rfl, same, encode, map_eq_error.1 failed⟩
    · rintro ⟨fault, before, bad, after, rfl, same, encode, failed⟩
      exact ⟨before, bad, after, same, encode, map_eq_error.2 failed⟩

/-- A paged query that looks for numbers in a subquery, two of which are none. -/
def wordsForNumbers : Statement :=
  .select
    { filter := some <|
        .existsQuery
          { filter := some <|
              .inList (.raw "a")
                [.argument ⟨.integer 5, .integer⟩, .argument ⟨.text "seven", .integer⟩,
                  .argument ⟨.text "eight", .integer⟩] false } false
      page := some { limit := some 4 } }

theorem format_wordsForNumbers :
    (∀ demand ∈ wordsForNumbers.demands, demand.Met Dialect.sqlite.rules) ∧
      (Formatter.mk Dialect.sqlite.rules .compact).format wordsForNumbers =
        .error (.conversion (.invalidInteger "seven" .invalidDigit)) := by
  rcases format_succeeds_iff Dialect.sqlite.rules .sqlite .compact wordsForNumbers with
    ⟨lowers, _, _, _, _, fails⟩
  have lowered : wordsForNumbers.lower Dialect.sqlite.rules = .ok
      ⟨[.token .select, .token .star, .clauseBreak, .token .where, .token .exists,
        .token .openParen, .token .select, .token .star, .clauseBreak, .token .where, .raw "a",
        .token .in, .token .openParen, .argument ⟨.integer 5, .integer⟩, .token .comma,
        .argument ⟨.text "seven", .integer⟩, .token .comma, .argument ⟨.text "eight", .integer⟩,
        .token .closeParen, .token .closeParen, .clauseBreak, .token .limit,
        .argument ⟨.integer 4, .integer⟩, .token .offset, .argument ⟨.integer 0, .integer⟩]⟩ := rfl
  refine ⟨lowers.1 ⟨_, lowered⟩, (fails _ _ lowered).2 ?_⟩
  refine ⟨_, [⟨.integer 5, .integer⟩], ⟨.text "seven", .integer⟩, _, rfl, rfl, ?_, ?_⟩
  · rw [List.forall_mem_singleton]
    exact ⟨⟨.integer 5, .integer⟩, rfl⟩
  · rfl

end Formatter

end SqlMapper
