import Mathlib.Data.List.Forall2
import SqlMapper.Proofs.Arguments.Traversal
import SqlMapper.Proofs.Rendering.Pieces

/-!
# Placeholders and arguments of a formatted statement

This file joins the three walks over a statement: the walk over its tree that lists its arguments,
the writing that numbers the placeholders, and the encoding that prepares the arguments to be bound.
A formatted statement binds, under each placeholder, the encoding of the argument that stands at
the placeholder's place in the tree.
-/

namespace SqlMapper

/-- The second argument is the first with its value encoded by its type. -/
def Argument.EncodesTo (bound encoded : Argument) : Prop :=
  bound.type.encode bound.value = .ok encoded.value ∧ encoded.type = bound.type

theorem Argument.encodesTo_of_encode {bound encoded : Argument}
    (success : bound.encode = .ok encoded) : bound.EncodesTo encoded := by
  rw [Argument.encode, bind_eq_ok] at success
  rcases success with ⟨value, valueEncoded, same⟩
  rw [pure_eq_ok] at same
  subst same
  exact ⟨valueEncoded, rfl⟩

namespace Formatter

theorem forall₂_encodesTo {bound encoded : List Argument}
    (success : encodeArguments bound = .ok encoded) :
    List.Forall₂ Argument.EncodesTo bound encoded := by
  induction bound generalizing encoded with
  | nil =>
      rw [← Except.ok.inj success]
      exact List.Forall₂.nil
  | cons argument rest ih =>
      simp only [encodeArguments, bind_eq_ok, pure_eq_ok] at success
      rcases success with ⟨first, firstEncoded, others, othersEncoded, rfl⟩
      exact List.Forall₂.cons (Argument.encodesTo_of_encode firstEncoded) (ih othersEncoded)

/-- A formatted statement binds the encodings of its tree's arguments, in the order of the tree, and
its text is written in pieces, one for each chunk of the lowered statement, among which the
placeholders count these arguments from one. -/
theorem format_binds_arguments_in_order (dialect : Dialect) (layout : Layout)
    (statement : Statement) {compiled : Compiled}
    (formatted : (Formatter.mk dialect.rules layout).format statement = .ok compiled) :
    List.Forall₂ Argument.EncodesTo (statement.arguments dialect) compiled.arguments ∧
      ∃ fragment, statement.lower dialect.rules = .ok fragment ∧
        ∃ written, written = Rendering.pieces dialect.rules.signs layout {} fragment.chunks ∧
          compiled.sql.toList = written.flatMap Rendering.Piece.written ∧
          written.map Rendering.Piece.chunk = fragment.chunks ∧
          Rendering.placeholders written =
            ((statement.arguments dialect).zipIdx 1).map fun (argument, number) =>
              (argument, (dialect.placeholder number).toList) := by
  rw [format_eq_ok] at formatted
  rcases formatted with ⟨fragment, lowered, encoded, success, rfl⟩
  have sameArguments : fragment.arguments = statement.arguments dialect :=
    Statement.arguments_lower lowered
  constructor
  · rw [← sameArguments]
    exact forall₂_encodesTo success
  · refine ⟨fragment, lowered, _, rfl, ?_, ?_, ?_⟩
    · rw [Fragment.render, String.toList_ofList]
      exact Rendering.write_eq_flatMap_pieces _ _ _ _
    · exact Rendering.map_chunk_pieces _ _ _ _
    · rw [← sameArguments]
      exact Rendering.placeholders_pieces _ _ _ _

/-- An update that compares the result of a paged query with two bounds. -/
def pagedUpdate : Statement :=
  .update
    { table := .named "t"
      assignments :=
        [⟨{ table := "t", name := "a", type := .integer }, .argument ⟨.integer 1, .integer⟩⟩]
      filter := some <|
        .between
          (.subquery
            { projections := [⟨.argument ⟨.text "7", .integer⟩, none⟩]
              orderBy := [⟨.raw "1", .ascending, none⟩]
              page := some { limit := some 4 } })
          (.argument ⟨.boolean true, .integer⟩) (.argument ⟨.null, .text⟩) false }

theorem format_pagedUpdate :
    ∃ compiled, (Formatter.mk Dialect.sqlServer.rules .compact).format pagedUpdate = .ok compiled ∧
      compiled.sql =
        "UPDATE [t] SET [a] = @p1 WHERE (SELECT @p2 ORDER BY 1 ASC " ++
          "OFFSET @p3 ROWS FETCH NEXT @p4 ROWS ONLY) BETWEEN @p5 AND @p6" ∧
      List.Forall₂ Argument.EncodesTo
        [⟨.integer 1, .integer⟩, ⟨.text "7", .integer⟩, ⟨.integer 0, .integer⟩,
          ⟨.integer 4, .integer⟩, ⟨.boolean true, .integer⟩, ⟨.null, .text⟩]
        compiled.arguments ∧
      ∃ fragment, pagedUpdate.lower Dialect.sqlServer.rules = .ok fragment ∧
        (Rendering.placeholders
          (Rendering.pieces Dialect.sqlServer.rules.signs .compact {} fragment.chunks)).map
            (fun placeholder => String.ofList placeholder.2) =
          ["@p1", "@p2", "@p3", "@p4", "@p5", "@p6"] := by
  have formatted : (Formatter.mk Dialect.sqlServer.rules .compact).format pagedUpdate = .ok
      { sql :=
          "UPDATE [t] SET [a] = @p1 WHERE (SELECT @p2 ORDER BY 1 ASC " ++
            "OFFSET @p3 ROWS FETCH NEXT @p4 ROWS ONLY) BETWEEN @p5 AND @p6"
        arguments :=
          [⟨.integer 1, .integer⟩, ⟨.integer 7, .integer⟩, ⟨.integer 0, .integer⟩,
            ⟨.integer 4, .integer⟩, ⟨.integer 1, .integer⟩, ⟨.null, .text⟩] } := by
    decide +kernel
  rcases format_binds_arguments_in_order .sqlServer .compact pagedUpdate formatted with
    ⟨encoded, fragment, lowered, written, rfl, _, _, numbered⟩
  refine ⟨_, formatted, rfl, encoded, fragment, lowered, ?_⟩
  rw [numbered]
  decide +kernel

end Formatter

end SqlMapper
