import ContractWrapper.Method.Comment
import ContractWrapper.Proofs.Failure

/-! The text of a comment.

A comment is opened and closed by lines of their own, and a star leads each row between them. On a
method it says what is called and by which selector, and below that it has a row for each parameter
and at most one for the result.
-/

set_option autoImplicit false

namespace ContractWrapper

def commentText (indent : String) (rows : List String) : String :=
  indent ++ "/**\n" ++ String.join (rows.map fun row => indent ++ " *" ++ row ++ "\n") ++
    indent ++ " */\n"

/-- The row on a parameter. -/
def Argument.row (dialect : Dialect) (argument : Argument) : String :=
  match dialect with
  | .javaScript => " @param \x7b" ++ argument.shown.getD "any" ++ "\x7d " ++ argument.name
  | .typeScript => " @param " ++ argument.name ++ " - " ++ argument.tag

/-- An empty row stands above the others, if there are any. -/
def setApart : List String → List String
  | [] => []
  | rows => "" :: rows

/-- The comment on the method. It names what is called and the selector; below that it has a row for
each parameter, and at most one more, for the result. -/
def Method.CommentedBy (settings : Settings) (method : Method) (comment : String) : Prop :=
  ∃ result : Option String, (∀ row ∈ result, ∃ text, row = " @returns " ++ text) ∧
    comment = commentText settings.indent
      ((" Calls `" ++ method.signature ++ "` (" ++ method.mutability ++ ").") ::
        (" Selector: " ++ method.selector) ::
          setApart (method.inputs.arguments.map (Argument.row settings.dialect) ++ result.toList))

section Rows

/-- What stands behind the star for a line. -/
def commentRow (line : String) : String :=
  if line = "" then "" else " " ++ line

theorem commentRow_append {mark : String} (text : String) (marked : mark ≠ "") :
    commentRow (mark ++ text) = " " ++ mark ++ text := by
  rw [commentRow, if_neg (by simp [marked]), String.append_assoc]

theorem renderLines_commentBlock (indent : String) (lines : List String) :
    Text.renderLines indent (commentBlock lines) =
      commentText indent (lines.map commentRow) := by
  have row (line : String) :
      (if line == "" then " *" else " * " ++ line) = " *" ++ commentRow line := by
    by_cases empty : line = ""
    · simp [commentRow, empty]
    · simp [commentRow, empty, ← String.append_assoc]
  simp only [commentBlock, row]
  simp [commentText, Text.renderLines, Text.Line.render, Text.indentation_one, Function.comp_def,
    String.append_assoc]

theorem commentRow_parameterLine (dialect : Dialect) (argument : Argument) :
    commentRow (parameterLine dialect argument.name
        (argument.shown.getD dialect.types.fallback) argument.tag) = argument.row dialect := by
  have fallback : dialect.types.fallback = "any" := by cases dialect <;> rfl
  rw [fallback, ← String.toList_inj]
  cases dialect with
  | javaScript =>
    rw [parameterLine, String.append_assoc, String.append_assoc, commentRow_append _ (by decide)]
    simp [Argument.row, braced]
  | typeScript =>
    rw [parameterLine, String.append_assoc, String.append_assoc, commentRow_append _ (by decide)]
    simp [Argument.row]

theorem returnLine?_eq_some {dialect : Dialect} {returns : CommentReturn} {line : String}
    (written : returnLine? dialect returns = some line) : ∃ rest, line = "@returns " ++ rest := by
  unfold returnLine? at written
  split at written
  · cases written
    exact ⟨_, String.append_assoc ..⟩
  · cases written
    exact ⟨_, rfl⟩
  · cases written
    exact ⟨"transaction response", by decide⟩
  · obtain ⟨-, same⟩ := Option.ite_none_left_eq_some.mp written
    cases same
    exact ⟨_, rfl⟩

theorem map_commentRow_tagLines {dialect : Dialect} {pieces : CommentPieces}
    {arguments : List Argument}
    (parameters : pieces.parameters = arguments.map (Argument.commentParameter dialect.types)) :
    ∃ result : Option String, (∀ row ∈ result, ∃ text, row = " @returns " ++ text) ∧
      (tagLines dialect pieces).map commentRow =
        arguments.map (Argument.row dialect) ++ result.toList := by
  refine ⟨(returnLine? dialect pieces.returns).map commentRow, ?_, ?_⟩
  · intro row member
    obtain ⟨line, written, rfl⟩ := Option.map_eq_some_iff.mp member
    obtain ⟨text, rfl⟩ := returnLine?_eq_some written
    exact ⟨text, commentRow_append text (by decide)⟩
  · rw [tagLines, List.map_append, parameters, List.map_map, List.map_map, Option.toList_map]
    exact congrArg (· ++ _) (List.map_congr_left fun argument _ =>
      commentRow_parameterLine dialect argument)

theorem map_commentRow_commentLines (dialect : Dialect) {pieces : CommentPieces} {rest : String}
    (summary : pieces.summary = "Calls `" ++ rest) :
    (commentLines dialect pieces).map commentRow =
      (" Calls `" ++ rest) :: (" Selector: " ++ pieces.selector) ::
        setApart ((tagLines dialect pieces).map commentRow) := by
  rw [commentLines, List.map_cons, List.map_cons, summary, commentRow_append _ (by decide),
    commentRow_append _ (by decide)]
  cases tagLines dialect pieces <;> rfl

theorem pieces_of_commentPieces {dialect : Dialect} {method : Method} {pieces : CommentPieces}
    (collected : commentPieces dialect method = .ok pieces) :
    pieces.summary = "Calls `" ++ (method.signature ++ "` (" ++ method.mutability ++ ").") ∧
      pieces.selector = method.selector ∧
      pieces.parameters =
        method.inputs.arguments.map (Argument.commentParameter dialect.types) := by
  unfold commentPieces at collected
  split at collected
  · cases collected
  · cases collected
  · cases collected
    refine ⟨?_, rfl, rfl⟩
    simp only [String.append_assoc]

/-- What is composed for a method is the comment on it. -/
theorem commentedBy_of_composeComment {settings : Settings} {method : Method} {comment : String}
    (composed : composeComment settings method = .ok comment) :
    method.CommentedBy settings comment := by
  obtain ⟨pieces, collected, rfl⟩ := Failure.map_eq_ok_iff.mp composed
  obtain ⟨summary, selector, parameters⟩ := pieces_of_commentPieces collected
  obtain ⟨result, returned, tags⟩ := map_commentRow_tagLines parameters
  refine ⟨result, returned, ?_⟩
  rw [renderComment, renderLines_commentBlock, map_commentRow_commentLines _ summary, selector,
    tags]
  simp only [String.append_assoc]

end Rows

end ContractWrapper
