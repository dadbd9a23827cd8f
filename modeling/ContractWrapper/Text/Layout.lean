/-! Indented lines.

A line is a depth and a text. The unit of indentation is chosen only when lines are rendered,
and stands nowhere but at their beginning.
-/

set_option autoImplicit false

namespace ContractWrapper.Text

/-- The text may hold line breaks of its own; these are not indented. -/
structure Line where
  depth : Nat
  text : String
  deriving DecidableEq, Repr

def blankLine : Line := ⟨0, ""⟩

def indentation (indent : String) (depth : Nat) : String :=
  String.join (List.replicate depth indent)

def Line.render (indent : String) (line : Line) : String :=
  indentation indent line.depth ++ line.text ++ "\n"

def renderLines (indent : String) (lines : List Line) : String :=
  String.join (lines.map (Line.render indent))

@[simp] theorem indentation_zero (indent : String) : indentation indent 0 = "" := rfl

theorem indentation_succ (indent : String) (depth : Nat) :
    indentation indent (depth + 1) = indent ++ indentation indent depth := by
  simp [indentation, List.replicate_succ]

theorem indentation_one (indent : String) : indentation indent 1 = indent := by
  simp [indentation_succ]

theorem renderLines_append (indent : String) (first rest : List Line) :
    renderLines indent (first ++ rest) = renderLines indent first ++ renderLines indent rest := by
  simp [renderLines]

end ContractWrapper.Text
