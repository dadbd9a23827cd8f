/-! Pascal case for names made of ASCII letters and digits.

A name is cut into words at blanks, where the case or the kind of character changes, and
before the last capital of a run of capitals that a small letter follows.
-/

set_option autoImplicit false

namespace ContractWrapper.Text

/-- Whether a word ends between `left` and `right`, where `after` follows `right`. -/
def endsWord (left right : Char) (after : Option Char) : Bool :=
  left == ' ' || right == ' ' ||
    left.isLower && (right.isUpper || right.isDigit) ||
    left.isUpper && right.isDigit ||
    left.isDigit && right.isAlpha ||
    left.isUpper && right.isUpper && after.any Char.isLower

/-- Cut at every word end; a blank becomes a segment of its own. -/
def segments : List Char → List (List Char)
  | [] => []
  | c :: rest =>
    match rest, segments rest with
    | next :: later, segment :: others =>
      if endsWord c next later.head? then [c] :: segment :: others
      else (c :: segment) :: others
    | _, others => [c] :: others

def words (text : List Char) : List (List Char) :=
  (segments text).filter (· ≠ [' '])

def capitalized : List Char → List Char
  | [] => []
  | first :: rest => first.toUpper :: rest.map Char.toLower

def pascalCase (text : List Char) : List Char :=
  (words text).flatMap capitalized

/-- Cutting loses no character and adds none. -/
theorem flatten_segments (text : List Char) : (segments text).flatten = text := by
  induction text with
  | nil => rfl
  | cons c rest ih =>
    cases rest with
    | nil => simp [segments]
    | cons next later =>
      cases cut : segments (next :: later) with
      | nil => simp [cut] at ih
      | cons segment others =>
        rw [cut, List.flatten_cons] at ih
        simp only [segments.eq_def (c :: next :: later), cut]
        split <;> simp [ih]

end ContractWrapper.Text
