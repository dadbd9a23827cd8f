import ContractWrapper.Text.Layout
import Mathlib.Data.List.Basic

/-! Text that is read back.

A text is cut into its lines, around the places where two characters stand together, or at its
last parentheses. Each way of reading undoes a way of writing, as long as what was written does
not hold the mark that the reader looks for.
-/

set_option autoImplicit false

namespace ContractWrapper.Text

/-- The lines of a text. Each ends with a line feed, which the last one may lack. -/
def linesOf : List Char → List (List Char)
  | [] => []
  | c :: rest =>
    if c = '\n' then [] :: linesOf rest
    else
      match linesOf rest with
      | [] => [[c]]
      | line :: later => (c :: line) :: later

/-- The parts of a text around the places where two characters stand together. -/
def splitAtPair (first second : Char) : List Char → List (List Char)
  | x :: y :: rest =>
    if x = first ∧ y = second then [] :: splitAtPair first second rest
    else (splitAtPair first second (y :: rest)).modifyHead (x :: ·)
  | rest => [rest]

/-- A text that does not go on, or goes on with one of the marks. -/
def Stops (marks rest : List Char) : Prop :=
  ∀ c, rest.head? = some c → c ∈ marks

/-- What stands before the last closing parenthesis, back to the nearest opening one. -/
def lastParenthesized (text : List Char) : List Char :=
  (((text.reverse.dropWhile (· != ')')).drop 1).takeWhile (· != '(')).reverse

/-- A text without marks ends at the first mark behind it. -/
theorem eq_of_append_stops {marks first second rest others : List Char}
    (firstFree : ∀ c ∈ first, c ∉ marks) (secondFree : ∀ c ∈ second, c ∉ marks)
    (stops : Stops marks rest) (stopsOther : Stops marks others)
    (same : first ++ rest = second ++ others) : first = second ∧ rest = others := by
  rcases List.append_eq_append_iff.mp same with ⟨between, rfl, rfl⟩ | ⟨between, rfl, rfl⟩
  · cases between with
    | nil => simp
    | cons c between => exact absurd (stops c rfl) (secondFree c (by simp))
  · cases between with
    | nil => simp
    | cons c between => exact absurd (stopsOther c rfl) (firstFree c (by simp))

section Lines

theorem linesOf_append {line : List Char} (unbroken : '\n' ∉ line) (rest : List Char) :
    linesOf (line ++ '\n' :: rest) = line :: linesOf rest := by
  induction line with
  | nil => simp [linesOf]
  | cons c line ih =>
    obtain ⟨other, unbroken⟩ := List.ne_and_not_mem_of_not_mem_cons unbroken
    simp [linesOf, Ne.symm other, ih unbroken]

theorem linesOf_renderLines {indent : String} {lines : List Line}
    (unbroken : ∀ line ∈ lines, '\n' ∉ (indentation indent line.depth ++ line.text).toList) :
    linesOf (renderLines indent lines).toList =
      lines.map fun line => (indentation indent line.depth ++ line.text).toList := by
  induction lines with
  | nil => rfl
  | cons line rest ih =>
    obtain ⟨here, later⟩ := List.forall_mem_cons.mp unbroken
    have written : (renderLines indent (line :: rest)).toList =
        (indentation indent line.depth ++ line.text).toList ++
          '\n' :: (renderLines indent rest).toList := by
      simp [renderLines, Line.render]
    rw [written, linesOf_append here, ih later, List.map_cons]

end Lines

section Pairs

variable {first second : Char}

theorem splitAtPair_of_not_mem {part : List Char} (free : first ∉ part) :
    splitAtPair first second part = [part] := by
  fun_induction splitAtPair first second part with
  | case1 x y rest here ih => simp [here.1] at free
  | case2 x y rest other ih =>
    rw [ih (List.not_mem_of_not_mem_cons free)]
    rfl
  | case3 rest short => rfl

theorem splitAtPair_append {part : List Char} (free : first ∉ part) (rest : List Char) :
    splitAtPair first second (part ++ first :: second :: rest) =
      part :: splitAtPair first second rest := by
  induction part with
  | nil => simp [splitAtPair]
  | cons c part ih =>
    obtain ⟨other, free⟩ := List.ne_and_not_mem_of_not_mem_cons free
    have step (tail : List Char) (long : tail ≠ []) : splitAtPair first second (c :: tail) =
        (splitAtPair first second tail).modifyHead (c :: ·) := by
      cases tail with
      | nil => exact absurd rfl long
      | cons next tail => simp [splitAtPair, Ne.symm other]
    rw [List.cons_append, step _ (by simp), ih free]
    rfl

/-- Parts that do not hold the first of the two characters are found again. -/
theorem splitAtPair_intercalate {parts : List (List Char)} (some : parts ≠ [])
    (free : ∀ part ∈ parts, first ∉ part) :
    splitAtPair first second ([first, second].intercalate parts) = parts := by
  induction parts with
  | nil => exact absurd rfl some
  | cons part rest ih =>
    obtain ⟨here, later⟩ := List.forall_mem_cons.mp free
    cases rest with
    | nil => simpa using splitAtPair_of_not_mem here
    | cons next rest =>
      rw [List.intercalate_cons_cons, List.append_assoc]
      exact (splitAtPair_append here _).trans (congrArg _ (ih (by simp) later))

end Pairs

theorem lastParenthesized_append {inner after : List Char} (before : List Char)
    (shut : ')' ∉ after) (flat : '(' ∉ inner) :
    lastParenthesized (before ++ '(' :: inner ++ ')' :: after) = inner := by
  have tail : (before ++ '(' :: inner ++ ')' :: after).reverse =
      after.reverse ++ ')' :: (inner.reverse ++ '(' :: before.reverse) := by simp
  rw [lastParenthesized, tail, List.dropWhile_append_of_pos (by grind),
    List.dropWhile_cons_of_neg (by simp), List.drop_one, List.tail_cons,
    List.takeWhile_append_of_pos (by grind)]
  simp

end ContractWrapper.Text
