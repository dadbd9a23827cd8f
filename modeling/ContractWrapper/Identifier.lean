/-! Identifiers of the generated language.

Only ASCII identifiers are accepted, although the language itself also admits
letters of other scripts: a generated file then reads the same in every encoding.
-/

set_option autoImplicit false

namespace ContractWrapper

def isIdentifierStart (c : Char) : Bool :=
  c.isAlpha || c == '_' || c == '$'

def isIdentifierPart (c : Char) : Bool :=
  c.isAlphanum || c == '_' || c == '$'

def isIdentifier (text : String) : Bool :=
  match text.toList with
  | [] => false
  | first :: rest => isIdentifierStart first && rest.all isIdentifierPart

/-- Words that a generated class or parameter may not be named. -/
def reservedWords : List String :=
  ["arguments", "await", "break", "case", "catch", "class", "const", "continue", "debugger",
    "default", "delete", "do", "else", "enum", "eval", "export", "extends", "false", "finally",
    "for", "function", "if", "implements", "import", "in", "instanceof", "interface", "let",
    "new", "null", "package", "private", "protected", "public", "return", "static", "super",
    "switch", "this", "throw", "true", "try", "typeof", "var", "void", "while", "with", "yield"]

def isReservedWord (text : String) : Bool :=
  reservedWords.contains text

/-- Each character that may start an identifier may also continue one. -/
theorem isIdentifierPart_of_start {c : Char} (start : isIdentifierStart c = true) :
    isIdentifierPart c = true := by
  simp only [isIdentifierStart, isIdentifierPart, Char.isAlphanum, Bool.or_eq_true] at start ⊢
  rcases start with (alpha | underscore) | dollar
  · exact .inl (.inl (.inl alpha))
  · exact .inl (.inr underscore)
  · exact .inr dollar

theorem isIdentifierPart_of_mem {text : String} (identifier : isIdentifier text = true) {c : Char}
    (member : c ∈ text.toList) : isIdentifierPart c = true := by
  unfold isIdentifier at identifier
  split at identifier
  · cases identifier
  · next first rest letters =>
    simp only [Bool.and_eq_true, List.all_eq_true] at identifier
    rw [letters, List.mem_cons] at member
    rcases member with rfl | later
    · exact isIdentifierPart_of_start identifier.1
    · exact identifier.2 c later

theorem not_mem_of_isIdentifier {name : String} (identifier : isIdentifier name = true) {c : Char}
    (mark : isIdentifierPart c = false) : c ∉ name.toList := by
  intro member
  rw [isIdentifierPart_of_mem identifier member] at mark
  cases mark

/-- Identifiers hold none of a list of marks that stand in no identifier. -/
theorem free_of_isIdentifier {marks : List Char}
    (apart : (marks.all fun c => !isIdentifierPart c) = true) {name : String}
    (identifier : isIdentifier name = true) : ∀ c ∈ name.toList, c ∉ marks := by
  intro c member mark
  have other := List.all_eq_true.mp apart c mark
  rw [isIdentifierPart_of_mem identifier member] at other
  cases other

theorem ne_empty_of_isIdentifier {name : String} (identifier : isIdentifier name = true) :
    name ≠ "" := by
  rintro rfl
  cases identifier

end ContractWrapper
