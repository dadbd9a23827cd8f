import ContractWrapper.Proofs.Class
import ContractWrapper.Proofs.Text.Casing

/-! The names of classes.

A derived name consists of the ASCII letters and digits of the text that it is made from. It starts
with a capital, or with an underscore before a digit, and no reserved word does; so it can be used
as it is, like a configured name that has been checked.
-/

set_option autoImplicit false

namespace ContractWrapper

/-- The characters of a text that a class name may hold. -/
def nameCharacters (raw : String) : List Char :=
  raw.toList.filter Char.isAlphanum

/-- A class name that needs no change to be used, nor to be part of a path. -/
structure IsClassName (name : String) : Prop where
  identifier : isIdentifier name = true
  unreserved : isReservedWord name = false

section Derived

theorem filter_separateWords (text : List Char) :
    (separateWords text).filter (· ≠ ' ') = text.filter Char.isAlphanum := by
  induction text with
  | nil => rfl
  | cons c rest ih =>
    have step : (separateWords (c :: rest)).filter (· ≠ ' ') =
        [if c.isAlphanum then c else ' '].filter (· ≠ ' ') ++
          (separateWords rest).filter (· ≠ ' ') := by
      rw [← List.filter_append]
      rfl
    rw [step, ih]
    by_cases kept : c.isAlphanum = true
    · have visible : c ≠ ' ' := by
        rintro rfl
        cases kept
      simp [kept, visible]
    · simp [kept]

theorem isAlpha_eq_false_of_isDigit {c : Char} (digit : c.isDigit = true) : c.isAlpha = false := by
  simp [Char.isDigit, Char.isAlpha, Char.isUpper, Char.isLower, UInt32.le_iff_toNat_le] at digit ⊢
  omega

theorem isIdentifierStart_of_isDigit {c : Char} (digit : c.isDigit = true) :
    isIdentifierStart c = false := by
  have underscore : c ≠ '_' := by
    rintro rfl
    cases digit
  have dollar : c ≠ '$' := by
    rintro rfl
    cases digit
  simp [isIdentifierStart, isAlpha_eq_false_of_isDigit digit, underscore, dollar]

theorem toUpper_of_isDigit {c : Char} (digit : c.isDigit = true) : c.toUpper = c := by
  have other := isAlpha_eq_false_of_isDigit digit
  rw [Char.isAlpha, Bool.or_eq_false_iff] at other
  exact Char.toUpper_eq_of_not_isLower (by simp [other.2])

theorem isIdentifier_ofList_cons (c : Char) (rest : List Char) :
    isIdentifier (String.ofList (c :: rest)) =
      (isIdentifierStart c && rest.all isIdentifierPart) := by
  simp [isIdentifier]

theorem all_isIdentifierPart {text : List Char} (every : ∀ c ∈ text, c.isAlphanum = true) :
    text.all isIdentifierPart = true := by
  apply List.all_eq_true.mpr
  intro c member
  simp [isIdentifierPart, every c member]

-- Reserved words are written in small letters.
theorem isReservedWord_of_head {c : Char} (large : c.isLower = false) (rest : List Char) :
    isReservedWord (String.ofList (c :: rest)) = false := by
  have small : ∀ word ∈ reservedWords, word.toList.head?.any Char.isLower = true := by decide
  apply Bool.eq_false_iff.mpr
  intro reserved
  have member : String.ofList (c :: rest) ∈ reservedWords := by
    simpa [isReservedWord] using reserved
  have start := small _ member
  rw [String.toList_ofList, List.head?_cons, Option.any_some, large] at start
  cases start

theorem underscore_append (text : List Char) :
    "_" ++ String.ofList text = String.ofList ('_' :: text) := by
  rw [show "_" = String.ofList ['_'] from rfl, ← String.ofList_append, List.singleton_append]

/-- A derived name is the default one, or consists of the characters up to their case, with an
underscore in front of a digit. -/
inductive DerivedFrom : List Char → String → Prop where
  | nothing : DerivedFrom [] "Contract"
  | characters {first : Char} {rest name : List Char}
      (same : name.map Char.toLower = (first :: rest).map Char.toLower) :
    DerivedFrom (first :: rest) (String.ofList (if first.isDigit then '_' :: name else name))

section Pascal

variable (raw : String)

def pascalName (raw : String) : List Char :=
  Text.pascalCase (separateWords raw.toList)

theorem map_toLower_pascalName :
    (pascalName raw).map Char.toLower = (nameCharacters raw).map Char.toLower := by
  rw [pascalName, Text.map_toLower_pascalCase, filter_separateWords, nameCharacters]

theorem head?_pascalName :
    (pascalName raw).head? = (nameCharacters raw).head?.map Char.toUpper := by
  rw [pascalName, Text.head?_pascalCase, filter_separateWords, nameCharacters]

theorem isAlphanum_of_mem_pascalName : ∀ c ∈ pascalName raw, c.isAlphanum = true := by
  apply Text.isAlphanum_of_mem_pascalCase
  intro c member
  rw [filter_separateWords] at member
  exact (List.mem_filter.mp member).2

theorem deriveClassName_of_nil (none : nameCharacters raw = []) :
    deriveClassName raw = "Contract" := by
  have empty : pascalName raw = [] := by
    apply List.map_eq_nil_iff.mp
    rw [map_toLower_pascalName, none, List.map_nil]
  rw [deriveClassName, ← pascalName, empty]
  rfl

-- A digit has no capital and starts no identifier; a letter becomes a capital, which starts one.
theorem deriveClassName_of_cons {first : Char} {rest : List Char}
    (some : nameCharacters raw = first :: rest) :
    deriveClassName raw =
        String.ofList (if first.isDigit then '_' :: pascalName raw else pascalName raw) ∧
      IsClassName (deriveClassName raw) := by
  have head := head?_pascalName raw
  have every := isAlphanum_of_mem_pascalName raw
  have kept : first.isAlphanum = true :=
    (List.mem_filter.mp (some.symm ▸ List.mem_cons_self : first ∈ nameCharacters raw)).2
  rw [some] at head
  rw [deriveClassName, ← pascalName]
  generalize pascalName raw = name at head every
  cases name with
  | nil => cases head
  | cons c tail =>
    cases Option.some.inj head
    by_cases digit : first.isDigit = true
    · have plain := toUpper_of_isDigit digit
      rw [plain] at every ⊢
      have refused : isIdentifier (String.ofList (first :: tail)) = false := by
        rw [isIdentifier_ofList_cons, isIdentifierStart_of_isDigit digit, Bool.false_and]
      have identifier : isIdentifier (String.ofList ('_' :: first :: tail)) = true := by
        rw [isIdentifier_ofList_cons, all_isIdentifierPart every]
        rfl
      have filled : (String.ofList (first :: tail) != "") = true := by simp
      rw [refused, underscore_append, identifier, filled, if_pos digit]
      exact ⟨rfl, identifier, isReservedWord_of_head (by decide) _⟩
    · have letter : first.isAlpha = true := by simpa [Char.isAlphanum, digit] using kept
      have start : isIdentifierStart first.toUpper = true := by
        rw [isIdentifierStart, Char.isAlpha, Char.isUpper_toUpper_eq_isAlpha, letter]
        rfl
      have identifier : isIdentifier (String.ofList (first.toUpper :: tail)) = true := by
        rw [isIdentifier_ofList_cons, start, all_isIdentifierPart (List.forall_mem_cons.mp every).2]
        rfl
      rw [if_pos identifier, if_neg digit]
      exact ⟨rfl, identifier, isReservedWord_of_head (Char.isLower_toUpper_eq_false first) _⟩

theorem isClassName_deriveClassName : IsClassName (deriveClassName raw) := by
  cases found : nameCharacters raw with
  | nil =>
    rw [deriveClassName_of_nil raw found]
    exact ⟨by decide, by decide⟩
  | cons first rest => exact (deriveClassName_of_cons raw found).2

theorem derivedFrom_deriveClassName : DerivedFrom (nameCharacters raw) (deriveClassName raw) := by
  cases found : nameCharacters raw with
  | nil =>
    rw [deriveClassName_of_nil raw found]
    exact .nothing
  | cons first rest =>
    rw [(deriveClassName_of_cons raw found).1]
    apply DerivedFrom.characters
    rw [map_toLower_pascalName, found]

example : deriveClassName "3d-token" = "_3DToken" := by decide

end Pascal

end Derived

section Wrapper

variable {settings : Settings} {contractName fileStem : Option String} {wrapper : Wrapper}

theorem isClassName_classNameFor (valid : settings.Valid)
    (contractName fileStem : Option String) :
    IsClassName (classNameFor settings contractName fileStem) := by
  unfold classNameFor
  split
  · next name configured =>
    exact ⟨valid.className_identifier name configured, valid.className_free name configured⟩
  · cases contractName.or fileStem with
    | none => exact ⟨by decide, by decide⟩
    | some raw =>
      rw [Option.map_some, Option.getD_some]
      exact isClassName_deriveClassName raw

theorem named_of_generate {text : String}
    (generated : (Wrapper.generate settings fileStem text).result = .ok wrapper) :
    IsClassName wrapper.className ∧ wrapper.extension = settings.dialect.fileExtension := by
  obtain ⟨description, -, generated⟩ := ofInterface_of_generate generated
  obtain ⟨valid, named, extension, -⟩ := ofInterface_eq_ok generated
  rw [named]
  exact ⟨isClassName_classNameFor ((Settings.validate_eq_ok_iff settings).mp valid) _ _, extension⟩

theorem fileName_toList (wrapper : Wrapper) :
    wrapper.fileName.toList = wrapper.className.toList ++ '.' :: wrapper.extension.toList := by
  simp [Wrapper.fileName]

/-- The name of a file is two identifiers with a dot between them. -/
theorem not_mem_fileName {text : String} {mark : Char}
    (generated : (Wrapper.generate settings fileStem text).result = .ok wrapper)
    (other : isIdentifierPart mark = false) (dot : mark ≠ '.') :
    mark ∉ wrapper.fileName.toList := by
  obtain ⟨named, extension⟩ := named_of_generate generated
  have suffix : isIdentifier wrapper.extension = true := by
    rw [extension]
    cases settings.dialect <;> decide
  rw [fileName_toList, List.mem_append, List.mem_cons, not_or, not_or]
  exact ⟨not_mem_of_isIdentifier named.identifier other, dot, not_mem_of_isIdentifier suffix other⟩

theorem fileName_proper {text : String}
    (generated : (Wrapper.generate settings fileStem text).result = .ok wrapper) :
    wrapper.fileName ∉ ["", ".", ".."] := by
  have dots : ∀ name ∈ ["", ".", ".."], name.toList.all (! isIdentifierPart ·) = true := by decide
  have identifier := (named_of_generate generated).1.identifier
  obtain ⟨c, member⟩ : ∃ c, c ∈ wrapper.className.toList := by
    apply List.exists_mem_of_ne_nil
    simpa using ne_empty_of_isIdentifier identifier
  intro dotted
  have here := List.all_eq_true.mp (dots _ dotted) c
    (fileName_toList wrapper ▸ List.mem_append_left _ member)
  rw [isIdentifierPart_of_mem identifier member] at here
  cases here

end Wrapper

end ContractWrapper
