import ContractWrapper.Proofs.Interface.Signature
import ContractWrapper.Proofs.Method.CommentText
import ContractWrapper.Proofs.Method.Commentary

/-! The inputs of a method, read back from its text.

Parameter list, call and comment are written apart from one another, and all of them name the
inputs. When the declared names are identifiers, nothing in a list looks like its separators, and
the three texts give the same names and types back.
-/

set_option autoImplicit false

namespace ContractWrapper

open Text (lastParenthesized linesOf splitAtPair)

section Readers

/-- The texts of a list; an empty text holds none. -/
def listed (text : List Char) : List (List Char) :=
  if text.isEmpty then [] else splitAtPair ',' ' ' text

/-- The name of an entry and, where the dialect writes types, the type behind it. -/
def entryParts (dialect : Dialect) (entry : List Char) : List (List Char) :=
  if dialect.isAnnotated then splitAtPair ':' ' ' entry else [entry]

/-- The parts of the entries in a parameter list. -/
def listedParts (dialect : Dialect) (list : String) : List (List String) :=
  (listed (lastParenthesized list.toList)).map fun entry =>
    (entryParts dialect entry).map String.ofList

/-- The arguments that a statement passes on. -/
def passedNames (statement : String) : List String :=
  (listed (lastParenthesized statement.toList)).map String.ofList

/-- What stands behind the tag in the lines of a comment that are about parameters. -/
def parameterTags (indent comment : String) : List (List Char) :=
  (linesOf comment.toList).filterMap (·.dropPrefix? (indent ++ " * @param ").toList)

/-- The name in a tag text; it stands behind the braces or at the beginning. -/
def taggedName (dialect : Dialect) (tag : List Char) : String :=
  match dialect with
  | .javaScript => String.ofList ((tag.dropWhile (· != '\x7d')).drop 2)
  | .typeScript => String.ofList (tag.takeWhile (· != ' '))

/-- The type in the braces of a tag text. -/
def taggedType (tag : List Char) : String :=
  String.ofList ((tag.drop 1).takeWhile (· != '\x7d'))

/-- The parts that an entry is written from. -/
def shownParts (dialect : Dialect) (name shown : String) : List String :=
  if dialect.isAnnotated then [name, shown] else [name]

end Readers

section Lists

theorem not_mem_infer (dialect : Dialect) (side : Side) (tag : String) {c : Char}
    (mark : isTypeCharacter c = false) : c ∉ (dialect.types.infer side tag).toList := by
  intro member
  rw [isTypeCharacter_of_mem_infer member] at mark
  cases mark

theorem not_mem_intercalate {separator : String} {texts : List String} {c : Char}
    (apart : c ∉ separator.toList) (free : ∀ text ∈ texts, c ∉ text.toList) :
    c ∉ (separator.intercalate texts).toList := by
  induction texts with
  | nil => simp
  | cons first rest ih =>
    obtain ⟨here, later⟩ := List.forall_mem_cons.mp free
    cases rest with
    | nil => simpa using here
    | cons next rest =>
      rw [String.intercalate_cons_cons, String.toList_append, String.toList_append]
      simp only [List.mem_append, not_or]
      exact ⟨⟨here, apart⟩, ih later⟩

/-- A list gives its texts back, if none of them is empty or holds a comma. -/
theorem listed_intercalate {texts : List String}
    (free : ∀ text ∈ texts, text ≠ "" ∧ ',' ∉ text.toList) :
    listed (", ".intercalate texts).toList = texts.map String.toList := by
  cases texts with
  | nil => rfl
  | cons first rest =>
    have some : (", ".intercalate (first :: rest)).toList.isEmpty = false := by
      have := (free first List.mem_cons_self).1
      cases rest <;> simp [this]
    rw [listed, some, if_neg Bool.false_ne_true, String.toList_intercalate]
    refine Text.splitAtPair_intercalate (by simp) ?_
    rw [List.forall_mem_map]
    exact fun text member => (free text member).2

theorem passedNames_append {names : List String} (before : String)
    (identifiers : ∀ name ∈ names, isIdentifier name = true) :
    passedNames (before ++ "(" ++ ", ".intercalate names ++ ");") = names := by
  have written : (before ++ "(" ++ ", ".intercalate names ++ ");").toList =
      before.toList ++ '(' :: (", ".intercalate names).toList ++ ')' :: [';'] := by simp
  have flat : '(' ∉ (", ".intercalate names).toList := not_mem_intercalate (by decide)
    fun name member => not_mem_of_isIdentifier (identifiers name member) (by decide)
  rw [passedNames, written, Text.lastParenthesized_append _ (by decide) flat, listed_intercalate]
  · simp
  · exact fun name member => ⟨ne_empty_of_isIdentifier (identifiers name member),
      not_mem_of_isIdentifier (identifiers name member) (by decide)⟩

theorem entryParts_entryText (dialect : Dialect) {name : String}
    (identifier : isIdentifier name = true) (tag : String) :
    (entryParts dialect (entryText dialect name (dialect.types.infer .inputs tag)).toList).map
      String.ofList = shownParts dialect name (dialect.types.infer .inputs tag) := by
  unfold entryParts entryText shownParts
  split
  · have written : (name ++ ": " ++ dialect.types.infer .inputs tag).toList =
        name.toList ++ ':' :: ' ' :: (dialect.types.infer .inputs tag).toList := by simp
    rw [written, Text.splitAtPair_append (not_mem_of_isIdentifier identifier (by decide)),
      Text.splitAtPair_of_not_mem (not_mem_infer dialect .inputs tag (by decide))]
    simp
  · simp

theorem listedParts_parameterList (dialect : Dialect) {arguments : List Argument}
    (identifiers : ∀ argument ∈ arguments, isIdentifier argument.name = true) :
    listedParts dialect (parameterList (arguments.map fun argument =>
        entryText dialect argument.name (dialect.types.infer .inputs argument.tag))) =
      arguments.map fun argument =>
        shownParts dialect argument.name (dialect.types.infer .inputs argument.tag) := by
  have absent {c : Char} (apart : c ∉ ": ".toList) (name : isIdentifierPart c = false)
      (type : isTypeCharacter c = false) : ∀ entry ∈ arguments.map (fun argument =>
        entryText dialect argument.name (dialect.types.infer .inputs argument.tag)),
      c ∉ entry.toList := by
    rw [List.forall_mem_map]
    intro argument member
    have here := not_mem_of_isIdentifier (identifiers argument member) name
    unfold entryText
    split
    · simp only [String.toList_append, List.mem_append, not_or]
      exact ⟨⟨here, apart⟩, not_mem_infer dialect .inputs argument.tag type⟩
    · exact here
  have filled : ∀ entry ∈ arguments.map (fun argument =>
      entryText dialect argument.name (dialect.types.infer .inputs argument.tag)), entry ≠ "" := by
    rw [List.forall_mem_map]
    intro argument member
    have := ne_empty_of_isIdentifier (identifiers argument member)
    unfold entryText
    split <;> simp [this]
  have inner : lastParenthesized (parameterList (arguments.map fun argument =>
      entryText dialect argument.name (dialect.types.infer .inputs argument.tag))).toList =
      (", ".intercalate (arguments.map fun argument =>
        entryText dialect argument.name (dialect.types.infer .inputs argument.tag))).toList := by
    unfold parameterList
    split
    · next none =>
      rw [List.isEmpty_iff.mp none]
      decide
    · have flat := not_mem_intercalate (show '(' ∉ ", ".toList by decide)
        (absent (by decide) (by decide) (by decide))
      have framed := Text.lastParenthesized_append [' '] (show ')' ∉ [' '] by decide) flat
      rw [← framed]
      simp
  rw [listedParts, inner, listed_intercalate fun entry member =>
    ⟨filled entry member, absent (by decide) (by decide) (by decide) entry member⟩]
  simp only [List.map_map]
  refine List.map_congr_left fun argument member => ?_
  exact entryParts_entryText dialect (identifiers argument member) argument.tag

end Lists

section Tags

theorem dropPrefix?_append_append (shared text mark : List Char) :
    (shared ++ text).dropPrefix? (shared ++ mark) = text.dropPrefix? mark := by
  induction shared with
  | nil => rfl
  | cons c shared ih => simpa [List.dropPrefix?] using ih

theorem dropPrefix?_append (mark text : List Char) :
    (mark ++ text).dropPrefix? mark = some text := by
  simpa [List.dropPrefix?] using dropPrefix?_append_append mark text []

/-- The frame of a comment hides no tag, and has none of its own. -/
theorem filterMap_commentBlock (indent : String) (lines : List String) :
    ((commentBlock lines).map fun line => (indent ++ line.text).toList).filterMap
        (·.dropPrefix? (indent ++ " * @param ").toList) =
      lines.filterMap (·.toList.dropPrefix? "@param ".toList) := by
  have indented (text : String) : (indent ++ text).toList.dropPrefix?
      (indent ++ " * @param ").toList = text.toList.dropPrefix? " * @param ".toList := by
    rw [String.toList_append, String.toList_append, dropPrefix?_append_append]
  have framed (line : String) : (if line == "" then " *" else " * " ++ line).toList.dropPrefix?
      " * @param ".toList = line.toList.dropPrefix? "@param ".toList := by
    split
    · next none =>
      rw [beq_iff_eq.mp none]
      decide
    · rw [String.toList_append]
      exact dropPrefix?_append_append " * ".toList line.toList "@param ".toList
  have opening : "/**".toList.dropPrefix? " * @param ".toList = none := by decide
  have closing : " */".toList.dropPrefix? " * @param ".toList = none := by decide
  simp only [commentBlock, List.filterMap_map, Function.comp_def, indented, List.cons_append,
    List.filterMap_cons, List.filterMap_append, List.filterMap_nil, framed, opening, closing,
    List.append_nil]

/-- The text behind the tag of a parameter. -/
def tagText (dialect : Dialect) (parameter : CommentParameter) : String :=
  match dialect with
  | .javaScript => braced parameter.shown ++ " " ++ parameter.name
  | .typeScript => parameter.name ++ " - " ++ parameter.tag

/-- The lines about parameters are the only ones under their tag. -/
theorem filterMap_commentLines (dialect : Dialect) {pieces : CommentPieces}
    (summary : pieces.summary.toList.dropPrefix? "@param ".toList = none) :
    (commentLines dialect pieces).filterMap (·.toList.dropPrefix? "@param ".toList) =
      pieces.parameters.map fun parameter => (tagText dialect parameter).toList := by
  have parameters (parameter : CommentParameter) :
      (parameterLine dialect parameter.name parameter.shown
        parameter.tag).toList.dropPrefix? "@param ".toList =
        some (tagText dialect parameter).toList := by
    rw [← dropPrefix?_append "@param ".toList]
    cases dialect <;> simp [parameterLine, tagText]
  have returned : (returnLine? dialect pieces.returns).toList.filterMap
      (·.toList.dropPrefix? "@param ".toList) = [] := by
    refine List.filterMap_eq_nil_iff.mpr fun line member => ?_
    obtain ⟨rest, rfl⟩ := returnLine?_eq_some (Option.mem_toList.mp member)
    rw [String.toList_append]
    rfl
  have selector : ("Selector: " ++ pieces.selector).toList.dropPrefix? "@param ".toList =
      none := by
    rw [String.toList_append]
    rfl
  have tags : (tagLines dialect pieces).filterMap (·.toList.dropPrefix? "@param ".toList) =
      pieces.parameters.map fun parameter => (tagText dialect parameter).toList := by
    rw [tagLines, List.filterMap_append, returned, List.append_nil, List.filterMap_map]
    simp only [Function.comp_def, parameters, List.filterMap_eq_map']
  have blank : "".toList.dropPrefix? "@param ".toList = none := by decide
  rw [commentLines, List.filterMap_cons, summary, List.filterMap_cons, selector, ← tags]
  dsimp only
  split
  · next none => rw [List.isEmpty_iff.mp none]
  · rw [List.filterMap_cons, blank]

theorem taggedName_tagText (dialect : Dialect) {parameter : CommentParameter}
    (identifier : isIdentifier parameter.name = true) (unbraced : '\x7d' ∉ parameter.shown.toList) :
    taggedName dialect (tagText dialect parameter).toList = parameter.name := by
  cases dialect with
  | javaScript =>
    have written : (tagText .javaScript parameter).toList = ('\x7b' :: parameter.shown.toList) ++
        '\x7d' :: ' ' :: parameter.name.toList := by simp [tagText, braced]
    rw [taggedName, written, List.dropWhile_append_of_pos (by grind)]
    simp
  | typeScript =>
    have written : (tagText .typeScript parameter).toList = parameter.name.toList ++
        ' ' :: ("- " ++ parameter.tag).toList := by simp [tagText]
    have free := not_mem_of_isIdentifier identifier (show isIdentifierPart ' ' = false by decide)
    rw [taggedName, written, List.takeWhile_append_of_pos (by grind)]
    simp

theorem taggedType_tagText {parameter : CommentParameter}
    (unbraced : '\x7d' ∉ parameter.shown.toList) :
    taggedType (tagText .javaScript parameter).toList = parameter.shown := by
  have written : (tagText .javaScript parameter).toList = '\x7b' :: (parameter.shown.toList ++
      '\x7d' :: ' ' :: parameter.name.toList) := by simp [tagText, braced]
  rw [taggedType, written, List.drop_one, List.tail_cons,
    List.takeWhile_append_of_pos (by grind)]
  simp

end Tags

/-- Parameter list, call and comment of the method name its inputs alike, and the types that are
shown are those of the tags. -/
structure ReadsBack (settings : Settings) (function : FunctionEntry) (method : Method)
    (names : List String) : Prop where
  /-- A declared name is kept, and an unnamed input takes a placeholder. -/
  given : List.Forall₂ (PlaceholderSupply.Gives settings.placeholderStem
      ((function.inputs.map Parameter.name).filter (· ≠ "")) 0)
    (function.inputs.map Parameter.name) names
  /-- The list stands in the declaration, right behind the name of the method. -/
  declared : ∃ list outputs body after, method.inputs.literal = some list ∧
    method.body = some body ∧
    method.declaration = some (declarationText settings method.methodName list outputs body) ∧
    method.declaration = some (method.opening settings ++ list ++ after) ∧
    listedParts settings.dialect list = List.zipWith (shownParts settings.dialect) names
      (inputTypes settings.dialect function.inputs)
  passed : ∃ statement, method.body =
      some ("\n" ++ Text.indentation settings.indent 2 ++ "return " ++ statement) ∧
    passedNames statement = names
  documented : settings.emitDocs = true → ∃ comment, method.comment = some comment ∧
    (parameterTags settings.indent comment).map (taggedName settings.dialect) = names ∧
    (settings.dialect = .javaScript → (parameterTags settings.indent comment).map taggedType =
      inputTypes settings.dialect function.inputs)

section Built

variable {settings : Settings} {function : FunctionEntry} {method : Method}

theorem PlaceholderSupply.Gives.isIdentifier {stem name given : String} {declared : List String}
    {next : Nat} (gives : Gives stem declared next name given)
    (identifier : isIdentifier stem = true) (named : name = "" ∨ isIdentifier name = true) :
    isIdentifier given = true := by
  cases gives with
  | kept unempty => exact named.resolve_left unempty
  | drawn => exact isIdentifier_numbered identifier _

/-- The comment holds one tag for each input, and no line beside them looks like one. -/
theorem Method.BuiltFor.parameterTags_comment (valid : settings.Valid)
    (built : method.BuiltFor settings function)
    (unbroken : ∀ text ∈ function.signature :: function.selector ::
      function.commentTexts settings.dialect, '\n' ∉ text.toList) :
    parameterTags settings.indent
        (renderComment settings (function.commentPieces settings.dialect method)) =
      method.inputs.arguments.map fun argument => (tagText settings.dialect ⟨argument.name,
        settings.dialect.types.infer .inputs argument.tag, argument.tag⟩).toList := by
  have lines := unbroken_commentLines valid.stem_identifier built unbroken
  have summary : (function.commentPieces settings.dialect method).summary.toList.dropPrefix?
      "@param ".toList = none := by
    rw [FunctionEntry.commentPieces]
    simp only [String.append_assoc]
    rw [String.toList_append]
    rfl
  have parameters : (function.commentPieces settings.dialect method).parameters =
      method.inputs.arguments.map fun argument => ⟨argument.name,
        settings.dialect.types.infer .inputs argument.tag, argument.tag⟩ := by
    refine List.map_congr_left fun argument member => ?_
    obtain ⟨parameter, -, shown⟩ := exists_of_mem_right built.arguments member
    rw [Argument.commentParameter, shown.shown, shown.tag, Option.getD_some]
  rw [parameterTags, linesOf_renderComment valid lines, filterMap_commentBlock,
    filterMap_commentLines _ summary, parameters, List.map_map]
  rfl

theorem readsBack (valid : settings.Valid) (built : method.BuiltFor settings function)
    (named : ∀ parameter ∈ function.inputs,
      parameter.name = "" ∨ isIdentifier parameter.name = true)
    (unbroken : ∀ text ∈ function.signature :: function.selector ::
      function.commentTexts settings.dialect, '\n' ∉ text.toList) :
    ReadsBack settings function method (method.inputs.arguments.map Argument.name) := by
  have identifiers : ∀ argument ∈ method.inputs.arguments, isIdentifier argument.name = true := by
    intro argument member
    obtain ⟨parameter, declared, shown⟩ := exists_of_mem_right built.arguments member
    exact shown.name.isIdentifier valid.stem_identifier (named parameter declared)
  -- Each of the three texts is written from the arguments, and so are the types.
  have types := inputTypes_eq built.arguments
  refine ⟨?given, ?declared, ?passed, ?documented⟩
  case given =>
    rw [List.forall₂_map_left_iff, List.forall₂_map_right_iff]
    exact built.arguments.imp fun _ _ shown => shown.name
  case declared =>
    obtain ⟨list, outputs, body, literal, -, bodied, declared⟩ := built.declaration
    obtain ⟨after, text⟩ := declarationText_eq_opening settings method list outputs body
    refine ⟨list, outputs, body, after, literal, bodied, declared, text ▸ declared, ?_⟩
    have written :=
      literal_buildInputs settings.dialect settings.placeholderStem function.inputs
    rw [← built.inputs, literal, types, List.zipWith_map, List.zipWith_self] at written
    rw [types, List.zipWith_map, List.zipWith_self, Option.some.inj written]
    exact listedParts_parameterList settings.dialect identifiers
  case passed =>
    refine ⟨callTarget settings.framework method ++ "(" ++
      ", ".intercalate (method.inputs.arguments.map Argument.name) ++ ");", ?_, ?_⟩
    · rw [built.body, callStatement]
      simp only [String.append_assoc]
    · refine passedNames_append _ ?_
      rwa [List.forall_mem_map]
  case documented =>
    intro documented
    have tags := built.parameterTags_comment valid unbroken
    have unbraced (argument : Argument) :
        '\x7d' ∉ (settings.dialect.types.infer .inputs argument.tag).toList :=
      not_mem_infer settings.dialect .inputs argument.tag (by decide)
    refine ⟨_, by rw [built.comment, if_pos documented], ?_, fun plain => ?_⟩
    · rw [tags, List.map_map]
      refine List.map_congr_left fun argument member => ?_
      exact taggedName_tagText settings.dialect (identifiers argument member) (unbraced argument)
    · rw [tags, types, List.map_map]
      refine List.map_congr_left fun argument member => ?_
      rw [plain] at unbraced ⊢
      exact taggedType_tagText (unbraced argument)

variable {functions : List FunctionEntry} {methods : List Method}

/-- The three texts of a method that name its inputs give the same names back, when declared names
are identifiers and no text in a comment breaks a line. -/
theorem inputs_read_back (valid : settings.validate = .ok ())
    (named : ∀ function ∈ functions, ∀ parameter ∈ function.inputs,
      parameter.name = "" ∨ isIdentifier parameter.name = true)
    (unbroken : ∀ function ∈ functions, ∀ text ∈ function.signature :: function.selector ::
      function.mutability :: function.commentTags settings.dialect, '\n' ∉ text.toList)
    (built : (buildMethods settings callBody functions).result = .ok methods) :
    List.Forall₂ (fun function method => ∃ names, ReadsBack settings function method names)
      functions methods := by
  have valid := (Settings.validate_eq_ok_iff settings).mp valid
  refine ((List.forall₂_and_left _ _).mpr ⟨fun function member =>
    And.intro (named function member) (unbroken function member), forall₂_builtFor built⟩).imp ?_
  rintro function method ⟨⟨named, unbroken⟩, built⟩
  refine ⟨_, readsBack valid built named ?_⟩
  have names : ∀ name ∈ function.inputs.map Parameter.name, '\n' ∉ name.toList := by
    rw [List.forall_mem_map]
    intro parameter member
    rcases named parameter member with none | identifier
    · simp [none]
    · exact not_mem_of_isIdentifier identifier (by decide)
  simp only [List.forall_mem_cons] at unbroken
  obtain ⟨signature, selector, mutability, tags⟩ := unbroken
  simp only [FunctionEntry.commentTexts, List.cons_append, List.forall_mem_cons,
    List.forall_mem_append]
  exact ⟨signature, selector, mutability, names, tags⟩

/-- A placeholder and a declared name behind it, which the three texts give back. -/
theorem placeholder_read_back :
    let function := FunctionEntry.declare "transfer"
      [⟨"", "address", none⟩, ⟨"to", "uint8[]", none⟩] [⟨"", "bool", none⟩] false
    Settings.validate {} = .ok () ∧
      (∀ parameter ∈ function.inputs, parameter.name = "" ∨ isIdentifier parameter.name = true) ∧
      (∀ text ∈ function.signature :: function.selector :: function.mutability ::
        function.commentTags .typeScript, '\n' ∉ text.toList) ∧
      ∃ method placeholder, (buildMethods {} callBody [function]).result = .ok [method] ∧
        ReadsBack {} function method [placeholder, "to"] := by
  intro function
  have named : ∀ parameter ∈ function.inputs,
      parameter.name = "" ∨ isIdentifier parameter.name = true := by
    simp [function, FunctionEntry.declare, FunctionEntry.withMutability]
    decide
  have selector : '\n' ∉ function.selector.toList :=
    Text.not_mem_of_isPlainText (isPlainText_selectorOf _) (by decide)
  have unbroken : ∀ text ∈ function.signature :: function.selector :: function.mutability ::
      function.commentTags .typeScript, '\n' ∉ text.toList := by
    rw [List.forall_mem_cons, List.forall_mem_cons]
    exact ⟨by decide, selector, by decide⟩
  have built := @buildMethods_of_group {} [function] _ rfl
  cases inputs_read_back (by rfl) (List.forall_mem_singleton.mpr named)
    (List.forall_mem_singleton.mpr unbroken) built with
  | cons first _ =>
    obtain ⟨names, read⟩ := first
    obtain ⟨placeholder, _, -, later, rfl⟩ := List.forall₂_cons_left_iff.mp read.given
    obtain ⟨kept, _, gives, none, rfl⟩ := List.forall₂_cons_left_iff.mp later
    cases none
    cases gives.eq_of_ne_empty (by decide)
    exact ⟨rfl, named, unbroken, _, _, built, read⟩

end Built

end ContractWrapper
