import ContractWrapper.Proofs.Method.ParameterNames
import ContractWrapper.Proofs.Text.Count
import ContractWrapper.Proofs.Text.Reading

/-! What a comment on a method is written from.

A comment shows the signature, the selector and the mutability of a function, the names of its
inputs and, where the declaration has types, the tags in place of those. Everything else in it is
plain text and the frame of the comment.
-/

set_option autoImplicit false

namespace ContractWrapper

open Text (isPlain isPlainText AddsUp total)

/-- The tags of a function that the comment shows. -/
def FunctionEntry.commentTags (dialect : Dialect) (function : FunctionEntry) : List String :=
  match dialect with
  | .javaScript => []
  | .typeScript =>
    function.inputs.map Parameter.tag ++
      if function.constant then function.outputs.map Parameter.tag else []

/-- The texts of a function that its comment shows, besides signature and selector. -/
def FunctionEntry.commentTexts (dialect : Dialect) (function : FunctionEntry) : List String :=
  function.mutability :: function.inputs.map Parameter.name ++ function.commentTags dialect

section Characters

/-- The characters of the types that are shown for tags. -/
def isTypeCharacter (c : Char) : Bool :=
  c.isAlpha || c == '[' || c == ']'

theorem isPlain_of_isAlphanum {c : Char} (alphanumeric : c.isAlphanum = true) :
    isPlain c = true := by
  have signs : (Text.breakingCharacters.all fun sign => !sign.isAlphanum) = true := by decide
  cases plain : isPlain c with
  | true => rfl
  | false =>
    have listed : c ∈ Text.breakingCharacters := by simpa [isPlain] using plain
    simpa [alphanumeric] using List.all_eq_true.mp signs c listed

theorem isPlainText_of_typeCharacters {text : String}
    (typed : ∀ c ∈ text.toList, isTypeCharacter c = true) : isPlainText text = true := by
  refine List.all_eq_true.mpr fun c member => ?_
  have typed := typed c member
  simp only [isTypeCharacter, Bool.or_eq_true, beq_iff_eq] at typed
  rcases typed with (letter | rfl) | rfl
  · exact isPlain_of_isAlphanum (by simp [Char.isAlphanum, letter])
  · decide
  · decide

theorem isPlainText_of_isIdentifier {text : String} (identifier : isIdentifier text = true) :
    isPlainText text = true := by
  refine List.all_eq_true.mpr fun c member => ?_
  have part := isIdentifierPart_of_mem identifier member
  simp only [isIdentifierPart, Bool.or_eq_true, beq_iff_eq] at part
  rcases part with (alphanumeric | rfl) | rfl
  · exact isPlain_of_isAlphanum alphanumeric
  · decide
  · decide

theorem isPlainText_indent {settings : Settings} (valid : settings.Valid) :
    isPlainText settings.indent = true := by
  have blanks := valid.indent
  simp only [Settings.isIndent, Bool.and_eq_true, List.all_eq_true, Bool.or_eq_true,
    beq_iff_eq] at blanks
  refine List.all_eq_true.mpr fun c member => ?_
  rcases blanks.2 c member with rfl | rfl <;> decide

theorem isTypeCharacter_of_mem_inferReversed (dialect : Dialect) (side : Side)
    (reversed : List Char) :
    ∀ c ∈ (dialect.types.inferReversed side reversed).toList, isTypeCharacter c = true := by
  have words : ∀ word ∈ ["BigNumberish", "BigNumber", "string", "boolean", "any", "[]"],
      word.toList.all isTypeCharacter = true := by decide
  fun_induction TypeTable.inferReversed dialect.types side reversed with
  | case1 reversed element found ih =>
    rw [String.toList_append]
    refine List.forall_mem_append.mpr ⟨ih, List.all_eq_true.mp (words _ ?_)⟩
    cases dialect <;> decide
  | case2 reversed none =>
    refine List.all_eq_true.mp (words _ ?_)
    unfold TypeTable.base
    cases dialect <;> cases side <;> (repeat' split) <;> decide

theorem isTypeCharacter_of_mem_infer {dialect : Dialect} {side : Side} {tag : String} {c : Char}
    (member : c ∈ (dialect.types.infer side tag).toList) : isTypeCharacter c = true :=
  isTypeCharacter_of_mem_inferReversed dialect side _ c member

end Characters

section Count

variable {count : List Char → Nat} (adds : AddsUp count)

include adds

theorem count_infer (dialect : Dialect) (side : Side) (tag : String) :
    count (dialect.types.infer side tag).toList = 0 :=
  adds.eq_zero (isPlainText_of_typeCharacters fun _ member => isTypeCharacter_of_mem_infer member)

theorem count_given {stem name given : String} {declared : List String} {next : Nat}
    (identifier : isIdentifier stem = true)
    (gives : PlaceholderSupply.Gives stem declared next name given) :
    count given.toList = count name.toList := by
  cases gives with
  | kept => rfl
  | @drawn n =>
    rw [String.toList_empty, adds.nil]
    exact adds.eq_zero (isPlainText_of_isIdentifier (isIdentifier_numbered identifier n))

theorem count_promise (inner : String) :
    count (TypeTable.promise inner).toList = count inner.toList := by
  rw [TypeTable.promise, adds.trailing (by decide), adds.leading (by decide)]

theorem count_resolvedType {types : List String} (free : ∀ type ∈ types, count type.toList = 0) :
    count (resolvedType types).toList = 0 := by
  unfold resolvedType
  split
  · exact adds.nil
  · next single => rw [count_promise adds, free single List.mem_cons_self]
  · next several _ _ =>
    rw [count_promise adds, adds.trailing (by decide), adds.leading (by decide),
      adds.intercalate (by decide) (by decide), Text.total_eq_zero_iff]
    exact free

theorem count_asyncType (dialect : Dialect) (constant : Bool) (arguments : List Argument) :
    count (returnTypeOf dialect
      ((buildOutputs dialect constant arguments).literal.getD "")).toList = 0 := by
  have fallback : count dialect.types.fallbackPromise.toList = 0 := by
    rw [TypeTable.fallbackPromise, count_promise adds]
    cases dialect <;> exact adds.eq_zero (by decide)
  have resolved : count (resolvedType (arguments.map fun argument =>
      dialect.types.infer .outputs argument.tag)).toList = 0 := by
    refine count_resolvedType adds fun type member => ?_
    obtain ⟨argument, -, rfl⟩ := List.mem_map.mp member
    exact count_infer adds dialect .outputs argument.tag
  have free : count ((buildOutputs dialect constant arguments).literal.getD "").toList = 0 := by
    rw [literal_buildOutputs, Option.getD_some]
    split
    · exact resolved
    · exact fallback
  unfold returnTypeOf
  split
  · exact fallback
  · exact free

theorem count_parameterLine {dialect : Dialect} {stem : String} {declared : List String}
    {parameter : Parameter} {argument : Argument} (identifier : isIdentifier stem = true)
    (shown : argument.ShownFor dialect stem declared parameter) :
    count (parameterLine dialect argument.name (argument.shown.getD dialect.types.fallback)
        argument.tag).toList =
      count parameter.name.toList +
        if dialect = .typeScript then count parameter.tag.toList else 0 := by
  rw [shown.shown, Option.getD_some, shown.tag, ← count_given adds identifier shown.name]
  cases dialect with
  | javaScript =>
    rw [parameterLine, braced, adds.between (by decide) (by decide), adds.leading (by decide),
      adds.trailing (by decide), adds.leading (by decide), count_infer adds, Nat.zero_add]
    rfl
  | typeScript =>
    rw [parameterLine, adds.between (by decide) (by decide), adds.leading (by decide)]
    rfl

theorem count_parameterLines {dialect : Dialect} {stem : String} {declared : List String}
    {parameters : List Parameter} {arguments : List Argument}
    (identifier : isIdentifier stem = true)
    (shown : List.Forall₂ (Argument.ShownFor dialect stem declared) parameters arguments) :
    total count (arguments.map fun argument => parameterLine dialect argument.name
        (argument.shown.getD dialect.types.fallback) argument.tag) =
      total count (parameters.map Parameter.name) +
        if dialect = .typeScript then total count (parameters.map Parameter.tag) else 0 := by
  induction shown with
  | nil => simp [total]
  | cons here _ ih =>
    rw [List.map_cons, total, ih, count_parameterLine adds identifier here]
    simp only [List.map_cons, total]
    split <;> omega

theorem count_returnLine (dialect : Dialect) {asyncType : String} (tags : List String)
    (isTransaction : Bool) (plain : count asyncType.toList = 0) :
    total count (returnLine? dialect ⟨asyncType, tags, isTransaction⟩).toList =
      if dialect = .typeScript ∧ isTransaction = false then total count tags else 0 := by
  have shown : count (braced asyncType).toList = 0 := by
    rw [braced, adds.trailing (by decide), adds.leading (by decide), plain]
  have single {line? : Option String} {line : String} (written : line? = some line) :
      total count line?.toList = count line.toList := by simp [written, total]
  cases dialect with
  | javaScript =>
    rw [if_neg (by simp)]
    cases isTransaction with
    | true =>
      refine (single rfl).trans ?_
      rw [adds.trailing (by decide), adds.leading (by decide), shown]
    | false =>
      refine (single rfl).trans ?_
      rw [adds.leading (by decide), shown]
  | typeScript =>
    cases isTransaction with
    | true =>
      rw [if_neg (by simp)]
      exact (single rfl).trans (adds.eq_zero (by decide))
    | false =>
      rw [if_pos ⟨rfl, rfl⟩]
      cases tags with
      | nil => rfl
      | cons first rest =>
        refine (single rfl).trans ?_
        rw [adds.leading (by decide), adds.intercalate (by decide) (by decide)]

theorem count_renderComment (lineFeed : Text.Unseen count '\n')
    (opening : count ['/', '*', '*'] = 0) (star : count ['*'] = 0) {settings : Settings}
    (valid : settings.Valid) (pieces : CommentPieces) :
    count (renderComment settings pieces).toList =
      total count (commentLines settings.dialect pieces) + count ['*', '/'] := by
  -- A star begins each line inside, between two characters that are not counted.
  have framed (line : String) : count (if line == "" then " *" else " * " ++ line).toList =
      count line.toList := by
    split
    · next none =>
      rw [beq_iff_eq.mp none, String.toList_empty, adds.nil]
      exact (adds.cons (adds.plain ' ' (by decide)) ['*']).trans star
    · have written : (" * " ++ line).toList = ' ' :: (['*'] ++ ' ' :: line.toList) := by simp
      rw [written, adds.cons (adds.plain ' ' (by decide)), adds.plain ' ' (by decide), star,
        Nat.zero_add]
  have inside (lines : List String) :
      total count (lines.map fun line => if line == "" then " *" else " * " ++ line) =
        total count lines := by
    induction lines with
    | nil => rfl
    | cons line rest ih => rw [List.map_cons, total, total, ih, framed]
  have opened : count "/**".toList = 0 := opening
  have closed : count " */".toList = count ['*', '/'] :=
    adds.cons (adds.plain ' ' (by decide)) ['*', '/']
  rw [renderComment, adds.renderLines lineFeed (isPlainText_indent valid), commentBlock]
  simp only [List.map_append, List.map_cons, List.map_nil, List.map_map, Function.comp_def,
    Text.total_append, total, inside, opened, closed, Nat.zero_add, Nat.add_zero]

end Count

section Lines

variable {count : List Char → Nat} {settings : Settings} {function : FunctionEntry}
  {method : Method}

theorem count_tagLines (adds : AddsUp count)
    (identifier : isIdentifier settings.placeholderStem = true)
    (built : method.BuiltFor settings function) :
    total count (tagLines settings.dialect (function.commentPieces settings.dialect method)) =
      total count (function.inputs.map Parameter.name ++
        function.commentTags settings.dialect) := by
  have returned : count (returnTypeOf settings.dialect
      (method.outputs.literal.getD "")).toList = 0 := by
    have outputs := count_asyncType adds settings.dialect function.constant
      (function.outputs.map Argument.ofParameter)
    rwa [← built.outputs] at outputs
  have parameters := count_parameterLines adds identifier built.arguments
  have result := count_returnLine adds settings.dialect (function.outputs.map Parameter.tag)
    (!function.constant) returned
  rw [tagLines, Text.total_append, Text.total_append, FunctionEntry.commentPieces, List.map_map,
    result]
  refine (congrArg (· + _) parameters).trans ?_
  cases dialect : settings.dialect with
  | javaScript => simp [FunctionEntry.commentTags, total]
  | typeScript =>
    cases constant : function.constant <;>
      simp [FunctionEntry.commentTags, constant, Text.total_append, Nat.add_assoc]

/-- What is counted in the lines of a comment is counted in the texts that they show. -/
theorem count_commentLines (adds : AddsUp count)
    (identifier : isIdentifier settings.placeholderStem = true)
    (built : method.BuiltFor settings function) :
    total count (commentLines settings.dialect (function.commentPieces settings.dialect method)) =
      count function.signature.toList + count function.selector.toList +
        total count (function.commentTexts settings.dialect) := by
  have tags := count_tagLines adds identifier built
  have summary : count (function.commentPieces settings.dialect method).summary.toList =
      count function.signature.toList + count function.mutability.toList := by
    rw [FunctionEntry.commentPieces, adds.trailing (by decide),
      adds.between (by decide) (by decide), adds.leading (by decide)]
  have selector : count ("Selector: " ++
      (function.commentPieces settings.dialect method).selector).toList =
      count function.selector.toList := adds.leading (by decide) _
  have apart (tags : List String) :
      total count (if tags.isEmpty then [] else "" :: tags) = total count tags := by
    split
    · next none => rw [List.isEmpty_iff.mp none]
    · rw [total, String.toList_empty, adds.nil, Nat.zero_add]
  rw [commentLines, total, total, summary, selector, apart, tags, FunctionEntry.commentTexts,
    List.cons_append, total]
  omega

/-- Texts without a line break give lines without one. -/
theorem unbroken_commentLines (identifier : isIdentifier settings.placeholderStem = true)
    (built : method.BuiltFor settings function)
    (unbroken : ∀ text ∈ function.signature :: function.selector ::
      function.commentTexts settings.dialect, '\n' ∉ text.toList) :
    ∀ line ∈ commentLines settings.dialect (function.commentPieces settings.dialect method),
      '\n' ∉ line.toList := by
  have counted := count_commentLines (Text.addsUp_count (c := '\n') (by decide)) identifier built
  have none : ∀ text ∈ function.signature :: function.selector ::
      function.commentTexts settings.dialect, text.toList.count '\n' = 0 :=
    fun text member => List.count_eq_zero_of_not_mem (unbroken text member)
  obtain ⟨signature, selector, texts⟩ := (by simpa only [List.forall_mem_cons] using none)
  rw [signature, selector, Text.total_eq_zero_iff.mpr texts, Text.total_eq_zero_iff] at counted
  exact fun line member => List.count_eq_zero.mp (counted line member)

theorem linesOf_renderComment (valid : settings.Valid) {pieces : CommentPieces}
    (unbroken : ∀ line ∈ commentLines settings.dialect pieces, '\n' ∉ line.toList) :
    Text.linesOf (renderComment settings pieces).toList =
      (commentBlock (commentLines settings.dialect pieces)).map fun line =>
        (settings.indent ++ line.text).toList := by
  have level (line : Text.Line) (member : line ∈ commentBlock (commentLines settings.dialect
      pieces)) : line.depth = 1 ∧ '\n' ∉ line.text.toList := by
    simp only [commentBlock, List.cons_append, List.mem_cons, List.mem_append, List.mem_map,
      List.not_mem_nil, or_false] at member
    rcases member with rfl | ⟨text, listed, rfl⟩ | rfl
    · exact ⟨rfl, by decide⟩
    · refine ⟨rfl, ?_⟩
      have free := unbroken text listed
      dsimp only
      split <;> simp [free]
    · exact ⟨rfl, by decide⟩
  have indent : '\n' ∉ settings.indent.toList :=
    Text.not_mem_of_isPlainText (isPlainText_indent valid) (by decide)
  rw [renderComment, Text.linesOf_renderLines]
  · refine List.map_congr_left fun line member => ?_
    rw [(level line member).1, Text.indentation_one]
  · intro line member
    obtain ⟨depth, free⟩ := level line member
    rw [depth, Text.indentation_one, String.toList_append]
    simp [indent, free]

end Lines

end ContractWrapper
