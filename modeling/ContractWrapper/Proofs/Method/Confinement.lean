import ContractWrapper.Proofs.Interface.Reading
import ContractWrapper.Proofs.Interface.Signature
import ContractWrapper.Proofs.Method.Commentary

/-! What the text of an interface can do to the places where it stands.

Nothing of an interface is escaped: it reaches comments and string literals as it is. The generator
itself never ends a comment, a literal or a line too early, so that this happens only if the text of
the interface does it.
-/

set_option autoImplicit false

namespace ContractWrapper

open Text (AddsUp)

/-- The texts of an interface that the comment on a function shows. -/
def FunctionEntry.shownTexts (dialect : Dialect) (function : FunctionEntry) : List String :=
  function.signatureTexts ++ function.commentTexts dialect

/-- A comment that is closed by the generator, and once more only by a text that it shows. -/
structure ConfinesTexts (settings : Settings) (texts : List String) (comment : String) :
    Prop where
  closed : ∃ before, comment = before ++ " */\n"
  closed_once : Text.countPair '*' '/' comment.toList = 1 ↔
    ∀ text ∈ texts, ¬ ['*', '/'] <:+: text.toList
  /-- Texts without a line feed leave each line behind the frame of the comment. -/
  framed : (∀ text ∈ texts, '\n' ∉ text.toList) → ∀ line ∈ Text.linesOf comment.toList,
    (settings.indent ++ "/**").toList <+: line ∨ (settings.indent ++ " *").toList <+: line
  /-- The frame itself breaks lines in no other way. -/
  broken : ∀ c ∈ ['\r', '\u2028', '\u2029'], c ∈ comment.toList ↔ ∃ text ∈ texts, c ∈ text.toList

/-- A body that calls the function through its quoted signature. The first quote opens the literal,
and what stands in it comes from the name of the function and the tags of its inputs. -/
structure QuotesSignature (function : FunctionEntry) (method : Method) : Prop where
  quoted : ∃ before after, method.body =
      some (before ++ "[\"" ++ function.signature ++ "\"]" ++ after) ∧
    '"' ∉ before.toList
  shown : ∀ c ∈ ['"', '\\', '\n', '\r', '\u2028', '\u2029'],
    c ∈ function.signature.toList ↔ ∃ text ∈ function.signatureTexts, c ∈ text.toList

section Method

variable {settings : Settings} {function : FunctionEntry} {method : Method}

theorem count_comment {count : List Char → Nat} (adds : AddsUp count)
    (lineFeed : Text.Unseen count '\n') (opening : count ['/', '*', '*'] = 0)
    (star : count ['*'] = 0) (valid : settings.Valid) (formed : function.WellFormed)
    (built : method.BuiltFor settings function) :
    count (renderComment settings (function.commentPieces settings.dialect method)).toList =
      Text.total count (function.shownTexts settings.dialect) + count ['*', '/'] := by
  have selector : count function.selector.toList = 0 := by
    rw [formed.selector]
    exact adds.eq_zero (isPlainText_selectorOf _)
  rw [count_renderComment adds lineFeed opening star valid,
    count_commentLines adds valid.stem_identifier built, selector, formed.signature,
    count_canonicalSignature adds, FunctionEntry.shownTexts, Text.total_append]
  rfl

theorem mem_signature_iff {c : Char} (seen : Text.isPlain c = false)
    (formed : function.WellFormed) :
    c ∈ function.signature.toList ↔ ∃ text ∈ function.signatureTexts, c ∈ text.toList := by
  have total := count_canonicalSignature (Text.addsUp_count seen) function
  rw [← formed.signature] at total
  rw [← not_iff_not, ← List.count_eq_zero, total, Text.total_eq_zero_iff]
  simp [List.count_eq_zero]

theorem confinesTexts (valid : settings.Valid) (formed : function.WellFormed)
    (built : method.BuiltFor settings function) :
    ConfinesTexts settings (function.shownTexts settings.dialect)
      (renderComment settings (function.commentPieces settings.dialect method)) where
  closed := by
    have last : Text.renderLines settings.indent [⟨1, " */"⟩] =
        Text.indentation settings.indent 1 ++ " */\n" := by
      simp [Text.renderLines, Text.Line.render, String.append_assoc]
    rw [renderComment, commentBlock, Text.renderLines_append, last, ← String.append_assoc]
    exact ⟨_, rfl⟩
  closed_once := by
    have adds : AddsUp (Text.countPair '*' '/') :=
      Text.addsUp_countPair (by decide) (by decide)
    have lineFeed : Text.Unseen (Text.countPair '*' '/') '\n' :=
      Text.unseen_countPair (by decide) (by decide)
    have total := count_comment adds lineFeed rfl rfl valid formed built
    -- The closing line has the one pair that no text accounts for.
    have own : Text.countPair '*' '/' ['*', '/'] = 1 := rfl
    rw [total, own, Nat.add_eq_right, Text.total_eq_zero_iff]
    simp only [Text.countPair_eq_zero_iff]
  framed unbroken := by
    have signature : '\n' ∉ function.signature.toList := by
      rw [mem_signature_iff (by decide) formed]
      rintro ⟨text, member, inside⟩
      exact unbroken text (List.mem_append_left _ member) inside
    have selector : '\n' ∉ function.selector.toList := by
      rw [formed.selector]
      exact Text.not_mem_of_isPlainText (isPlainText_selectorOf _) (by decide)
    have lines := unbroken_commentLines valid.stem_identifier built (by
      refine List.forall_mem_cons.mpr ⟨signature, List.forall_mem_cons.mpr ⟨selector, ?_⟩⟩
      exact fun text member => unbroken text (List.mem_append_right _ member))
    rw [linesOf_renderComment valid lines, commentBlock]
    simp only [List.map_append, List.map_cons, List.map_nil, List.forall_mem_append,
      List.forall_mem_cons, List.forall_mem_map, List.cons_append]
    refine ⟨.inl (List.prefix_refl _), fun line _ => .inr ?_, .inr ?_, by simp⟩
    · split <;> simp [String.toList_append]
    · simp [String.toList_append]
  broken c lineBreak := by
    obtain ⟨seen, notFeed, notStar, notSlash⟩ :
        Text.isPlain c = false ∧ '\n' ≠ c ∧ c ≠ '*' ∧ c ≠ '/' := by
      simp only [List.mem_cons, List.not_mem_nil, or_false] at lineBreak
      rcases lineBreak with rfl | rfl | rfl <;> decide
    have frame (marks : List Char) (listed : ∀ mark ∈ marks, mark = '*' ∨ mark = '/') :
        List.count c marks = 0 := by
      refine List.count_eq_zero_of_not_mem fun member => ?_
      exact (listed c member).elim notStar notSlash
    have total := count_comment (Text.addsUp_count seen) (Text.unseen_count notFeed)
      (frame _ (by simp)) (frame _ (by simp)) valid formed built
    rw [← not_iff_not, ← List.count_eq_zero, total,
      frame ['*', '/'] (by simp), Nat.add_zero, Text.total_eq_zero_iff]
    simp [List.count_eq_zero]

theorem callTarget_of_overloaded (framework : Framework) (overloaded : method.isOverloaded = true) :
    ∃ object ∈ ["this.contract", "this.contract.methods"], ∃ after,
      callTarget framework method = object ++ "[\"" ++ method.signature ++ "\"]" ++ after := by
  cases framework with
  | ethers =>
    refine ⟨"this.contract", by simp, "", ?_⟩
    simp [callTarget, callee, overloaded]
  | truffle =>
    cases constant : method.constant with
    | true =>
      refine ⟨"this.contract.methods", by simp, ".call", ?_⟩
      simp [callTarget, callee, overloaded, constant]
    | false =>
      refine ⟨"this.contract.methods", by simp, "", ?_⟩
      simp [callTarget, callee, overloaded, constant]

theorem quotesSignature (valid : settings.Valid) (formed : function.WellFormed)
    (built : method.BuiltFor settings function) (overloaded : method.isOverloaded = true) :
    QuotesSignature function method where
  quoted := by
    obtain ⟨object, named, after, called⟩ :=
      callTarget_of_overloaded settings.framework overloaded
    refine ⟨"\n" ++ Text.indentation settings.indent 2 ++ "return " ++ object, after ++ "(" ++
      ", ".intercalate (method.inputs.arguments.map Argument.name) ++ ");", ?_, ?_⟩
    · rw [built.body, callStatement, called, built.signature]
      simp only [String.append_assoc]
    · have indent : '"' ∉ settings.indent.toList :=
        Text.not_mem_of_isPlainText (isPlainText_indent valid) (by decide)
      have fixed : ∀ object ∈ ["this.contract", "this.contract.methods"],
          '"' ∉ object.toList := by decide
      simp [Text.indentation_succ, indent, fixed object named]
  shown c listed := by
    refine mem_signature_iff ?_ formed
    simp only [List.mem_cons, List.not_mem_nil, or_false] at listed
    rcases listed with rfl | rfl | rfl | rfl | rfl | rfl <;> decide

end Method

section Built

variable {settings : Settings} {json : Json} {description : Interface} {methods : List Method}

/-- Where the text of an interface stands in comments and string literals. It ends a comment, breaks
a line or leaves a literal only if it holds what does so, for the generator adds nothing to it. -/
theorem interface_texts_confined (read : (Interface.ofJson json).result = .ok description)
    (valid : settings.validate = .ok ())
    (built : (buildMethods settings callBody description.functions).result = .ok methods) :
    List.Forall₂ (fun function method =>
        method.comment.isSome = settings.emitDocs ∧
        (∀ comment, method.comment = some comment →
          ConfinesTexts settings (function.shownTexts settings.dialect) comment) ∧
        (method.isOverloaded = true → QuotesSignature function method))
      description.functions methods := by
  have valid := (Settings.validate_eq_ok_iff settings).mp valid
  refine ((List.forall₂_and_left _ _).mpr ⟨Interface.wellFormed_of_ofJson read,
    forall₂_builtFor built⟩).imp ?_
  rintro function method ⟨formed, built⟩
  refine ⟨?_, ?_, quotesSignature valid formed built⟩
  · rw [built.comment]
    cases settings.emitDocs <;> rfl
  · intro comment written
    rw [built.comment, Option.ite_none_right_eq_some] at written
    rw [← Option.some.inj written.2]
    exact confinesTexts valid formed built

/-- A description of two functions of one name. -/
def declaredTwice (name mutability : String) : Json :=
  let entry := .object [("name", .string name), ("inputs", .array []), ("outputs", .array []),
    ("stateMutability", .string mutability)]
  .array [entry, entry]

/-- The comment on an ordinary function is closed once, and its signature stays in the quotes. -/
theorem ordinary_texts_confined :
    ∃ description first second comment,
      (Interface.ofJson (declaredTwice "f" "view")).result = .ok description ∧
      Settings.validate {} = .ok () ∧
      (buildMethods {} callBody description.functions).result = .ok [first, second] ∧
      first.comment = some comment ∧ Text.countPair '*' '/' comment.toList = 1 ∧
      ∃ function ∈ description.functions, QuotesSignature function first := by
  have read : (Interface.ofJson (declaredTwice "f" "view")).result =
      .ok ⟨none, [.withMutability "f" [] [] "view", .withMutability "f" [] [] "view"], 0⟩ := by rfl
  have built := @buildMethods_of_group {}
    [.withMutability "f" [] [] "view", .withMutability "f" [] [] "view"] _ rfl
  cases interface_texts_confined read rfl built with
  | cons first _ =>
    obtain ⟨-, confined, quoted⟩ := first
    refine ⟨_, _, _, _, read, rfl, built, rfl, (confined _ rfl).closed_once.mpr ?_, _,
      List.mem_cons_self, quoted rfl⟩
    simp only [← Text.countPair_eq_zero_iff]
    decide

/-- A quote in a name, and the end of a comment and of a line in a mutability. -/
theorem interface_texts_escape :
    ∃ description first second comment,
      (Interface.ofJson (declaredTwice "f\"" "*/\n")).result = .ok description ∧
      Settings.validate {} = .ok () ∧
      (buildMethods {} callBody description.functions).result = .ok [first, second] ∧
      first.comment = some comment ∧ Text.countPair '*' '/' comment.toList = 2 ∧
      (∃ line ∈ Text.linesOf comment.toList,
        ¬ ("  /**".toList <+: line ∨ "   *".toList <+: line)) ∧
      first.body = some "\n    return this.contract[\"f\"()\"]();" := by
  have read : (Interface.ofJson (declaredTwice "f\"" "*/\n")).result = .ok ⟨none,
      [.withMutability "f\"" [] [] "*/\n", .withMutability "f\"" [] [] "*/\n"], 0⟩ := by rfl
  have built := @buildMethods_of_group {}
    [.withMutability "f\"" [] [] "*/\n", .withMutability "f\"" [] [] "*/\n"] _ rfl
  have formed := Interface.wellFormed_of_ofJson read _ List.mem_cons_self
  have valid := (Settings.validate_eq_ok_iff {}).mp rfl
  have adds : AddsUp (Text.countPair '*' '/') := Text.addsUp_countPair (by decide) (by decide)
  have lineFeed : Text.Unseen (Text.countPair '*' '/') '\n' :=
    Text.unseen_countPair (by decide) (by decide)
  have opened (selector : String) (parameters : List CommentParameter)
      (returns : CommentReturn) : ∃ rest, (renderComment {} ⟨"Calls `f\"()` (*/\n).", selector,
        parameters, returns⟩).toList = "  /**".toList ++ '\n' ::
          ("   * Calls `f\"()` (*/".toList ++ '\n' :: (").".toList ++ '\n' :: rest)) := by
    rw [renderComment, commentBlock, commentLines, List.map_cons, Text.renderLines,
      List.cons_append, List.cons_append, List.map_cons, List.map_cons, String.join_cons,
      String.join_cons]
    generalize String.join _ = rest
    exact ⟨rest.toList, by simp [Text.Line.render, Text.indentation_succ]⟩
  cases forall₂_builtFor built with
  | cons first _ =>
    refine ⟨_, _, _, _, read, rfl, built, first.comment, ?_, ⟨").".toList, ?_, by decide⟩, rfl⟩
    · exact (count_comment adds lineFeed rfl rfl valid formed first).trans (by decide)
    · obtain ⟨rest, opened⟩ := opened _ _ _
      refine (congrArg (_ ∈ Text.linesOf ·) opened).mpr ?_
      rw [Text.linesOf_append (by decide), Text.linesOf_append (by decide),
        Text.linesOf_append (by decide)]
      simp

end Built

end ContractWrapper
