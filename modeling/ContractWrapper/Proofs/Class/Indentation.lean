import ContractWrapper.Proofs.Generation
import ContractWrapper.Proofs.Method.Emission
import ContractWrapper.Proofs.Text.Reading

/-! Where indentation stands.

The lines of a class are settled before its unit of indentation is: no stage looks at the unit, and
whatever is written with it starts a line. So a class in another unit is the same lines behind other
blanks. A text that is shown may have line breaks of its own; what follows them is not indented.
-/

set_option autoImplicit false

namespace ContractWrapper

open Text (Line renderLines blankLine linesOf indentation)

namespace Text

/-- The lines of a line whose text may have breaks of its own. Only the first is indented. -/
def Line.unbroken (line : Line) : List Line :=
  match linesOf (line.text.toList ++ ['\n']) with
  | [] => []
  | first :: later => ⟨line.depth, String.ofList first⟩ :: later.map (⟨0, String.ofList ·⟩)

theorem flatMap_linesOf (text : List Char) :
    (linesOf (text ++ ['\n'])).flatMap (· ++ ['\n']) = text ++ ['\n'] := by
  induction text with
  | nil => rfl
  | cons c rest ih =>
    rw [List.cons_append, linesOf]
    split
    · next feed => rw [List.flatMap_cons, ih, feed]; rfl
    · cases lines : linesOf (rest ++ ['\n']) with
      | nil =>
        rw [lines] at ih
        simp at ih
      | cons line later =>
        rw [lines] at ih
        simpa using ih

theorem not_mem_of_mem_linesOf {text line : List Char} (member : line ∈ linesOf text) :
    '\n' ∉ line := by
  induction text generalizing line with
  | nil => cases member
  | cons c rest ih =>
    rw [linesOf] at member
    split at member
    · rcases List.mem_cons.mp member with rfl | later
      · exact List.not_mem_nil
      · exact ih later
    · next other =>
      cases lines : linesOf rest with
      | nil =>
        rw [lines] at member
        cases List.mem_singleton.mp member
        simpa using Ne.symm other
      | cons first later =>
        rw [lines] at member ih
        rcases List.mem_cons.mp member with rfl | behind
        · simpa [Ne.symm other] using ih List.mem_cons_self
        · exact ih (List.mem_cons_of_mem first behind)

theorem toList_renderLines (indent : String) (lines : List Line) :
    (renderLines indent lines).toList = lines.flatMap fun line => (line.render indent).toList := by
  simp [renderLines, String.toList_join, List.flatMap_map]

theorem renderLines_unbroken (indent : String) (line : Line) :
    renderLines indent line.unbroken = line.render indent := by
  have text := flatMap_linesOf line.text.toList
  apply String.toList_inj.mp
  rw [toList_renderLines, Line.unbroken]
  split
  · next none => simp [none] at text
  · next first later lines =>
    rw [lines] at text
    simpa [Line.render, List.flatMap_map] using text

theorem renderLines_flatMap_unbroken (indent : String) (lines : List Line) :
    renderLines indent (lines.flatMap Line.unbroken) = renderLines indent lines := by
  induction lines with
  | nil => rfl
  | cons line rest ih =>
    rw [List.flatMap_cons, renderLines_append, renderLines_unbroken, ih]
    simp [renderLines]

theorem unbroken_of_mem {line part : Line} (member : part ∈ line.unbroken) :
    part.depth ≤ line.depth ∧ '\n' ∉ part.text.toList := by
  unfold Line.unbroken at member
  split at member
  · cases member
  · next first later lines =>
    have free : ∀ text ∈ first :: later, '\n' ∉ text :=
      fun text listed => not_mem_of_mem_linesOf (lines ▸ listed)
    rcases List.mem_cons.mp member with rfl | behind
    · exact ⟨Nat.le_refl _, by simpa using free first List.mem_cons_self⟩
    · obtain ⟨text, listed, rfl⟩ := List.mem_map.mp behind
      exact ⟨Nat.zero_le _, by simpa using free text (List.mem_cons_of_mem first listed)⟩

end Text

/-- The lines of a declaration whose body is a single statement. -/
def declarationLines (dialect : Dialect) (methodName inputs outputs statement : String) :
    List Line :=
  [⟨1, dialect.methodKeywords ++ " " ++ methodName ++ inputs ++
      declarationMiddle dialect inputs outputs ++ "\x7b"⟩,
    ⟨2, statement⟩, ⟨1, "\x7d"⟩, blankLine]

theorem declarationText_eq_renderLines (settings : Settings)
    (methodName inputs outputs statement : String) :
    declarationText settings methodName inputs outputs
        ("\n" ++ indentation settings.indent 2 ++ statement) =
      renderLines settings.indent
        (declarationLines settings.dialect methodName inputs outputs statement) := by
  apply String.toList_inj.mp
  simp [declarationText, declarationLines, renderLines, Line.render, blankLine]

/-- The lines of the method that is built for a function. -/
def FunctionEntry.methodLines (settings : Settings) (function : FunctionEntry) (method : Method) :
    List Line :=
  (if settings.emitDocs then
    commentBlock (commentLines settings.dialect (function.commentPieces settings.dialect method))
  else []) ++
  declarationLines settings.dialect method.methodName (method.inputs.literal.getD "")
    (method.outputs.literal.getD "") (callStatement settings.framework method)

section Methods

variable {settings : Settings} {function : FunctionEntry} {method other : Method}

theorem block_of_builtFor (built : method.BuiltFor settings function) :
    method.block = renderLines settings.indent (function.methodLines settings method) := by
  obtain ⟨inputs, outputs, body, listed, typed, bodied, declared⟩ := built.declaration
  cases bodied.symm.trans built.body
  rw [Method.block, declared, built.comment, FunctionEntry.methodLines, Text.renderLines_append,
    listed, typed, Option.getD_some, Option.getD_some, Option.getD_some,
    declarationText_eq_renderLines]
  split <;> rfl

/-- The lines of a method are decided by its function and by its two sides. -/
theorem methodLines_eq (same : method.SameFunction other) (inputs : other.inputs = method.inputs)
    (outputs : other.outputs = method.outputs) :
    function.methodLines settings other = function.methodLines settings method := by
  obtain ⟨_, _, _, _, _, rfl⟩ := same
  cases inputs
  cases outputs
  rfl

theorem methodLines_finished (indent : String) (index count : Nat) :
    function.methodLines { settings with indent }
        ((Method.ofFunction settings.overloadPolicy index count function).finished
          { settings with indent }) =
      function.methodLines settings
        ((Method.ofFunction settings.overloadPolicy index count function).finished settings) := by
  have built := Method.builtFor_finished settings index count function
  have otherBuilt := Method.builtFor_finished { settings with indent } index count function
  refine methodLines_eq
    ((Method.sameFunction_finished settings).between (Method.sameFunction_finished _)) ?_ ?_
  · rw [built.inputs]
    exact otherBuilt.inputs
  · rw [built.outputs]
    exact otherBuilt.outputs

end Methods

/-- No line is indented more than twice. -/
def Shallow (lines : List Line) : Prop :=
  ∀ line ∈ lines, line.depth ≤ 2

section Depth

theorem shallow_commentBlock (texts : List String) : Shallow (commentBlock texts) := by
  intro line member
  simp only [commentBlock, List.cons_append, List.mem_cons, List.mem_append, List.mem_map,
    List.not_mem_nil, or_false] at member
  rcases member with rfl | ⟨text, -, rfl⟩ | rfl <;> exact Nat.le_succ 1

theorem shallow_methodLines (settings : Settings) (function : FunctionEntry) (method : Method) :
    Shallow (function.methodLines settings method) := by
  refine List.forall_mem_append.mpr ⟨?_, ?_⟩
  · split
    · exact shallow_commentBlock _
    · exact nofun
  · simp [declarationLines, blankLine]

theorem shallow_importLines (framework : Framework) (dialect : Dialect) :
    Shallow (importLines framework dialect) := by
  cases framework <;> cases dialect <;> simp [Shallow, importLines, blankLine]

theorem shallow_fieldLines (framework : Framework) (dialect : Dialect) :
    Shallow (fieldLines framework dialect) := by
  intro line member
  obtain ⟨field, -, rfl⟩ := List.mem_map.mp member
  exact Nat.le_succ 1

theorem shallow_headerLines (settings : Settings) (className : String) :
    Shallow (headerLines settings className) := by
  refine List.forall_mem_append.mpr ⟨List.forall_mem_append.mpr ⟨?opening, ?comment⟩, ?start⟩
  case opening =>
    refine List.forall_mem_append.mpr ⟨List.forall_mem_append.mpr
      ⟨shallow_importLines _ _, List.forall_mem_cons.mpr ⟨Nat.zero_le 2, ?_⟩⟩, ?_⟩
    · exact shallow_fieldLines _ _
    · simp [blankLine]
  case comment =>
    split
    · exact shallow_commentBlock _
    · exact nofun
  case start =>
    simp [constructorLines, blankLine]

theorem shallow_footerLines (settings : Settings) (className : String) :
    Shallow (footerLines settings className) := by
  simp [Shallow, footerLines, blankLine]

end Depth

theorem join_renderLines (indent : String) (parts : List (List Line)) :
    String.join (parts.map (renderLines indent)) = renderLines indent parts.flatten := by
  induction parts with
  | nil => rfl
  | cons first rest ih =>
    rw [List.flatten_cons, Text.renderLines_append, ← ih]
    simp

/-- One list of lines for all units, for each method. -/
theorem exists_methodLines (settings : Settings) (functions : List FunctionEntry) :
    ∃ parts : List (List Line), (∀ lines ∈ parts, Shallow lines) ∧
      ∀ indent, ((methodsOf settings.overloadPolicy functions).map fun method =>
          (method.finished { settings with indent }).block) =
        parts.map (renderLines indent) := by
  have each : ∀ method ∈ methodsOf settings.overloadPolicy functions, ∃ lines, Shallow lines ∧
      ∀ indent, (method.finished { settings with indent }).block = renderLines indent lines := by
    intro method member
    obtain ⟨function, -, index, count, rfl⟩ := mem_numberFunctions _ _ _ member
    refine ⟨_, shallow_methodLines settings function ((Method.ofFunction settings.overloadPolicy
      index count function).finished settings), fun indent => ?_⟩
    have built := Method.builtFor_finished { settings with indent } index count function
    rw [← methodLines_finished indent, ← block_of_builtFor built]
  obtain ⟨parts, related⟩ := exists_forall₂_iff.mpr each
  refine ⟨parts, ?_, ?_⟩
  · intro lines member
    obtain ⟨method, -, shallow, -⟩ := exists_of_mem_right related member
    exact shallow
  · intro indent
    exact map_eq_map_of_forall₂ related fun method lines ⟨_, rendered⟩ => rendered indent

/-- The unit of indentation stands nowhere but at the start of lines, and nothing else depends on
it. Whatever the unit is, a class is refused for the same reason, or its text is the same lines
behind none, one or two units each, and no line has a break inside. -/
theorem indentation_leads_lines (settings : Settings) (className : String)
    (functions : List FunctionEntry) :
    (∃ error, ∀ indent,
      (buildClass { settings with indent } callBody className functions).result =
        .error error) ∨
    ∃ lines : List Line, (∀ line ∈ lines, line.depth ≤ 2 ∧ '\n' ∉ line.text.toList) ∧
      ∀ indent, (buildClass { settings with indent } callBody className functions).result =
        .ok (renderLines indent lines) := by
  cases grouped : (group settings.overloadPolicy functions).result with
  | error error =>
    exact .inl ⟨error, fun indent => buildClass_callBody_eq_error_iff.mpr grouped⟩
  | ok methods =>
    obtain ⟨-, -, rfl⟩ := group_eq_ok_iff.mp grouped
    obtain ⟨parts, shallow, rendered⟩ := exists_methodLines settings functions
    refine .inr ⟨(headerLines settings className ++ parts.flatten ++
      footerLines settings className).flatMap Line.unbroken, ?_, ?_⟩
    · intro part member
      obtain ⟨line, listed, within⟩ := List.mem_flatMap.mp member
      obtain ⟨depth, unbroken⟩ := Text.unbroken_of_mem within
      refine ⟨Nat.le_trans depth ?_, unbroken⟩
      rcases List.mem_append.mp listed with inside | footer
      · rcases List.mem_append.mp inside with header | block
        · exact shallow_headerLines settings className line header
        · obtain ⟨lines, among, belongs⟩ := List.mem_flatten.mp block
          exact shallow lines among line belongs
      · exact shallow_footerLines settings className line footer
    · intro indent
      have built := buildClass_of_buildMethods className
        (@buildMethods_of_group { settings with indent } _ _ grouped)
      rw [built, List.map_map, Text.renderLines_flatMap_unbroken, Text.renderLines_append,
        Text.renderLines_append, ← join_renderLines, ← rendered]
      rfl

end ContractWrapper
