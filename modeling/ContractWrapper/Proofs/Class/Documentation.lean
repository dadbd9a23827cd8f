import ContractWrapper.Proofs.Generation
import ContractWrapper.Proofs.Method.CommentText
import ContractWrapper.Proofs.Method.Emission

/-! Comments in a class.

Whether comments are asked for is looked at twice: by the stages of a method and by the header of
the class. With them the class is built from the same methods, and its text differs in nothing but
the comments, each of which stands right before what it is about. What a comment consists of is said
without the lines that it is rendered from.
-/

set_option autoImplicit false

namespace ContractWrapper

/-- The rule writes the same body whether comments are asked for or not. -/
def BodyComposer.IgnoresDocs (composer : BodyComposer) : Prop :=
  ∀ settings emitDocs method, composer { settings with emitDocs } method = composer settings method

/-- A method as it is built without comments, together with the comment that there is on it. -/
structure DocumentedMethod (settings : Settings) where
  method : Method
  comment : String
  declaration : String
  uncommented : method.comment = none
  declared : method.declaration = some declaration
  composed : composeDeclaration settings method = .ok declaration
  describes : composeComment settings method = .ok comment

namespace DocumentedMethod

variable {settings : Settings} (documented : DocumentedMethod settings)

/-- The same method as it is built with comments. -/
def commented : Method :=
  { documented.method with comment := some documented.comment }

theorem block_method : documented.method.block = documented.declaration := by
  rw [Method.block, documented.uncommented, documented.declared, Option.getD_none,
    Option.getD_some, String.empty_append]

theorem block_commented :
    documented.commented.block = documented.comment ++ documented.declaration := by
  rw [Method.block, commented, documented.declared, Option.getD_some, Option.getD_some]

end DocumentedMethod

theorem exists_opening_of_composeDeclaration {settings : Settings} {method : Method}
    {declaration : String} (composed : composeDeclaration settings method = .ok declaration) :
    ∃ rest, declaration = method.opening settings ++ rest := by
  unfold composeDeclaration at composed
  split at composed
  · cases composed
  · cases composed
  · cases composed
  · next list outputs body _ _ _ =>
    cases composed
    obtain ⟨after, written⟩ := declarationText_eq_opening settings method list outputs body
    exact ⟨list ++ after, by rw [written, String.append_assoc]⟩

/-- What stands before the constructor and its comment: imports, the opening line and fields. -/
def classStart (settings : Settings) (className : String) : String :=
  Text.renderLines settings.indent (openingLines settings className)

def constructorText (settings : Settings) : String :=
  Text.renderLines settings.indent (constructorLines settings.framework settings.dialect)

/-- The rows of the comment on the constructor, one for each of its parameters. -/
def constructorRows : Framework → Dialect → List String
  | .ethers, .javaScript =>
    [" @param \x7bstring\x7d contractAddress", " @param \x7bany\x7d abi",
      " @param \x7bethers.Signer | ethers.providers.Provider | undefined\x7d signerOrProvider"]
  | .ethers, .typeScript =>
    [" @param contractAddress - deployed contract address",
      " @param abi - contract interface description",
      " @param signerOrProvider - optional signer or provider used for calls"]
  | .truffle, .javaScript =>
    [" @param \x7bstring\x7d contractAddress", " @param \x7bany\x7d contract"]
  | .truffle, .typeScript =>
    [" @param contractAddress - deployed contract address",
      " @param contract - deployed contract instance"]

/-- The parts of a class in which no function has a say. -/
structure ClassFrame (settings : Settings) (className : String) : Prop where
  opened : ∃ preamble names contractType addressType,
    Preamble settings.framework settings.dialect preamble names ∧
      classStart settings className = preamble ++ "class " ++ className ++ " \x7b\n" ++
        settings.indent ++ "contract" ++ contractType ++ ";\n" ++
        settings.indent ++ "contractAddress" ++ addressType ++ ";\n\n"
  constructed : ∃ parameters value, constructorText settings =
    settings.indent ++ "constructor(" ++ parameters ++ ") \x7b\n" ++
      settings.indent ++ settings.indent ++ "this.contract = " ++ value ++ ";\n" ++
      settings.indent ++ settings.indent ++ "this.contractAddress = contractAddress;\n" ++
      settings.indent ++ "\x7d\n\n"
  commented : constructorComment settings =
    commentText settings.indent (constructorRows settings.framework settings.dialect)
  closed : ∃ words, classFooter settings className =
    "\x7d\n\n" ++ words ++ " \x7b " ++ className ++ " \x7d;\n"

section Parts

variable (settings : Settings) (className : String)

theorem exists_fieldLines (framework : Framework) (dialect : Dialect) :
    ∃ contractType addressType, fieldLines framework dialect =
      [⟨1, "contract" ++ contractType ++ ";"⟩, ⟨1, "contractAddress" ++ addressType ++ ";"⟩] := by
  cases dialect with
  | javaScript => exact ⟨"", "", rfl⟩
  | typeScript =>
    refine ⟨": " ++ fieldType framework "contract",
      ": " ++ fieldType framework "contractAddress", ?_⟩
    simp [fieldLines, fieldNames, Dialect.isAnnotated, String.append_assoc]

theorem exists_exportText (dialect : Dialect) (className : String) :
    ∃ words, exportText dialect className = words ++ " \x7b " ++ className ++ " \x7d;" := by
  cases dialect with
  | javaScript => exact ⟨"module.exports =", rfl⟩
  | typeScript => exact ⟨"export", rfl⟩

theorem classFrame : ClassFrame settings className where
  opened := by
    obtain ⟨contractType, addressType, fields⟩ :=
      exists_fieldLines settings.framework settings.dialect
    refine ⟨_, _, contractType, addressType, preamble_importLines settings.indent _ _, ?_⟩
    rw [classStart, openingLines, fields, List.append_assoc, Text.renderLines_append,
      ← String.toList_inj]
    simp [Text.renderLines, Text.Line.render, Text.indentation_one, Text.blankLine]
  constructed := by
    refine ⟨", ".intercalate ((constructorParameters settings.framework).map fun parameter =>
      if settings.dialect.isAnnotated then parameter.annotated else parameter.plain),
      instanceExpression settings.framework, ?_⟩
    rw [constructorText, constructorLines, ← String.toList_inj]
    simp [Text.renderLines, Text.Line.render, Text.indentation_succ, Text.blankLine]
  commented := by
    rw [constructorComment, constructorCommentLines, renderLines_commentBlock]
    cases settings.framework <;> cases settings.dialect <;> rfl
  closed := by
    obtain ⟨words, exported⟩ := exists_exportText settings.dialect className
    refine ⟨words, ?_⟩
    rw [classFooter, footerLines, exported]
    apply String.toList_inj.mp
    simp [Text.renderLines, Text.Line.render, Text.blankLine]

theorem classHeader_without_docs :
    classHeader { settings with emitDocs := false } className =
      classStart settings className ++ constructorText settings := by
  rw [classHeader, headerLines, if_neg Bool.false_ne_true, List.append_nil,
    Text.renderLines_append]
  rfl

theorem classHeader_with_docs :
    classHeader { settings with emitDocs := true } className =
      classStart settings className ++ constructorComment settings ++ constructorText settings := by
  rw [classHeader, headerLines, if_pos rfl, Text.renderLines_append, Text.renderLines_append]
  rfl

end Parts

section Methods

variable {settings : Settings} {composer : BodyComposer} {method : Method}

/-- Each stage does the same whether comments are asked for or not. -/
theorem advance_of_ignoresDocs (ignores : composer.IgnoresDocs) (emitDocs : Bool) :
    Method.advance { settings with emitDocs } composer = Method.advance settings composer := by
  funext method stage
  cases stage with
  | body => rw [Method.advance, Method.advance, ignores]
  | inputs | outputs | comment | declaration => rfl

theorem assemble_of_ignoresDocs (ignores : composer.IgnoresDocs) (emitDocs : Bool) :
    method.assemble { settings with emitDocs } composer =
      composer settings (method.prepared settings) >>= fun text =>
        (closingStages { settings with emitDocs }).foldlM (Method.advance settings composer)
          { method.prepared settings with body := some text } := by
  rw [assemble_eq_bind, ignores, advance_of_ignoresDocs ignores]
  rfl

theorem assemble_side_by_side (ignores : composer.IgnoresDocs)
    (uncommented : method.comment = none) :
    (∃ error, method.assemble { settings with emitDocs := false } composer = .error error ∧
        method.assemble { settings with emitDocs := true } composer = .error error) ∨
      ∃ documented : DocumentedMethod settings, method.SameFunction documented.method ∧
        method.assemble { settings with emitDocs := false } composer = .ok documented.method ∧
        method.assemble { settings with emitDocs := true } composer = .ok documented.commented := by
  rw [assemble_of_ignoresDocs ignores, assemble_of_ignoresDocs ignores]
  cases composer settings (method.prepared settings) with
  | error error => exact .inl ⟨error, rfl, rfl⟩
  | ok text =>
    -- The stages after the body find all that they read, and a declaration does not read comments.
    exact .inr ⟨⟨{ method.prepared settings with body := some text, declaration := some _ }, _, _,
      uncommented, rfl, rfl, rfl⟩, ⟨_, _, _, _, _, rfl⟩, rfl, rfl⟩

/-- The method is one that the function is built to. -/
def Method.ComesFrom (policy : OverloadPolicy) (function : FunctionEntry) (method : Method) :
    Prop :=
  ∃ index count, (ofFunction policy index count function).SameFunction method

variable {functions : List FunctionEntry}

theorem buildMethods_side_by_side (ignores : composer.IgnoresDocs) :
    (∃ error,
      (buildMethods { settings with emitDocs := false } composer functions).result =
          .error error ∧
        (buildMethods { settings with emitDocs := true } composer functions).result =
          .error error) ∨
      ∃ methods : List (DocumentedMethod settings),
        List.Forall₂ (fun function documented =>
          documented.method.ComesFrom settings.overloadPolicy function) functions methods ∧
        (buildMethods { settings with emitDocs := false } composer functions).result =
          .ok (methods.map DocumentedMethod.method) ∧
        (buildMethods { settings with emitDocs := true } composer functions).result =
          .ok (methods.map DocumentedMethod.commented) := by
  rw [result_buildMethods, result_buildMethods]
  cases grouped : (group settings.overloadPolicy functions).result with
  | error error => exact .inl ⟨error, rfl, rfl⟩
  | ok methods =>
    have steps := fun method (member : method ∈ methods) =>
      @assemble_side_by_side settings composer method ignores
        (unbuilt_of_group grouped member).2.2.2.1
    obtain ⟨error, failed, alike⟩ | ⟨built, related, reached, alike⟩ := mapM_side_by_side steps
    · exact .inl ⟨error, failed, alike⟩
    · refine .inr ⟨built, ?_, reached, alike⟩
      obtain ⟨-, -, rfl⟩ := group_eq_ok_iff.mp grouped
      apply (forall₂_comp (forall₂_numberFunctions _ _ _ functions) related).imp
      rintro function documented ⟨_, ⟨index, count, rfl⟩, same⟩
      exact ⟨index, count, same⟩

end Methods

theorem callBody_ignoresDocs : callBody.IgnoresDocs :=
  fun _ _ _ => rfl

/-- A class is built with comments exactly if it is built without them, and refused for the same
reason. Without them its text is a start, the constructor, the declarations of the methods, one for
each function and in their order, and an end. With them the comment on the constructor and on each
method stands right before it, and the rest is the same. -/
theorem comments_only_inserted :
    callBody.IgnoresDocs ∧
    (∀ settings className, ClassFrame settings className) ∧
    ∀ composer : BodyComposer, composer.IgnoresDocs → ∀ settings className functions,
      (∃ error,
        (buildClass { settings with emitDocs := false } composer className functions).result =
            .error error ∧
          (buildClass { settings with emitDocs := true } composer className functions).result =
            .error error) ∨
      ∃ methods : List (DocumentedMethod settings),
        List.Forall₂ (fun function documented =>
          documented.method.ComesFrom settings.overloadPolicy function) functions methods ∧
        (∀ documented ∈ methods,
          (∃ rest, documented.declaration = documented.method.opening settings ++ rest) ∧
            documented.method.CommentedBy settings documented.comment) ∧
        (buildMethods { settings with emitDocs := false } composer functions).result =
          .ok (methods.map DocumentedMethod.method) ∧
        (buildMethods { settings with emitDocs := true } composer functions).result =
          .ok (methods.map DocumentedMethod.commented) ∧
        (buildClass { settings with emitDocs := false } composer className functions).result =
          .ok (classStart settings className ++ constructorText settings ++
            String.join (methods.map DocumentedMethod.declaration) ++
            classFooter settings className) ∧
        (buildClass { settings with emitDocs := true } composer className functions).result =
          .ok (classStart settings className ++
            constructorComment settings ++ constructorText settings ++
            String.join (methods.map fun documented =>
              documented.comment ++ documented.declaration) ++
            classFooter settings className) := by
  refine ⟨callBody_ignoresDocs, classFrame, ?_⟩
  intro composer ignores settings className functions
  obtain ⟨error, failed, alike⟩ | ⟨methods, related, reached, alike⟩ :=
    @buildMethods_side_by_side settings composer functions ignores
  · exact .inl ⟨error, buildClass_eq_error_iff.mpr failed, buildClass_eq_error_iff.mpr alike⟩
  · refine .inr ⟨methods, related, ?_, reached, alike, ?_, ?_⟩
    · intro documented _
      exact ⟨exists_opening_of_composeDeclaration documented.composed,
        commentedBy_of_composeComment documented.describes⟩
    · rw [buildClass_of_buildMethods className reached, classHeader_without_docs, List.map_map]
      simp only [Function.comp_def, DocumentedMethod.block_method]
      rfl
    · rw [buildClass_of_buildMethods className alike, classHeader_with_docs, List.map_map]
      simp only [Function.comp_def, DocumentedMethod.block_commented]
      rfl

/-- The comments on the constructor and on two functions, in front of what they are about. -/
theorem supply_commented :
    ∃ methods : List (DocumentedMethod {}),
      methods.map (·.method.signature) = ["balanceOf(address)", "totalSupply()"] ∧
      methods.map (·.comment) =
        ["  /**\n   * Calls `balanceOf(address)` (view).\n   * Selector: 0x70a08231\n   *\n" ++
            "   * @param argv0 - address\n   * @returns uint256\n   */\n",
          "  /**\n   * Calls `totalSupply()` (view).\n   * Selector: 0x18160ddd\n   *\n" ++
            "   * @returns uint256\n   */\n"] ∧
      constructorComment {} =
        "  /**\n   * @param contractAddress - deployed contract address\n" ++
          "   * @param abi - contract interface description\n" ++
          "   * @param signerOrProvider - optional signer or provider used for calls\n   */\n" ∧
      (buildClass { ({} : Settings) with emitDocs := true } callBody "Token"
          [balanceEntry, supplyEntry]).result =
        .ok (classStart {} "Token" ++ constructorComment {} ++ constructorText {} ++
          String.join (methods.map fun documented =>
            documented.comment ++ documented.declaration) ++
          classFooter {} "Token") := by
  obtain ⟨ignores, frame, compares⟩ := comments_only_inserted
  have grouped : (group .mangle [balanceEntry, supplyEntry]).result =
      .ok (methodsOf .mangle [balanceEntry, supplyEntry]) := by rfl
  obtain ⟨error, failed, -⟩ | ⟨methods, related, -, -, commented, -, with_docs⟩ :=
    compares callBody ignores {} "Token" [balanceEntry, supplyEntry]
  · have built := buildClass_of_buildMethods "Token"
      (@buildMethods_of_group { ({} : Settings) with emitDocs := false } _ _ grouped)
    cases failed.symm.trans built
  · refine ⟨methods, Eq.symm ?_, ?_, ?_, with_docs⟩
    · apply map_eq_map_of_forall₂ (f := FunctionEntry.signature) related
      rintro function documented ⟨_, _, _, _, _, _, _, same⟩
      rw [same]
      rfl
    · have same := Except.ok.inj (commented.symm.trans
        (@buildMethods_of_group { ({} : Settings) with emitDocs := true } _ _ grouped))
      have comments := congrArg (List.map Method.comment) same
      rw [List.map_map] at comments
      apply List.map_injective_iff.mpr fun _ _ => Option.some.inj
      rw [List.map_map]
      exact comments.trans (by decide)
    · exact (frame {} "Token").commented.trans (by decide +kernel)

end ContractWrapper
