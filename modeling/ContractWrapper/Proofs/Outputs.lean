import ContractWrapper.Proofs.Generation
import ContractWrapper.Proofs.Method.Emission
import ContractWrapper.Proofs.Method.TypeTag

/-! What a wrapper says about the outputs of functions.

A method hides the outputs of a function that changes state: forgetting them before a class is
built is the same as forgetting them afterwards, and nothing of its text is lost with them. The
other outputs make up the type that a method resolves to, which its declaration and the comment on
it give alike.
-/

set_option autoImplicit false

namespace ContractWrapper

open Failure (bind_eq_ok_iff mapM_map_of_commutes foldlM_of_commutes)

/-- The functions differ in nothing but outputs, and in these only where they change state. -/
def FunctionEntry.SameButHidden (function other : FunctionEntry) : Prop :=
  ∃ outputs, other = { function with outputs } ∧ (function.constant → outputs = function.outputs)

/-- The rule writes a body that does not depend on outputs where a method changes state. -/
def BodyComposer.IgnoresHidden (composer : BodyComposer) : Prop :=
  ∀ settings method arguments, method.constant = false →
    composer settings { method with outputs := { method.outputs with arguments } } =
      composer settings method

/-- The function without outputs that its method hides. -/
def FunctionEntry.visible (function : FunctionEntry) : FunctionEntry :=
  { function with outputs := if function.constant then function.outputs else [] }

/-- The method without outputs that it hides. -/
def Method.visible (method : Method) : Method :=
  { method with outputs :=
      ⟨if method.constant then method.outputs.arguments else [], method.outputs.literal⟩ }

/-- The pieces without tags that the comment hides. -/
def CommentPieces.visible (pieces : CommentPieces) : CommentPieces :=
  { pieces with returns :=
      { pieces.returns with
        tags := if pieces.returns.isTransaction then [] else pieces.returns.tags } }

theorem FunctionEntry.SameButHidden.visible {function other : FunctionEntry}
    (same : function.SameButHidden other) : function.visible = other.visible := by
  obtain ⟨outputs, rfl, kept⟩ := same
  unfold FunctionEntry.visible
  cases constant : function.constant with
  | true => rw [kept constant]
  | false => rfl

theorem Method.ofFunction_visible (policy : OverloadPolicy) (index count : Nat)
    (function : FunctionEntry) :
    ofFunction policy index count function.visible =
      (ofFunction policy index count function).visible := by
  obtain ⟨_, _, _, _, constant, _, _⟩ := function
  cases constant <;> rfl

section Grouping

variable (policy : OverloadPolicy) (functions : List FunctionEntry)

theorem map_name_visible :
    (functions.map FunctionEntry.visible).map FunctionEntry.name =
      functions.map FunctionEntry.name :=
  List.map_map

theorem numberFunctions_visible (names earlier : List String) :
    numberFunctions policy names earlier (functions.map FunctionEntry.visible) =
      (numberFunctions policy names earlier functions).map Method.visible := by
  induction functions generalizing earlier with
  | nil => rfl
  | cons function rest ih =>
    rw [List.map_cons, numberFunctions, Method.ofFunction_visible, ih]
    rfl

theorem methodsOf_visible :
    methodsOf policy (functions.map FunctionEntry.visible) =
      (methodsOf policy functions).map Method.visible := by
  rw [methodsOf, map_name_visible, numberFunctions_visible, methodsOf]

theorem firstCollision?_visible (taken : List String) (methods : List Method) :
    firstCollision? taken (methods.map Method.visible) =
      (firstCollision? taken methods).map Method.visible := by
  induction methods generalizing taken with
  | nil => rfl
  | cons method rest ih =>
    have named : method.visible.methodName = method.methodName := rfl
    rw [List.map_cons, firstCollision?, firstCollision?, named, ih]
    split <;> rfl

-- A policy looks at names and signatures only, in what it refuses and in what it says then.
theorem checkRepeated_visible :
    checkRepeated policy (functions.map FunctionEntry.visible) =
      checkRepeated policy functions := by
  have blamed : firstRepeated? (functions.map FunctionEntry.visible) =
      (firstRepeated? functions).map FunctionEntry.visible := by
    rw [firstRepeated?, map_name_visible, List.find?_map]
    rfl
  unfold checkRepeated
  rw [blamed, map_name_visible]
  cases policy <;> cases firstRepeated? functions <;> rfl

theorem checkCollision_visible (methods : List Method) :
    checkCollision policy (methods.map Method.visible) = checkCollision policy methods := by
  unfold checkCollision
  rw [firstCollision?_visible]
  cases policy <;> cases firstCollision? [] methods <;> rfl

theorem group_visible :
    (group policy (functions.map FunctionEntry.visible)).result =
      (group policy functions).result.map (List.map Method.visible) := by
  rw [result_group, result_group, checkRepeated_visible, methodsOf_visible, checkCollision_visible]
  cases checkRepeated policy functions with
  | error error => rfl
  | ok _ => cases checkCollision policy (methodsOf policy functions) <;> rfl

end Grouping

section Building

variable {settings : Settings} {composer : BodyComposer}

theorem BodyComposer.IgnoresHidden.apply_visible (ignores : composer.IgnoresHidden)
    (method : Method) : composer settings method.visible = composer settings method := by
  cases constant : method.constant with
  | true => rw [Method.visible, if_pos constant]
  | false =>
    rw [Method.visible, if_neg (Bool.eq_false_iff.mp constant)]
    exact ignores settings method [] constant

theorem commentPieces_visible (dialect : Dialect) (method : Method) :
    commentPieces dialect method.visible =
      (commentPieces dialect method).map CommentPieces.visible := by
  obtain ⟨_, _, constant, _, _, _, _, _, ⟨_, inputs⟩, ⟨_, outputs⟩, _, _, _⟩ := method
  cases outputs with
  | none => rfl
  | some _ =>
    cases inputs with
    | none => rfl
    | some _ => cases constant <;> rfl

-- A comment shows the tags of outputs only where a method is read-only.
theorem renderComment_visible (settings : Settings) (pieces : CommentPieces) :
    renderComment settings pieces.visible = renderComment settings pieces := by
  have line : returnLine? settings.dialect pieces.visible.returns =
      returnLine? settings.dialect pieces.returns := by
    obtain ⟨_, _, _, _, _, isTransaction⟩ := pieces
    cases isTransaction with
    | true => cases settings.dialect <;> rfl
    | false => rfl
  rw [renderComment, commentLines, tagLines, line]
  rfl

theorem composeComment_visible (method : Method) :
    composeComment settings method.visible = composeComment settings method := by
  rw [composeComment, commentPieces_visible, composeComment]
  cases commentPieces settings.dialect method with
  | error error => rfl
  | ok pieces => exact congrArg Except.ok (renderComment_visible settings pieces)

/-- Each stage does to the visible part of a method what it does to the method. -/
theorem advance_visible (ignores : composer.IgnoresHidden) (method : Method) (stage : Stage) :
    method.visible.advance settings composer stage =
      (method.advance settings composer stage).map Method.visible := by
  cases stage with
  | inputs => rfl
  | outputs =>
    obtain ⟨_, _, constant, _, _, _, _, _, _, _, _, _, _⟩ := method
    cases constant <;> rfl
  | body =>
    rw [Method.advance, Method.advance, ignores.apply_visible]
    cases composer settings method <;> rfl
  | comment =>
    rw [Method.advance, Method.advance, composeComment_visible]
    cases composeComment settings method <;> rfl
  | declaration =>
    have declared : composeDeclaration settings method.visible =
        composeDeclaration settings method := rfl
    rw [Method.advance, Method.advance, declared]
    cases composeDeclaration settings method <;> rfl

theorem assemble_visible (ignores : composer.IgnoresHidden) (method : Method) :
    method.visible.assemble settings composer =
      (method.assemble settings composer).map Method.visible :=
  foldlM_of_commutes (advance_visible ignores) (stagesOf settings) method

theorem buildMethods_visible (ignores : composer.IgnoresHidden) (functions : List FunctionEntry) :
    (buildMethods settings composer (functions.map FunctionEntry.visible)).result =
      (buildMethods settings composer functions).result.map (List.map Method.visible) := by
  rw [result_buildMethods, result_buildMethods, group_visible]
  cases (group settings.overloadPolicy functions).result with
  | error error => rfl
  | ok methods => exact mapM_map_of_commutes (assemble_visible ignores) methods

theorem composeClass_visible (className : String) (methods : List Method) :
    composeClass settings className (methods.map Method.visible) =
      composeClass settings className methods := by
  rw [composeClass, List.mapM_map]
  rfl

/-- A class is built alike from the functions without the outputs that methods hide. -/
theorem buildClass_visible (ignores : composer.IgnoresHidden) (className : String)
    (functions : List FunctionEntry) :
    (buildClass settings composer className (functions.map FunctionEntry.visible)).result =
      (buildClass settings composer className functions).result := by
  rw [result_buildClass, result_buildClass, buildMethods_visible ignores]
  cases (buildMethods settings composer functions).result with
  | error error => rfl
  | ok methods => exact composeClass_visible className methods

theorem callBody_ignoresHidden : callBody.IgnoresHidden :=
  fun _ _ _ _ => rfl

end Building

/-- The text is the type that a method for the function resolves to. -/
structure FunctionEntry.ResolvesTo (function : FunctionEntry) (table : TypeTable) (type : String) :
    Prop where
  nothing : function.constant = false ∨ function.outputs = [] →
    type = TypeTable.promise table.fallback
  single (output : Parameter) : function.constant = true → function.outputs = [output] →
    type = TypeTable.promise (table.infer .outputs output.tag)
  several : function.constant = true → 2 ≤ function.outputs.length →
    type = TypeTable.promise ("[" ++ ", ".intercalate
      (function.outputs.map fun output => table.infer .outputs output.tag) ++ "]")

/-- The comment on the method and its declaration give the type that the function resolves to. -/
structure Method.Announces (settings : Settings) (function : FunctionEntry) (method : Method)
    (pieces : CommentPieces) : Prop where
  collected : commentPieces settings.dialect method = .ok pieces
  resolves : function.ResolvesTo settings.dialect.types pieces.returns.asyncType
  commented : settings.emitDocs → method.comment = some (renderComment settings pieces)
  declared : settings.dialect = .typeScript → ∃ list body, method.inputs.literal = some list ∧
    method.body = some body ∧ method.declaration = some (
      Text.indentation settings.indent 1 ++ "public async " ++ method.methodName ++ list ++ ": " ++
        pieces.returns.asyncType ++ " \x7b" ++ body ++ "\n" ++
        Text.indentation settings.indent 1 ++ "\x7d\n\n")

section Announcing

variable {settings : Settings} {composer : BodyComposer}

theorem returnTypeOf_promise (dialect : Dialect) (inner : String) :
    returnTypeOf dialect (TypeTable.promise inner) = TypeTable.promise inner := by
  unfold returnTypeOf
  rw [if_neg]
  simp [TypeTable.promise]

/-- The declared outputs of a function decide its type, whichever side looks at it. -/
theorem resolvesTo_returnTypeOf (dialect : Dialect) (function : FunctionEntry) :
    function.ResolvesTo dialect.types (returnTypeOf dialect
      (if function.constant then
        resolvedType (function.outputs.map fun output => dialect.types.infer .outputs output.tag)
      else dialect.types.fallbackPromise)) := by
  constructor
  case nothing =>
    rintro (changing | empty)
    · rw [changing]
      exact returnTypeOf_promise dialect _
    · rw [empty]
      cases function.constant with
      | true => rfl
      | false => exact returnTypeOf_promise dialect _
  case single =>
    intro output constant alone
    rw [if_pos constant, alone]
    exact returnTypeOf_promise dialect _
  case several =>
    intro constant many
    rw [if_pos constant]
    cases outputs : function.outputs with
    | nil => simp [outputs] at many
    | cons first rest =>
      cases rest with
      | nil => simp [outputs] at many
      | cons second rest => exact returnTypeOf_promise dialect _

theorem declarationText_of_annotated (annotated : settings.dialect = .typeScript)
    (methodName list type body : String) :
    declarationText settings methodName list type body =
      Text.indentation settings.indent 1 ++ "public async " ++ methodName ++ list ++ ": " ++
        returnTypeOf settings.dialect type ++ " \x7b" ++ body ++ "\n" ++
        Text.indentation settings.indent 1 ++ "\x7d\n\n" := by
  have middle : declarationMiddle settings.dialect list type =
      ": " ++ returnTypeOf settings.dialect type ++ " " := by
    rw [annotated]
    rfl
  rw [declarationText, middle, annotated]
  apply String.toList_inj.mp
  simp [Dialect.methodKeywords]

/-- The stages after the body describe a method and declare it, and read the same type for both. -/
theorem eq_of_closingStages {start method : Method} {list type body : String}
    (closed : (closingStages settings).foldlM (Method.advance settings composer) start =
      .ok method)
    (listed : start.inputs.literal = some list) (typed : start.outputs.literal = some type)
    (bodied : start.body = some body) :
    ∃ pieces, commentPieces settings.dialect start = .ok pieces ∧
      pieces.returns.asyncType = returnTypeOf settings.dialect type ∧
      method = { start with
        comment := if settings.emitDocs then some (renderComment settings pieces)
          else start.comment
        declaration := some (declarationText settings start.methodName list type body) } := by
  obtain ⟨pieces, collected, returned⟩ : ∃ pieces,
      commentPieces settings.dialect start = .ok pieces ∧
        pieces.returns.asyncType = returnTypeOf settings.dialect type := by
    simp only [commentPieces, listed, typed]
    exact ⟨_, rfl, rfl⟩
  refine ⟨pieces, collected, returned, ?_⟩
  have declared (comment : Option String) : composeDeclaration settings { start with comment } =
      .ok (declarationText settings start.methodName list type body) := by
    simp only [composeDeclaration, listed, typed, bodied]
  unfold closingStages at closed
  cases documented : settings.emitDocs with
  | false =>
    rw [documented, if_neg Bool.false_ne_true, List.nil_append, List.foldlM_cons, Method.advance,
      declared start.comment] at closed
    exact (Except.ok.inj closed).symm
  | true =>
    have commented : composeComment settings start = .ok (renderComment settings pieces) := by
      rw [composeComment, collected]
      rfl
    rw [documented, if_pos rfl, List.singleton_append, List.foldlM_cons, Method.advance,
      commented] at closed
    change Method.advance settings composer
      { start with comment := some (renderComment settings pieces) } .declaration >>= pure = _
      at closed
    rw [Method.advance, declared] at closed
    exact (Except.ok.inj closed).symm

/-- A method that the closing stages end with announces what its outputs come to. -/
theorem announces_of_closingStages {function : FunctionEntry} {start method : Method}
    {list type body : String}
    (closed : (closingStages settings).foldlM (Method.advance settings composer) start =
      .ok method)
    (listed : start.inputs.literal = some list) (typed : start.outputs.literal = some type)
    (bodied : start.body = some body)
    (resolves : function.ResolvesTo settings.dialect.types (returnTypeOf settings.dialect type)) :
    ∃ pieces, method.Announces settings function pieces := by
  obtain ⟨pieces, collected, returned, rfl⟩ := eq_of_closingStages closed listed typed bodied
  refine ⟨pieces, collected, returned ▸ resolves, fun documented => if_pos documented, ?_⟩
  intro annotated
  refine ⟨list, body, listed, bodied, ?_⟩
  rw [returned, declarationText_of_annotated annotated]

theorem announces_of_assemble {function : FunctionEntry} {index count : Nat} {method : Method}
    (assembled : (Method.ofFunction settings.overloadPolicy index count function).assemble settings
      composer = .ok method) : ∃ pieces, method.Announces settings function pieces := by
  rw [assemble_eq_bind] at assembled
  obtain ⟨text, -, closed⟩ := bind_eq_ok_iff.mp assembled
  have resolves := resolvesTo_returnTypeOf settings.dialect function
  have tags : (function.outputs.map Argument.ofParameter).map
      (fun argument => settings.dialect.types.infer .outputs argument.tag) =
      function.outputs.map fun output => settings.dialect.types.infer .outputs output.tag :=
    List.map_map
  rw [← tags] at resolves
  exact announces_of_closingStages closed rfl (literal_buildOutputs _ _ _) rfl resolves

end Announcing

/-- Whatever outputs are declared for functions that change state, the same class is built or it is
refused for the same reason, as long as bodies do not tell them. Each method that is built for a
function resolves to the type that the outputs of the function come to, in the comment on it and in
its declaration alike. -/
theorem outputs_hidden_or_announced :
    callBody.IgnoresHidden ∧
    (∀ composer : BodyComposer, composer.IgnoresHidden → ∀ settings className first second,
      List.Forall₂ FunctionEntry.SameButHidden first second →
        (buildClass settings composer className first).result =
          (buildClass settings composer className second).result) ∧
    ∀ settings composer functions methods,
      (buildMethods settings composer functions).result = .ok methods →
        List.Forall₂ (fun function method => ∃ pieces, method.Announces settings function pieces)
          functions methods := by
  refine ⟨callBody_ignoresHidden, ?_, ?_⟩
  · intro composer ignores settings className first second alike
    have visible : first.map FunctionEntry.visible = second.map FunctionEntry.visible :=
      map_eq_map_of_forall₂ alike fun _ _ same => same.visible
    rw [← buildClass_visible ignores, visible, buildClass_visible ignores]
  · intro settings composer functions methods built
    exact (forall₂_assembled built).imp fun _ _ ⟨_, _, assembled⟩ => announces_of_assemble assembled

/-- A read-only function with two outputs. -/
def reservesEntry : FunctionEntry :=
  .declare "getReserves" [] [⟨"", "uint112", none⟩, ⟨"", "uint112", none⟩] true

/-- Whether minting answers anything is not seen. A pair of reserves is. -/
theorem mint_hidden_and_reserves_announced :
    (buildClass {} callBody "Pair" [mintEntry, reservesEntry]).result =
        (buildClass {} callBody "Pair"
          [{ mintEntry with outputs := [⟨"id", "uint256", none⟩] }, reservesEntry]).result ∧
      ∃ method pieces, (buildMethods {} callBody [reservesEntry]).result = .ok [method] ∧
        commentPieces .typeScript method = .ok pieces ∧
        pieces.returns.asyncType = "Promise<[BigNumber, BigNumber]>" := by
  obtain ⟨ignores, hidden, announced⟩ := outputs_hidden_or_announced
  constructor
  · refine hidden callBody ignores {} "Pair" _ _ (.cons ⟨_, rfl, ?_⟩ (.cons ⟨_, rfl, ?_⟩ .nil))
    · exact fun constant => absurd constant (by decide)
    · exact fun _ => rfl
  · have grouped : (group .mangle [reservesEntry]).result =
        .ok (methodsOf .mangle [reservesEntry]) := by rfl
    have built := @buildMethods_of_group {} _ _ grouped
    obtain ⟨⟨pieces, announces⟩, -⟩ := List.forall₂_cons.mp (announced {} callBody _ _ built)
    refine ⟨_, pieces, built, announces.collected, ?_⟩
    have shown : typeScriptTypes.infer .outputs "uint112" = "BigNumber" :=
      TypeTable.inferReversed_of_none _ _ (by decide)
    have types : reservesEntry.outputs.map (fun output =>
        typeScriptTypes.infer .outputs output.tag) = ["BigNumber", "BigNumber"] := by
      rw [← shown]
      rfl
    have resolved : pieces.returns.asyncType = TypeTable.promise ("[" ++ ", ".intercalate
        (reservesEntry.outputs.map fun output => typeScriptTypes.infer .outputs output.tag) ++
          "]") := announces.resolves.several rfl (by decide)
    rw [types] at resolved
    exact resolved.trans (by decide)

end ContractWrapper
