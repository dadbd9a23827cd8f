import ContractWrapper.Proofs.Method.Completion
import ContractWrapper.Proofs.Overload.Numbering
import ContractWrapper.Proofs.Related

/-! The methods that are built for functions.

Building gives one method for each function, in their order. What such a method holds is said here
once, so that nothing after it looks into the stages.
-/

set_option autoImplicit false

namespace ContractWrapper

open Failure (bind_eq_ok_iff)

/-- What the comment on a function is made from, given the built method. -/
def FunctionEntry.commentPieces (function : FunctionEntry) (dialect : Dialect) (method : Method) :
    CommentPieces where
  summary := "Calls `" ++ function.signature ++ "` (" ++ function.mutability ++ ")."
  selector := function.selector
  parameters := method.inputs.arguments.map (Argument.commentParameter dialect.types)
  returns := ⟨returnTypeOf dialect (method.outputs.literal.getD ""),
    function.outputs.map Parameter.tag, !function.constant⟩

/-- The method is the one that is built for the function. -/
structure Method.BuiltFor (settings : Settings) (function : FunctionEntry) (method : Method) :
    Prop where
  signature : method.signature = function.signature
  inputs : method.inputs = buildInputs settings.dialect settings.placeholderStem
    (function.inputs.map Argument.ofParameter)
  outputs : method.outputs = buildOutputs settings.dialect function.constant
    (function.outputs.map Argument.ofParameter)
  body : method.body = some ("\n" ++ Text.indentation settings.indent 2 ++
    callStatement settings.framework method)
  comment : method.comment =
    if settings.emitDocs then
      some (renderComment settings (function.commentPieces settings.dialect method))
    else none
  declaration : ∃ list outputs body, method.inputs.literal = some list ∧
    method.outputs.literal = some outputs ∧ method.body = some body ∧
    method.declaration = some (declarationText settings method.methodName list outputs body)

/-- What a declaration starts with: the words of the dialect and the name of the method. -/
def Method.opening (settings : Settings) (method : Method) : String :=
  settings.indent ++
    (match settings.dialect with
      | .javaScript => "async "
      | .typeScript => "public async ") ++ method.methodName

theorem declarationText_eq_opening (settings : Settings) (method : Method)
    (list outputs body : String) :
    ∃ after, declarationText settings method.methodName list outputs body =
      method.opening settings ++ list ++ after := by
  rw [declarationText, Text.indentation_one, Method.opening]
  cases settings.dialect <;>
    exact ⟨_, by simp only [Dialect.methodKeywords, String.append_assoc]; rfl⟩

theorem Method.builtFor_finished (settings : Settings) (index count : Nat)
    (function : FunctionEntry) :
    BuiltFor settings function
      ((ofFunction settings.overloadPolicy index count function).finished settings) := by
  have tags : ((buildOutputs settings.dialect function.constant
      (function.outputs.map Argument.ofParameter)).arguments.map Argument.tag) =
      function.outputs.map Parameter.tag := by
    simp [buildOutputs, Argument.ofParameter, Function.comp_def]
  unfold finished
  cases documented : settings.emitDocs with
  | false =>
    refine ⟨rfl, rfl, rfl, rfl, ?_, ⟨_, _, _, rfl, rfl, rfl, rfl⟩⟩
    rw [documented]
    rfl
  | true =>
    refine ⟨rfl, rfl, rfl, rfl, ?_, ⟨_, _, _, rfl, rfl, rfl, rfl⟩⟩
    rw [documented, if_pos rfl, if_pos rfl, FunctionEntry.commentPieces, ← tags]
    rfl

theorem Method.methodName_finished (settings : Settings) (method : Method) :
    (method.finished settings).methodName = method.methodName := by
  obtain ⟨_, _, _, _, _, finished⟩ := method.sameFunction_finished settings
  rw [finished]

theorem forall₂_numberFunctions (policy : OverloadPolicy) (names earlier : List String)
    (functions : List FunctionEntry) :
    List.Forall₂ (fun function method => ∃ index count,
        method = Method.ofFunction policy index count function)
      functions (numberFunctions policy names earlier functions) := by
  induction functions generalizing earlier with
  | nil => exact .nil
  | cons function rest ih => exact .cons ⟨_, _, rfl⟩ (ih (function.name :: earlier))

section Build

variable {settings : Settings} {functions : List FunctionEntry} {methods : List Method}

theorem buildMethods_eq_map
    (built : (buildMethods settings callBody functions).result = .ok methods) :
    (group settings.overloadPolicy functions).result =
        .ok (methodsOf settings.overloadPolicy functions) ∧
      methods = (methodsOf settings.overloadPolicy functions).map (Method.finished settings) := by
  obtain ⟨numbered, grouped, -⟩ := bind_eq_ok_iff.mp (result_buildMethods.symm.trans built)
  obtain ⟨-, -, rfl⟩ := group_eq_ok_iff.mp grouped
  exact ⟨grouped, Except.ok.inj (built.symm.trans (buildMethods_of_group grouped))⟩

/-- Building assembles for each function the method that it was numbered to, at its own place. -/
theorem forall₂_assembled {composer : BodyComposer}
    (built : (buildMethods settings composer functions).result = .ok methods) :
    List.Forall₂ (fun function method => ∃ index count,
        (Method.ofFunction settings.overloadPolicy index count function).assemble settings
          composer = .ok method)
      functions methods := by
  rw [result_buildMethods] at built
  obtain ⟨numbered, grouped, assembled⟩ := bind_eq_ok_iff.mp built
  obtain ⟨-, -, rfl⟩ := group_eq_ok_iff.mp grouped
  apply (forall₂_comp (forall₂_numberFunctions _ _ _ functions) (forall₂_of_mapM assembled)).imp
  rintro function method ⟨_, ⟨index, count, rfl⟩, reached⟩
  exact ⟨index, count, reached⟩

/-- Building gives each function its method. -/
theorem forall₂_builtFor
    (built : (buildMethods settings callBody functions).result = .ok methods) :
    List.Forall₂ (Method.BuiltFor settings) functions methods := by
  apply (forall₂_assembled built).imp
  rintro function method ⟨index, count, assembled⟩
  cases (Method.assemble_callBody settings _).symm.trans assembled
  exact Method.builtFor_finished settings index count function

theorem exists_builtFor
    (built : (buildMethods settings callBody functions).result = .ok methods) {method : Method}
    (member : method ∈ methods) : ∃ function ∈ functions, method.BuiltFor settings function :=
  exists_of_mem_right (forall₂_builtFor built) member

/-- Building leaves to the methods the names that numbering gave them. -/
theorem map_methodName_of_buildMethods
    (built : (buildMethods settings callBody functions).result = .ok methods) :
    methods.map Method.methodName =
      (methodsOf settings.overloadPolicy functions).map Method.methodName := by
  obtain ⟨-, rfl⟩ := buildMethods_eq_map built
  rw [List.map_map]
  exact List.map_congr_left fun method _ => method.methodName_finished settings

end Build

end ContractWrapper
