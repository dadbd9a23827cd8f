import ContractWrapper.Proofs.Failure
import ContractWrapper.Wrapper

/-! The class as its parts in order.

The text of a class is a header, one block for each method and a footer. It exists exactly when
every method has a declaration, and otherwise the first method without one is named.
-/

set_option autoImplicit false

namespace ContractWrapper

open Failure (bind_eq_ok_iff bind_eq_error_iff mapError_eq_ok_iff mapM_eq_ok_map mapM_eq_error_iff)

/-- A method as it stands in a class, with nothing for what has not been built. -/
def Method.block (method : Method) : String :=
  method.comment.getD "" ++ method.declaration.getD ""

def classHeader (settings : Settings) (className : String) : String :=
  Text.renderLines settings.indent (headerLines settings className)

def classFooter (settings : Settings) (className : String) : String :=
  Text.renderLines settings.indent (footerLines settings className)

/-- The text at the top of a module, and the names that it binds. -/
inductive Preamble : Framework → Dialect → String → List String → Prop where
  | none (dialect : Dialect) : Preamble .truffle dialect "" []
  | javaScript : Preamble .ethers .javaScript "const ethers = require(\"ethers\");\n\n" ["ethers"]
  | typeScript : Preamble .ethers .typeScript
      "import \x7b ethers, BigNumber, BigNumberish \x7d from \"ethers\";\n\n"
      ["ethers", "BigNumber", "BigNumberish"]

theorem preamble_importLines (indent : String) (framework : Framework) (dialect : Dialect) :
    Preamble framework dialect (Text.renderLines indent (importLines framework dialect))
      (importedNames framework dialect) := by
  cases framework with
  | truffle => exact .none dialect
  | ethers =>
    cases dialect with
    | javaScript => exact .javaScript
    | typeScript => exact .typeScript

theorem Method.classText_of_isSome {method : Method} (declared : method.declaration.isSome) :
    method.classText = .ok method.block := by
  obtain ⟨declaration, present⟩ := Option.isSome_iff_exists.mp declared
  simp [Method.classText, Method.block, present]

theorem Method.classText_eq_error_iff {method : Method} {error : GenerationError} :
    method.classText = .error error ↔
      method.declaration = none ∧
        error = .precondition (.classBeforeDeclaration method.methodName) := by
  cases present : method.declaration <;> simp [Method.classText, present, eq_comm]

theorem Method.exists_classText_iff {method : Method} :
    (∃ text, method.classText = .ok text) ↔ method.declaration.isSome := by
  cases present : method.declaration <;> simp [Method.classText, present]

section

variable {settings : Settings} {className : String} {methods : List Method}

theorem composeClass_of_declared (declared : ∀ method ∈ methods, method.declaration.isSome) :
    composeClass settings className methods =
      .ok (classHeader settings className ++ String.join (methods.map Method.block) ++
        classFooter settings className) := by
  have texts : methods.mapM Method.classText = .ok (methods.map Method.block) :=
    mapM_eq_ok_map fun method member => Method.classText_of_isSome (declared method member)
  rw [composeClass, texts]
  rfl

theorem composeClass_eq_error_iff {error : GenerationError} :
    composeClass settings className methods = .error error ↔
      ∃ before method after, methods = before ++ method :: after ∧
        (∀ earlier ∈ before, earlier.declaration.isSome) ∧ method.declaration = none ∧
        error = .precondition (.classBeforeDeclaration method.methodName) := by
  have traversal : composeClass settings className methods = .error error ↔
      methods.mapM Method.classText = .error error := by
    rw [composeClass, bind_eq_error_iff]
    constructor
    · rintro (failed | ⟨texts, -, impossible⟩)
      · exact failed
      · cases impossible
    · exact .inl
  simp only [traversal, mapM_eq_error_iff, Method.exists_classText_iff,
    Method.classText_eq_error_iff]

theorem declared_of_composeClass {source : String}
    (composed : composeClass settings className methods = .ok source) :
    ∀ method ∈ methods, method.declaration.isSome := by
  obtain ⟨texts, reached, -⟩ := bind_eq_ok_iff.mp composed
  intro method member
  exact Method.exists_classText_iff.mp
    (Failure.exists_mapM_eq_ok_iff.mp ⟨texts, reached⟩ method member)

end

/-- A wrapper is made under checked settings, and its text is that of the class of its name. -/
theorem ofInterface_eq_ok {settings : Settings} {fileStem : Option String}
    {description : Interface} {wrapper : Wrapper}
    (generated : (Wrapper.ofInterface settings fileStem description).result = .ok wrapper) :
    settings.validate = .ok () ∧
      wrapper.className = classNameFor settings description.contractName fileStem ∧
      wrapper.extension = settings.dialect.fileExtension ∧
      (buildClass settings callBody wrapper.className description.functions).result =
        .ok wrapper.source := by
  rw [Wrapper.ofInterface, Traced.result_bind] at generated
  obtain ⟨⟨⟩, checked, generated⟩ := bind_eq_ok_iff.mp generated
  rw [Traced.result_bind] at generated
  obtain ⟨source, composed, same⟩ := bind_eq_ok_iff.mp generated
  cases same
  exact ⟨mapError_eq_ok_iff.mp checked, rfl, rfl, composed⟩

/-- A wrapper that is generated from a text is made for what the text describes. -/
theorem ofInterface_of_generate {settings : Settings} {fileStem : Option String} {text : String}
    {wrapper : Wrapper}
    (generated : (Wrapper.generate settings fileStem text).result = .ok wrapper) :
    ∃ description, (Interface.ofText text).result = .ok description ∧
      (Wrapper.ofInterface settings fileStem description).result = .ok wrapper := by
  rw [Wrapper.generate, Traced.result_bind] at generated
  exact bind_eq_ok_iff.mp generated

end ContractWrapper
