import ContractWrapper.Proofs.Method.Emission
import ContractWrapper.Proofs.Method.Placeholder
import ContractWrapper.Wrapper

/-! The names in a parameter list.

A declared name is kept, and an unnamed input takes a placeholder. Placeholders are legal and
differ from all other names of their list, so that only declared names can be at fault.
-/

set_option autoImplicit false

namespace ContractWrapper

/-- The names that a method shows for its inputs, where these are declared under the names of the
first list. What becomes of a declared name that is reserved is left open. -/
structure NamesInputs (declared names : List String) : Prop where
  length : names.length = declared.length
  /-- The name of an unnamed input is legal. -/
  legal : ∀ pair ∈ declared.zip names, pair.1 = "" →
    isIdentifier pair.2 = true ∧ isReservedWord pair.2 = false
  /-- The name of an unnamed input differs from all other names. -/
  unique : (declared.zip names).Pairwise fun first second =>
    first.1 = "" ∨ second.1 = "" → first.2 ≠ second.2
  kept : ∀ pair ∈ declared.zip names, pair.1 ≠ "" → isReservedWord pair.1 = false →
    pair.2 = pair.1
  free : (∀ name ∈ declared, isReservedWord name = false) →
    (∀ name ∈ names, isReservedWord name = false) ∧
    ((∀ name ∈ names, isIdentifier name = true) ↔
      ∀ name ∈ declared, name ≠ "" → isIdentifier name = true) ∧
    (names.Nodup ↔ (declared.filter (· ≠ "")).Nodup)

theorem namesInputs_allocateAll {stem : String} (identifier : isIdentifier stem = true)
    (declared : List String) :
    NamesInputs declared ((PlaceholderSupply.fresh stem declared).allocateAll declared) := by
  have length := PlaceholderSupply.length_allocateAll (.fresh stem declared) declared
  have unique := PlaceholderSupply.pairwise_allocateAll (.fresh stem declared) declared
    fun name member named => by simp [PlaceholderSupply.fresh, member, named]
  have gives := PlaceholderSupply.gives_allocateAll (.fresh stem declared) declared
  generalize (PlaceholderSupply.fresh stem declared).allocateAll declared = names at *
  have legal : ∀ pair ∈ declared.zip names, pair.1 = "" →
      isIdentifier pair.2 = true ∧ isReservedWord pair.2 = false :=
    fun pair member => legal_of_gives identifier (List.forall₂_zip gives member)
  have kept : ∀ pair ∈ declared.zip names, pair.1 ≠ "" → pair.2 = pair.1 :=
    fun pair member named => (List.forall₂_zip gives member).eq_of_ne_empty named
  have overGiven (P : String → Prop) :
      (∀ given ∈ names, P given) ↔ ∀ pair ∈ declared.zip names, P pair.2 := by
    conv_lhs => rw [← List.map_snd_zip (Nat.le_of_eq length)]
    exact List.forall_mem_map
  have overDeclared (P : String → Prop) :
      (∀ name ∈ declared, P name) ↔ ∀ pair ∈ declared.zip names, P pair.1 := by
    conv_lhs => rw [← List.map_fst_zip (Nat.le_of_eq length.symm)]
    exact List.forall_mem_map
  refine ⟨length, legal, unique, fun pair member named _ => kept pair member named, ?_⟩
  intro unreserved
  rw [overDeclared] at unreserved
  refine ⟨?_, ?_, nodup_given_iff length kept unique⟩
  · rw [overGiven]
    intro pair member
    by_cases unnamed : pair.1 = ""
    · exact (legal pair member unnamed).2
    · rw [kept pair member unnamed]
      exact unreserved pair member
  · rw [overGiven, overDeclared]
    refine forall₂_congr fun pair member => ?_
    by_cases unnamed : pair.1 = ""
    · simp [unnamed, (legal pair member unnamed).1]
    · simp [unnamed, kept pair member unnamed]

/-- An entry of a parameter list. -/
def entryText (dialect : Dialect) (name shown : String) : String :=
  if dialect.isAnnotated then name ++ ": " ++ shown else name

/-- The argument is what an input becomes. -/
structure Argument.ShownFor (dialect : Dialect) (stem : String) (declared : List String)
    (parameter : Parameter) (argument : Argument) : Prop where
  name : PlaceholderSupply.Gives stem declared 0 parameter.name argument.name
  tag : argument.tag = parameter.tag
  shown : argument.shown = some (dialect.types.infer .inputs parameter.tag)

section Arguments

theorem forall₂_renamed {relation : String → String → Prop} {arguments : List Argument}
    {names : List String}
    (given : List.Forall₂ relation (arguments.map Argument.name) names) :
    List.Forall₂ (fun argument renamed =>
        relation argument.name renamed.name ∧ renamed.tag = argument.tag)
      arguments (arguments.zipWith (fun argument name => { argument with name }) names) := by
  induction arguments generalizing names with
  | nil =>
    cases given
    exact .nil
  | cons first rest ih =>
    cases given with
    | cons here later => exact .cons ⟨here, rfl⟩ (ih later)

theorem forall₂_buildInputs (dialect : Dialect) (stem : String) (parameters : List Parameter) :
    List.Forall₂ (Argument.ShownFor dialect stem
        ((parameters.map Parameter.name).filter (· ≠ "")))
      parameters (buildInputs dialect stem (parameters.map Argument.ofParameter)).arguments := by
  have names : (parameters.map Argument.ofParameter).map Argument.name =
      parameters.map Parameter.name := by simp [Argument.ofParameter, Function.comp_def]
  have given := forall₂_renamed (PlaceholderSupply.gives_allocateAll
    (.fresh stem (parameters.map Parameter.name))
    ((parameters.map Argument.ofParameter).map Argument.name))
  rw [← names] at given ⊢
  refine List.forall₂_map_right_iff.mpr ((List.forall₂_map_left_iff.mp given).imp ?_)
  rintro parameter renamed ⟨name, tag⟩
  exact ⟨name, tag, by rw [tag]; rfl⟩

end Arguments

section Written

variable (dialect : Dialect) (stem : String) (parameters : List Parameter)

theorem names_buildInputs :
    (buildInputs dialect stem (parameters.map Argument.ofParameter)).arguments.map Argument.name =
      (PlaceholderSupply.fresh stem (parameters.map Parameter.name)).allocateAll
        (parameters.map Parameter.name) := by
  have names : (parameters.map Argument.ofParameter).map Argument.name =
      parameters.map Parameter.name := by simp [Argument.ofParameter, Function.comp_def]
  rw [map_name_buildInputs, names]

/-- The types that are shown for the inputs. -/
def inputTypes : List String :=
  parameters.map fun parameter => dialect.types.infer .inputs parameter.tag

theorem inputTypes_eq {dialect : Dialect} {stem : String} {declared : List String}
    {parameters : List Parameter} {arguments : List Argument}
    (shown : List.Forall₂ (Argument.ShownFor dialect stem declared) parameters arguments) :
    inputTypes dialect parameters =
      arguments.map fun argument => dialect.types.infer .inputs argument.tag :=
  map_eq_map_of_forall₂ shown fun parameter argument shown => by rw [shown.tag]

theorem literal_buildInputs :
    (buildInputs dialect stem (parameters.map Argument.ofParameter)).literal =
      some (parameterList (List.zipWith (entryText dialect)
        ((buildInputs dialect stem (parameters.map Argument.ofParameter)).arguments.map
          Argument.name)
        (inputTypes dialect parameters))) := by
  have arguments := forall₂_buildInputs dialect stem parameters
  rw [inputTypes_eq arguments, List.zipWith_map, List.zipWith_self]
  refine congrArg (fun entries => some (parameterList entries))
    (List.map_congr_left fun argument member => ?_)
  obtain ⟨parameter, -, shown⟩ := exists_of_mem_right arguments member
  rw [Argument.entry, shown.shown, shown.tag]
  rfl

end Written

section Built

variable {settings : Settings} {functions : List FunctionEntry} {methods : List Method}

theorem Method.BuiltFor.arguments {settings : Settings} {function : FunctionEntry}
    {method : Method} (built : method.BuiltFor settings function) :
    List.Forall₂ (Argument.ShownFor settings.dialect settings.placeholderStem
        ((function.inputs.map Parameter.name).filter (· ≠ "")))
      function.inputs method.inputs.arguments := by
  rw [built.inputs]
  exact forall₂_buildInputs _ _ _

theorem Method.BuiltFor.declaration_eq {function : FunctionEntry} {method : Method}
    (built : method.BuiltFor settings function) :
    ∃ after, method.declaration = some (Text.indentation settings.indent 1 ++
      settings.dialect.methodKeywords ++ " " ++ method.methodName ++
      parameterList (List.zipWith (entryText settings.dialect)
        (method.inputs.arguments.map Argument.name)
        (inputTypes settings.dialect function.inputs)) ++ after) := by
  obtain ⟨list, outputs, body, listed, -, -, declared⟩ := built.declaration
  have literal := literal_buildInputs settings.dialect settings.placeholderStem function.inputs
  rw [← built.inputs, listed] at literal
  rw [declared, declarationText, ← Option.some.inj literal]
  simp only [String.append_assoc]
  exact ⟨_, rfl⟩

/-- What stands in the parameter lists of all methods. A list shows one name for each declared
input. The generator adds legal names to it that differ from all others, and keeps the names that
are declared, so that the names of a list are legal or distinct when the declared ones are. -/
theorem parameter_lists_legal (valid : settings.validate = .ok ())
    (built : (buildMethods settings callBody functions).result = .ok methods) :
    List.Forall₂ (fun function method =>
        (∃ after, method.declaration = some (Text.indentation settings.indent 1 ++
          settings.dialect.methodKeywords ++ " " ++ method.methodName ++
          parameterList (List.zipWith (entryText settings.dialect)
            (method.inputs.arguments.map Argument.name)
            (inputTypes settings.dialect function.inputs)) ++ after)) ∧
        NamesInputs (function.inputs.map Parameter.name)
          (method.inputs.arguments.map Argument.name))
      functions methods := by
  have identifier := ((Settings.validate_eq_ok_iff settings).mp valid).stem_identifier
  refine (forall₂_builtFor built).imp fun function method built => ⟨built.declaration_eq, ?_⟩
  rw [built.inputs, names_buildInputs]
  exact namesInputs_allocateAll identifier _

/-- Placeholders stand before and behind a declared name that looks like one of them. -/
theorem placeholders_around_declared :
    Settings.validate {} = .ok () ∧ ∃ method,
      (buildMethods {} callBody [.declare "f" [⟨"", "bool", none⟩, ⟨"argv0", "bool", none⟩,
        ⟨"", "uint8", none⟩] [] true]).result = .ok [method] ∧
      method.inputs.arguments.map Argument.name = ["argv1", "argv0", "argv2"] ∧
      NamesInputs ["", "argv0", ""] ["argv1", "argv0", "argv2"] := by
  have valid : Settings.validate {} = .ok () := by rfl
  have built := @buildMethods_of_group {} [.declare "f" [⟨"", "bool", none⟩,
    ⟨"argv0", "bool", none⟩, ⟨"", "uint8", none⟩] [] true] _ rfl
  cases parameter_lists_legal valid built with
  | cons first _ => exact ⟨valid, _, built, rfl, first.2⟩

/-- A function with two inputs of one name and one whose name is no identifier. -/
def looselyNamed : Json :=
  .array [.object [
    ("name", .string "f"),
    ("inputs", .array [
      .object [("name", .string "x"), ("type", .string "bool")],
      .object [("name", .string "x"), ("type", .string "bool")],
      .object [("name", .string "a b"), ("type", .string "bool")]]),
    ("outputs", .array [])]]

def looseFunction : FunctionEntry :=
  .withMutability "f" [⟨"x", "bool", none⟩, ⟨"x", "bool", none⟩, ⟨"a b", "bool", none⟩] []
    "nonpayable"

/-- Declared names reach the parameter list as they are. -/
theorem loose_names_listed :
    ∃ description method, (Interface.ofJson looselyNamed).result = .ok description ∧
      Settings.validate { dialect := .javaScript } = .ok () ∧
      (buildMethods { dialect := .javaScript } callBody description.functions).result =
        .ok [method] ∧
      method.inputs.literal = some " (x, x, a b) " ∧
      ¬ (method.inputs.arguments.map Argument.name).Nodup ∧
      ∃ name ∈ method.inputs.arguments.map Argument.name, isIdentifier name = false := by
  have read : (Interface.ofJson looselyNamed).result = .ok ⟨none, [looseFunction], 0⟩ := by rfl
  have built := @buildMethods_of_group { dialect := .javaScript } [looseFunction] _ rfl
  refine ⟨_, _, read, rfl, built, rfl, ?_, "a b", ?_, rfl⟩
  · intro distinct
    cases distinct with
    | cons different _ => exact different "x" List.mem_cons_self rfl
  · exact List.mem_cons_of_mem _ (List.mem_cons_of_mem _ List.mem_cons_self)

end Built

end ContractWrapper
