import ContractWrapper.Proofs.Isolation
import ContractWrapper.Proofs.Method.ParameterNames

/-! One method in two dialects.

A declaration is written from fragments, some of which are annotations. The annotated dialect
writes them all and the other one leaves the annotations out; in everything that a method does
beside its types and its comment the dialects agree.
-/

set_option autoImplicit false

namespace ContractWrapper

/-- The settings with another dialect. -/
def Settings.inDialect (settings : Settings) (dialect : Dialect) : Settings :=
  { settings with dialect }

section Dialects

variable (settings : Settings) (dialect : Dialect)

@[simp] theorem Settings.dialect_inDialect : (settings.inDialect dialect).dialect = dialect := rfl

@[simp] theorem Settings.framework_inDialect :
    (settings.inDialect dialect).framework = settings.framework := rfl

@[simp] theorem Settings.overloadPolicy_inDialect :
    (settings.inDialect dialect).overloadPolicy = settings.overloadPolicy := rfl

@[simp] theorem Settings.placeholderStem_inDialect :
    (settings.inDialect dialect).placeholderStem = settings.placeholderStem := rfl

@[simp] theorem Settings.indent_inDialect :
    (settings.inDialect dialect).indent = settings.indent := rfl

end Dialects

/-- A fragment of a declaration. -/
inductive Fragment where
  | code (text : String)
  | annotated (text : String)
  deriving DecidableEq, Repr

namespace Fragment

def written (dialect : Dialect) : Fragment → String
  | code text => text
  | annotated text => if dialect.isAnnotated then text else ""

def writeAll (dialect : Dialect) (fragments : List Fragment) : String :=
  String.join (fragments.map (written dialect))

end Fragment

def Argument.fragments (argument : Argument) : List Fragment :=
  .code argument.name :: (argument.shown.map fun type => .annotated (": " ++ type)).toList

def parameterFragments (arguments : List Argument) : List Fragment :=
  if arguments.isEmpty then [.code "()"]
  else .code " (" :: [.code ", "].intercalate (arguments.map Argument.fragments) ++ [.code ") "]

/-- The type of the result. The blank in front of the brace belongs to the annotation where the
parameter list ends in one already. -/
def resultFragments (arguments : List Argument) (type : String) : List Fragment :=
  if arguments.isEmpty then [.annotated (": " ++ type), .code " "]
  else [.annotated (": " ++ type ++ " ")]

def closingText (indent body : String) : String :=
  body ++ "\n" ++ Text.indentation indent 1 ++ "\x7d\n\n"

def declarationFragments (indent methodName : String) (arguments : List Argument)
    (type body : String) : List Fragment :=
  [.code (Text.indentation indent 1), .annotated "public ", .code ("async " ++ methodName)] ++
    parameterFragments arguments ++ resultFragments arguments type ++
    [.code ("\x7b" ++ closingText indent body)]

section Writing

open Fragment (written writeAll)

theorem writeAll_append (dialect : Dialect) (first rest : List Fragment) :
    writeAll dialect (first ++ rest) = writeAll dialect first ++ writeAll dialect rest := by
  simp [writeAll]

theorem writeAll_intercalate (dialect : Dialect) (separator : List Fragment)
    (parts : List (List Fragment)) :
    writeAll dialect (separator.intercalate parts) =
      (writeAll dialect separator).intercalate (parts.map (writeAll dialect)) := by
  induction parts with
  | nil => rfl
  | cons first rest ih =>
    cases rest with
    | nil => simp
    | cons next rest =>
      rw [List.intercalate_cons_cons, List.map_cons, List.map_cons, String.intercalate_cons_cons,
        writeAll_append, writeAll_append, ih, List.map_cons]

theorem writeAll_fragments (dialect : Dialect) (argument : Argument) :
    writeAll dialect argument.fragments = argument.entry dialect := by
  unfold Argument.fragments Argument.entry
  cases argument.shown with
  | none => simp [writeAll, written]
  | some type =>
    cases dialect <;> simp [writeAll, written, Dialect.isAnnotated, String.append_assoc]

theorem writeAll_parameterFragments (dialect : Dialect) (arguments : List Argument) :
    writeAll dialect (parameterFragments arguments) =
      parameterList (arguments.map (Argument.entry dialect)) := by
  have entries : (arguments.map Argument.fragments).map (writeAll dialect) =
      arguments.map (Argument.entry dialect) := by
    rw [List.map_map]
    exact List.map_congr_left fun argument _ => writeAll_fragments dialect argument
  have separator : writeAll dialect [.code ", "] = ", " := rfl
  unfold parameterFragments parameterList
  cases arguments with
  | nil => rfl
  | cons first rest =>
    simp only [List.isEmpty_cons, List.map_cons, Bool.false_eq_true, if_false]
    rw [← List.singleton_append, writeAll_append, writeAll_append, writeAll_intercalate, separator]
    simp only [← List.map_cons, entries]
    rfl

-- The plain dialect sets the brace apart by one blank, which only an empty list lacks.
theorem exists_parameterList_blank (entries : List String) :
    ∃ list, parameterList entries ++ (if entries.isEmpty then " " else "") = list ++ ") " := by
  cases entries with
  | nil => exact ⟨"(", rfl⟩
  | cons first rest => exact ⟨" (" ++ ", ".intercalate (first :: rest), by simp [parameterList]⟩

theorem declarationMiddle_javaScript (entries : List String) (outputs : String) :
    declarationMiddle .javaScript (parameterList entries) outputs =
      if entries.isEmpty then " " else "" := by
  obtain ⟨list, ending⟩ := exists_parameterList_blank entries
  cases entries with
  | nil => rfl
  | cons first rest =>
    simp only [List.isEmpty_cons, Bool.false_eq_true, if_false, String.append_empty] at ending
    simp [declarationMiddle, Dialect.isAnnotated, ending]

theorem writeAll_resultFragments_javaScript (arguments : List Argument) (type : String) :
    writeAll .javaScript (resultFragments arguments type) =
      if arguments.isEmpty then " " else "" := by
  unfold resultFragments
  cases arguments <;> rfl

theorem writeAll_resultFragments {dialect : Dialect} {arguments : List Argument}
    {type outputs : String} (typed : dialect = .typeScript → type = returnTypeOf dialect outputs) :
    writeAll dialect (resultFragments arguments type) =
      declarationMiddle dialect (parameterList (arguments.map (Argument.entry dialect)))
        outputs := by
  cases dialect with
  | javaScript =>
    rw [writeAll_resultFragments_javaScript, declarationMiddle_javaScript, List.isEmpty_map]
  | typeScript =>
    rw [typed rfl, resultFragments, declarationMiddle]
    cases arguments <;> simp [writeAll, written, Dialect.isAnnotated, String.append_assoc]

theorem declarationText_eq_writeAll {settings : Settings} {type outputs : String}
    (typed : settings.dialect = .typeScript → type = returnTypeOf settings.dialect outputs)
    (methodName : String) (arguments : List Argument) (body : String) :
    declarationText settings methodName
        (parameterList (arguments.map (Argument.entry settings.dialect))) outputs body =
      writeAll settings.dialect
        (declarationFragments settings.indent methodName arguments type body) := by
  have keywords : settings.dialect.methodKeywords ++ " " =
      writeAll settings.dialect [.annotated "public ", .code "async "] := by
    cases settings.dialect <;> rfl
  rw [declarationText, declarationFragments, writeAll_append, writeAll_append, writeAll_append,
    writeAll_parameterFragments, writeAll_resultFragments typed]
  simp [keywords, writeAll, written, closingText, String.append_assoc]

theorem exists_writeAll_javaScript (indent methodName : String) (arguments : List Argument)
    (type body : String) :
    ∃ list, writeAll .javaScript (declarationFragments indent methodName arguments type body) =
      list ++ ") \x7b" ++ closingText indent body := by
  obtain ⟨list, ending⟩ :=
    exists_parameterList_blank (arguments.map (Argument.entry .javaScript))
  have written := congrArg (fun text =>
    Text.indentation indent 1 ++ "async " ++ methodName ++ text ++ "\x7b" ++
      closingText indent body) ending
  refine ⟨Text.indentation indent 1 ++ "async " ++ methodName ++ list, ?_⟩
  rw [declarationFragments, writeAll_append, writeAll_append, writeAll_append,
    writeAll_parameterFragments, writeAll_resultFragments_javaScript]
  simpa [writeAll, Fragment.written, Dialect.isAnnotated, String.append_assoc] using written

end Writing

/-- The plain method is the annotated one without its annotations. The comment is left open: it
shows types in one dialect and tags in the other. -/
structure Method.PlainOf (indent : String) (annotated plain : Method) : Prop where
  same : ∃ inputs outputs comment declaration,
    plain = { annotated with inputs, outputs, comment, declaration }
  names : plain.inputs.arguments.map Argument.name =
    annotated.inputs.arguments.map Argument.name
  /-- Every parameter is annotated with a type. -/
  typed : ∀ argument ∈ annotated.inputs.arguments, argument.ShowsType .typeScript .inputs
  /-- One list of fragments gives both declarations. Without annotations a single blank is left
  between the parameter list and the body. -/
  declared : ∃ outputs body fragments,
    annotated.outputs.literal = some outputs ∧ annotated.body = some body ∧
    fragments = declarationFragments indent annotated.methodName annotated.inputs.arguments
      (returnTypeOf .typeScript outputs) body ∧
    annotated.declaration = some (Fragment.writeAll .typeScript fragments) ∧
    plain.declaration = some (Fragment.writeAll .javaScript fragments) ∧
    ∃ list, Fragment.writeAll .javaScript fragments =
      list ++ ") \x7b" ++ closingText indent body

section Built

variable {settings : Settings} {function : FunctionEntry} {method annotated plain : Method}

theorem declaration_of_builtFor (built : method.BuiltFor settings function) :
    ∃ outputs body, method.outputs.literal = some outputs ∧ method.body = some body ∧
      method.declaration = some (declarationText settings method.methodName
        (parameterList (method.inputs.arguments.map (Argument.entry settings.dialect)))
        outputs body) := by
  obtain ⟨list, outputs, body, listed, typed, bodied, declared⟩ := built.declaration
  have literal : method.inputs.literal = some (parameterList (method.inputs.arguments.map
      (Argument.entry settings.dialect))) := by
    rw [built.inputs]
    rfl
  cases listed.symm.trans literal
  exact ⟨outputs, body, typed, bodied, declared⟩

theorem map_entry_javaScript (arguments : List Argument) :
    arguments.map (Argument.entry .javaScript) = arguments.map Argument.name := by
  refine List.map_congr_left fun argument _ => ?_
  unfold Argument.entry
  cases argument.shown <;> rfl

-- Names are given to the inputs whatever types are shown for them.
theorem names_of_builtFor
    (annotatedBuilt : annotated.BuiltFor (settings.inDialect .typeScript) function)
    (plainBuilt : plain.BuiltFor (settings.inDialect .javaScript) function) :
    plain.inputs.arguments.map Argument.name =
      annotated.inputs.arguments.map Argument.name := by
  rw [plainBuilt.inputs, annotatedBuilt.inputs, names_buildInputs, names_buildInputs,
    Settings.placeholderStem_inDialect, Settings.placeholderStem_inDialect]

theorem plainOf_of_builtFor
    (annotatedBuilt : annotated.BuiltFor (settings.inDialect .typeScript) function)
    (plainBuilt : plain.BuiltFor (settings.inDialect .javaScript) function)
    (alike : annotated.SameFunction plain) :
    Method.PlainOf settings.indent annotated plain := by
  have names := names_of_builtFor annotatedBuilt plainBuilt
  obtain ⟨outputs, body, typed, bodied, declared⟩ := declaration_of_builtFor annotatedBuilt
  obtain ⟨plainOutputs, plainBody, -, plainBodied, plainDeclared⟩ :=
    declaration_of_builtFor plainBuilt
  have methodNames : plain.methodName = annotated.methodName := by
    obtain ⟨_, _, _, _, _, rfl⟩ := alike
    rfl
  have bodies : plainBody = body := by
    have targets : callTarget settings.framework plain =
        callTarget settings.framework annotated := by
      obtain ⟨_, _, _, _, _, rfl⟩ := alike
      rfl
    have written := Option.some.inj (bodied.symm.trans annotatedBuilt.body)
    have plainWritten := Option.some.inj (plainBodied.symm.trans plainBuilt.body)
    simp only [callStatement, Settings.framework_inDialect, Settings.indent_inDialect]
      at written plainWritten
    rw [written, plainWritten, names, targets]
  refine ⟨?same, names, ?typed, outputs, body, _, typed, bodied, rfl, ?declared, ?plainDeclared,
    exists_writeAll_javaScript ..⟩
  case same =>
    rw [bodies, ← bodied] at plainBodied
    obtain ⟨inputs, outputs, _, comment, declaration, rfl⟩ := alike
    exact ⟨inputs, outputs, comment, declaration, by rw [← plainBodied]⟩
  case typed =>
    intro argument member
    rw [annotatedBuilt.inputs] at member
    exact (settled_of_mem_buildInputs _ _ member).2
  case declared =>
    have text := @declarationText_eq_writeAll (settings.inDialect .typeScript)
      (returnTypeOf .typeScript outputs) outputs (fun _ => rfl)
    rw [declared, text]
    rfl
  case plainDeclared =>
    have text := @declarationText_eq_writeAll (settings.inDialect .javaScript)
      (returnTypeOf .typeScript outputs) plainOutputs nofun
    have entries : plain.inputs.arguments.map (Argument.entry .javaScript) =
        annotated.inputs.arguments.map (Argument.entry .javaScript) := by
      rw [map_entry_javaScript, map_entry_javaScript, names]
    simp only [Settings.dialect_inDialect, Settings.indent_inDialect] at text plainDeclared
    rw [plainDeclared, methodNames, bodies, entries, text]

theorem plainOf_finished (settings : Settings) (index count : Nat) (function : FunctionEntry) :
    Method.PlainOf settings.indent
      ((Method.ofFunction settings.overloadPolicy index count function).finished
        (settings.inDialect .typeScript))
      ((Method.ofFunction settings.overloadPolicy index count function).finished
        (settings.inDialect .javaScript)) := by
  exact plainOf_of_builtFor
    (Method.builtFor_finished (settings.inDialect .typeScript) index count function)
    (Method.builtFor_finished (settings.inDialect .javaScript) index count function)
    ((Method.sameFunction_finished (settings.inDialect .typeScript)).between
      (Method.sameFunction_finished (settings.inDialect .javaScript)))

end Built

/-- Two dialects refuse the same interfaces, and for the same reason. Where they do not refuse,
each function has in one dialect the method that it has in the other one beside annotations: the
same name, number and arguments, the same body, and a declaration from which nothing but keyword
and types are missing. -/
theorem dialects_agree (settings : Settings) (functions : List FunctionEntry) :
    (∃ error,
      (buildMethods (settings.inDialect .typeScript) callBody functions).result = .error error ∧
      (buildMethods (settings.inDialect .javaScript) callBody functions).result = .error error) ∨
    ∃ annotated plain,
      (buildMethods (settings.inDialect .typeScript) callBody functions).result = .ok annotated ∧
      (buildMethods (settings.inDialect .javaScript) callBody functions).result = .ok plain ∧
      annotated.length = functions.length ∧
      List.Forall₂ (Method.PlainOf settings.indent) annotated plain := by
  cases grouped : (group settings.overloadPolicy functions).result with
  | error error =>
    refine .inl ⟨error, ?_, ?_⟩ <;>
      rw [result_buildMethods, Settings.overloadPolicy_inDialect, grouped] <;> rfl
  | ok methods =>
    have annotated := @buildMethods_of_group (settings.inDialect .typeScript) _ _ grouped
    have plain := @buildMethods_of_group (settings.inDialect .javaScript) _ _ grouped
    refine .inr ⟨_, _, annotated, plain, length_of_buildMethods annotated, ?_⟩
    rw [List.forall₂_map_left_iff, List.forall₂_map_right_iff, List.forall₂_same]
    obtain ⟨-, -, rfl⟩ := group_eq_ok_iff.mp grouped
    intro method member
    obtain ⟨function, -, index, count, rfl⟩ := mem_numberFunctions _ _ _ member
    exact plainOf_finished settings index count function

example :
    let fragments := declarationFragments "\t" "mint" [⟨"to", "address", some "string"⟩]
      "Promise<any>" ""
    Fragment.writeAll .typeScript fragments =
        "\tpublic async mint (to: string) : Promise<any> \x7b\n\t\x7d\n\n" ∧
      Fragment.writeAll .javaScript fragments = "\tasync mint (to) \x7b\n\t\x7d\n\n" := by
  decide

end ContractWrapper
