import ContractWrapper.Proofs.Isolation
import ContractWrapper.Proofs.Method.ParameterNames

/-! The members of a class.

Between its opening line and its closing brace a class is a sequence of members: two fields, the
constructor and the methods. Numbering keeps the names of methods apart; the names of the other
members are fixed, and a function may be declared under one of them.
-/

set_option autoImplicit false

namespace ContractWrapper

open Failure (bind_eq_ok_iff)

/-- A member of a class with the text that declares it. -/
structure Member where
  name : String
  text : String

/-- The text declares the name: it stands at the start of a line, behind nothing but keywords, and
it ends where the text goes on. -/
def Member.IsDeclared (settings : Settings) (member : Member) : Prop :=
  ∃ before after, ∃ keywords ∈ ["", settings.dialect.methodKeywords ++ " "],
    member.text =
      before ++ Text.indentation settings.indent 1 ++ keywords ++ member.name ++ after ∧
    (before = "" ∨ before.toList.getLast? = some '\n') ∧
    ∃ c ∈ [';', ':', '(', ' '], after.toList.head? = some c

def constructorName : String := "constructor"

def fieldMembers (settings : Settings) : List Member :=
  List.zipWith (fun name line => ⟨name, line.render settings.indent⟩) fieldNames
    (fieldLines settings.framework settings.dialect)

/-- The constructor behind the blank line that sets it apart, and behind its comment. -/
def constructorMember (settings : Settings) : Member where
  name := constructorName
  text := Text.renderLines settings.indent (Text.blankLine ::
    (if settings.emitDocs then constructorCommentLines settings.framework settings.dialect
      else []) ++ constructorLines settings.framework settings.dialect)

def classMembers (settings : Settings) (methods : List Method) : List Member :=
  fieldMembers settings ++ constructorMember settings ::
    methods.map fun method => ⟨method.methodName, method.block⟩

/-- What stands before the first member. -/
def classOpening (settings : Settings) (className : String) : String :=
  Text.renderLines settings.indent (importLines settings.framework settings.dialect ++
    [⟨0, "class " ++ className ++ " \x7b"⟩])

theorem map_name_classMembers (settings : Settings) (methods : List Method) :
    (classMembers settings methods).map Member.name =
      (fieldNames ++ [constructorName]) ++ methods.map Method.methodName := by
  have fields : (fieldMembers settings).map Member.name = fieldNames := rfl
  simp [classMembers, fields, constructorMember, Function.comp_def]

section Text

variable (settings : Settings) (className : String) (methods : List Method)

theorem fieldMembers_text :
    String.join ((fieldMembers settings).map Member.text) =
      Text.renderLines settings.indent (fieldLines settings.framework settings.dialect) := rfl

theorem classHeader_eq :
    classHeader settings className = classOpening settings className ++
      String.join ((fieldMembers settings).map Member.text) ++
        (constructorMember settings).text := by
  have lines : headerLines settings className =
      (importLines settings.framework settings.dialect ++
        [⟨0, "class " ++ className ++ " \x7b"⟩]) ++
      fieldLines settings.framework settings.dialect ++ (Text.blankLine ::
        (if settings.emitDocs then constructorCommentLines settings.framework settings.dialect
          else []) ++ constructorLines settings.framework settings.dialect) := by
    simp [headerLines, openingLines]
  rw [classHeader, lines, Text.renderLines_append, Text.renderLines_append, fieldMembers_text]
  rfl

/-- Header and methods are the members in their order. -/
theorem classHeader_append_blocks :
    classHeader settings className ++ String.join (methods.map Method.block) =
      classOpening settings className ++
        String.join ((classMembers settings methods).map Member.text) := by
  rw [classHeader_eq]
  simp [classMembers, String.append_assoc, Function.comp_def]

-- Rendered lines end where the next line starts.
theorem lineStart_renderLines (indent : String) (lines : List Text.Line) :
    Text.renderLines indent lines = "" ∨
      (Text.renderLines indent lines).toList.getLast? = some '\n' := by
  rcases List.eq_nil_or_concat lines with rfl | ⟨earlier, last, rfl⟩
  · exact .inl rfl
  · refine .inr ?_
    rw [List.concat_eq_append, Text.renderLines_append, String.toList_append,
      List.getLast?_append]
    simp [Text.renderLines, Text.Line.render]

theorem isDeclared_fieldMember {member : Member} (field : member ∈ fieldMembers settings) :
    member.IsDeclared settings := by
  -- In each dialect a field is followed by its type or by the end of its declaration.
  cases dialect : settings.dialect with
  | javaScript =>
    simp only [fieldMembers, fieldLines, fieldNames, dialect, List.map_cons, List.map_nil,
      List.zipWith_cons_cons, List.zipWith_nil_left, List.mem_cons, List.not_mem_nil,
      or_false] at field
    rcases field with rfl | rfl <;>
      exact ⟨"", ";\n", "", by simp, by simp [Text.Line.render, Dialect.isAnnotated,
        String.append_assoc], .inl rfl, ';', by decide, by decide⟩
  | typeScript =>
    simp only [fieldMembers, fieldLines, fieldNames, dialect, List.map_cons, List.map_nil,
      List.zipWith_cons_cons, List.zipWith_nil_left, List.mem_cons, List.not_mem_nil,
      or_false] at field
    rcases field with rfl | rfl <;>
      exact ⟨"", ": " ++ fieldType settings.framework _ ++ ";\n", "", by simp,
        by simp [Text.Line.render, Dialect.isAnnotated, String.append_assoc]; rfl, .inl rfl,
        ':', by decide, by simp⟩

theorem isDeclared_constructorMember : (constructorMember settings).IsDeclared settings := by
  obtain ⟨after, rest, lines⟩ : ∃ after rest, constructorLines settings.framework
      settings.dialect = ⟨1, "constructor(" ++ after⟩ :: rest := by
    simp only [constructorLines, String.append_assoc]
    exact ⟨_, _, rfl⟩
  have opening : "constructor(" = constructorName ++ "(" := by decide
  refine ⟨Text.renderLines settings.indent (Text.blankLine ::
    (if settings.emitDocs then constructorCommentLines settings.framework settings.dialect
      else [])), "(" ++ after ++ "\n" ++ Text.renderLines settings.indent rest, "", by simp, ?_,
    lineStart_renderLines _ _, '(', by decide, by simp⟩
  simp only [constructorMember, lines, opening]
  rw [Text.renderLines_append]
  simp [Text.renderLines, Text.Line.render, String.append_assoc]

end Text

section Methods

variable {settings : Settings} {functions : List FunctionEntry} {methods : List Method}

theorem head?_parameterList (entries : List String) :
    ∃ c ∈ [';', ':', '(', ' '], (parameterList entries).toList.head? = some c := by
  unfold parameterList
  split
  · exact ⟨'(', by decide, by decide⟩
  · exact ⟨' ', by decide, by simp⟩

theorem isDeclared_of_builtFor {function : FunctionEntry} {method : Method}
    (built : method.BuiltFor settings function) :
    (Member.mk method.methodName method.block).IsDeclared settings := by
  obtain ⟨after, declared⟩ := built.declaration_eq
  obtain ⟨c, listed, first⟩ := head?_parameterList (List.zipWith (entryText settings.dialect)
    (method.inputs.arguments.map Argument.name) (inputTypes settings.dialect function.inputs))
  generalize parameterList _ = list at declared first
  refine ⟨method.comment.getD "", list ++ after, settings.dialect.methodKeywords ++ " ", by simp,
    ?_, ?_, c, listed, ?_⟩
  · simp [Method.block, declared, String.append_assoc]
  · rw [built.comment]
    split
    · exact lineStart_renderLines settings.indent _
    · exact .inl rfl
  · rw [String.toList_append, List.head?_append, first]
    rfl

theorem isDeclared_of_mem_classMembers
    (built : (buildMethods settings callBody functions).result = .ok methods) :
    ∀ member ∈ classMembers settings methods, member.IsDeclared settings := by
  intro member present
  rcases List.mem_append.mp present with field | other
  · exact isDeclared_fieldMember settings field
  · rcases List.mem_cons.mp other with rfl | listed
    · exact isDeclared_constructorMember settings
    · obtain ⟨method, member, rfl⟩ := List.mem_map.mp listed
      obtain ⟨function, -, built⟩ := exists_builtFor built member
      exact isDeclared_of_builtFor built

end Methods

section Names

variable {policy : OverloadPolicy} {functions : List FunctionEntry} {methods : List Method}

theorem map_fst_rankNames (earlier names : List String) :
    (rankNames earlier names).map Prod.fst = names := by
  induction names generalizing earlier with
  | nil => rfl
  | cons name rest ih => exact congrArg (List.cons name) (ih (name :: earlier))

/-- A name without an underscore is the name of a method when a function is declared under it. -/
theorem mem_methodNames_iff {name : String} (plain : '_' ∉ name.toList) :
    name ∈ (methodsOf policy functions).map Method.methodName ↔
      name ∈ functions.map FunctionEntry.name := by
  rw [methodsOf, methodNames_numberFunctions]
  constructor
  · intro member
    obtain ⟨⟨declared, rank⟩, ranked, emitted⟩ := List.mem_map.mp member
    have present := (mem_of_mem_rankNames ranked).1
    cases policy with
    | preserve | reject => exact (show declared = name from emitted) ▸ present
    | mangle =>
      cases rank with
      | zero => exact (show declared = name from emitted) ▸ present
      | succ rank =>
        refine absurd ?_ plain
        rw [← show declared ++ "_" ++ toString (rank + 1) = name from emitted]
        simp
  · intro member
    -- The first function of a name keeps it under every policy.
    have first : (name, 0) ∈ rankNames [] (functions.map FunctionEntry.name) := by
      rw [mem_rankNames, List.count_nil, Nat.zero_add]
      exact ⟨Nat.le_refl 0, List.count_pos_iff.mpr member⟩
    refine List.mem_map.mpr ⟨_, first, ?_⟩
    cases policy <;> rfl

theorem nodup_methodNames (numbered : policy ≠ .preserve)
    (grouped : (group policy functions).result = .ok methods) :
    (methods.map Method.methodName).Nodup := by
  obtain ⟨unrepeated, distinct, rfl⟩ := group_eq_ok_iff.mp grouped
  cases policy with
  | preserve => exact absurd rfl numbered
  | mangle => exact checkCollision_eq_ok_iff.mp distinct rfl
  | reject =>
    rw [methodsOf, methodNames_numberFunctions]
    -- No function is renamed, so that the names are the declared ones.
    refine (congrArg List.Nodup (map_fst_rankNames [] (functions.map FunctionEntry.name))).mpr ?_
    exact checkRepeated_eq_ok_iff.mp unrepeated rfl

end Names

section Generated

variable {settings : Settings} {fileStem : Option String} {description : Interface}
  {wrapper : Wrapper}

/-- What a generated wrapper holds: the text of the class for the methods of the interface. -/
theorem source_of_ofInterface
    (generated : (Wrapper.ofInterface settings fileStem description).result = .ok wrapper) :
    settings.validate = .ok () ∧ ∃ methods,
      (buildMethods settings callBody description.functions).result = .ok methods ∧
      wrapper.source = classHeader settings wrapper.className ++
        String.join (methods.map Method.block) ++ classFooter settings wrapper.className := by
  obtain ⟨valid, -, -, composed⟩ := ofInterface_eq_ok generated
  refine ⟨valid, ?_⟩
  obtain ⟨methods, built, -⟩ := bind_eq_ok_iff.mp ((result_buildClass _).symm.trans composed)
  refine ⟨methods, built, Except.ok.inj (composed.symm.trans ?_)⟩
  exact buildClass_of_buildMethods _ built

/-- A class whose methods are numbered, or not repeated, is a sequence of members under which the
methods have different names. All members have different names exactly when no function is declared
under the name of a field or of the constructor. -/
theorem members_distinct_iff
    (generated : (Wrapper.ofInterface settings fileStem description).result = .ok wrapper)
    (numbered : settings.overloadPolicy ≠ .preserve) :
    ∃ methods, (buildMethods settings callBody description.functions).result = .ok methods ∧
      wrapper.source = classOpening settings wrapper.className ++
        String.join ((classMembers settings methods).map Member.text) ++
        classFooter settings wrapper.className ∧
      (∀ member ∈ classMembers settings methods, member.IsDeclared settings) ∧
      (classMembers settings methods).map Member.name =
        ["contract", "contractAddress", "constructor"] ++ methods.map Method.methodName ∧
      (methods.map Method.methodName).Nodup ∧
      (((classMembers settings methods).map Member.name).Nodup ↔
        ∀ function ∈ description.functions,
          function.name ∉ ["contract", "contractAddress", "constructor"]) := by
  obtain ⟨-, methods, built, source⟩ := source_of_ofInterface generated
  have names := map_methodName_of_buildMethods built
  have distinct : (methods.map Method.methodName).Nodup := by
    rw [names]
    exact nodup_methodNames numbered (buildMethods_eq_map built).1
  refine ⟨methods, built, ?_, isDeclared_of_mem_classMembers built, map_name_classMembers _ _,
    distinct, ?_⟩
  · rw [source, classHeader_append_blocks]
  · have fixed : (fieldNames ++ [constructorName]).Nodup := by decide
    have plain : ∀ name ∈ fieldNames ++ [constructorName], '_' ∉ name.toList := by decide
    rw [map_name_classMembers, List.nodup_append', List.disjoint_left]
    constructor
    · rintro ⟨-, -, apart⟩ function member clash
      refine apart clash ?_
      rw [names, mem_methodNames_iff (plain _ clash)]
      exact List.mem_map_of_mem member
    · intro free
      refine ⟨fixed, distinct, fun name clash emitted => ?_⟩
      rw [names, mem_methodNames_iff (plain _ clash)] at emitted
      obtain ⟨function, member, rfl⟩ := List.mem_map.mp emitted
      exact free function member clash

/-- Numbering keeps the second of two functions of one name apart from the first. -/
theorem members_of_overloads :
    ∃ wrapper, (Wrapper.ofInterface {} none ⟨none, [balanceEntry, balanceEntry], 0⟩).result =
        .ok wrapper ∧
      ({} : Settings).overloadPolicy ≠ .preserve ∧
      ∃ methods, methods.map Method.methodName = ["balanceOf", "balanceOf_1"] ∧
        ((classMembers {} methods).map Member.name).Nodup := by
  have generated : (Wrapper.ofInterface {} none ⟨none, [balanceEntry, balanceEntry], 0⟩).result =
      .ok _ := rfl
  have numbered : ({} : Settings).overloadPolicy ≠ .preserve := by decide
  obtain ⟨methods, built, -, -, -, -, apart⟩ := members_distinct_iff generated numbered
  refine ⟨_, generated, numbered, methods, map_methodName_of_buildMethods built, apart.mpr ?_⟩
  intro function member
  rcases List.mem_pair.mp member with rfl | rfl <;> decide

/-- An interface whose only function is declared under the name of a field. -/
def fieldNamed : Json :=
  .array [.object [("name", .string "contract"), ("inputs", .array []), ("outputs", .array [])]]

/-- The wrapper has a field and a method of one name. -/
theorem field_name_taken :
    ∃ description wrapper methods, (Interface.ofJson fieldNamed).result = .ok description ∧
      (Wrapper.ofInterface {} none description).result = .ok wrapper ∧
      ({} : Settings).overloadPolicy ≠ .preserve ∧
      (buildMethods {} callBody description.functions).result = .ok methods ∧
      (classMembers {} methods).map Member.name =
        ["contract", "contractAddress", "constructor", "contract"] ∧
      ¬ ((classMembers {} methods).map Member.name).Nodup := by
  have read : (Interface.ofJson fieldNamed).result =
      .ok ⟨none, [.withMutability "contract" [] [] "nonpayable"], 0⟩ := by rfl
  have built := @buildMethods_of_group {} [.withMutability "contract" [] [] "nonpayable"] _ rfl
  have generated : (Wrapper.ofInterface {} none
      ⟨none, [.withMutability "contract" [] [] "nonpayable"], 0⟩).result = .ok _ := rfl
  refine ⟨_, _, _, read, generated, by decide, built, rfl, ?_⟩
  intro distinct
  cases distinct with
  | cons different _ =>
    have later : "contract" ∈ ["contractAddress", "constructor", "contract"] := by decide
    exact different "contract" later rfl

end Generated

end ContractWrapper
