import ContractWrapper.Proofs.Class.Members
import ContractWrapper.Proofs.Files.Reading
import ContractWrapper.Proofs.Generation
import ContractWrapper.Proofs.Interface.Reading

/-! A listing and the wrapper that it announces.

A listing is made from functions that are numbered as for a wrapper, under a policy that is settled
on a way of its own. Where one of the two is refused the other one is too, and else there is one
record for each method of the wrapper.
-/

set_option autoImplicit false

namespace ContractWrapper

open Failure (bind_eq_ok_iff mapError_eq_ok_iff)

section Policy

variable {request : GenerateRequest} {base settings : Settings}

theorem overloadPolicy_of_adjust (adjusted : request.adjust base = .ok settings) :
    (request.overloads.map OverloadPolicy.ofRequest).getD (.ok base.overloadPolicy) =
      .ok settings.overloadPolicy := by
  obtain ⟨_, -, adjusted⟩ := bind_eq_ok_iff.mp adjusted
  obtain ⟨_, -, adjusted⟩ := bind_eq_ok_iff.mp adjusted
  obtain ⟨policy, chosen, adjusted⟩ := bind_eq_ok_iff.mp adjusted
  obtain ⟨_, -, same⟩ := bind_eq_ok_iff.mp adjusted
  cases same
  exact chosen

theorem validate_of_adjust (adjusted : request.adjust base = .ok settings) :
    settings.validate = .ok () := by
  obtain ⟨_, -, adjusted⟩ := bind_eq_ok_iff.mp adjusted
  obtain ⟨_, -, adjusted⟩ := bind_eq_ok_iff.mp adjusted
  obtain ⟨_, -, adjusted⟩ := bind_eq_ok_iff.mp adjusted
  obtain ⟨⟨⟩, valid, same⟩ := bind_eq_ok_iff.mp adjusted
  cases same
  exact valid

variable {tree : FileTree}

theorem adjusted_of_settings (settled : tree.answer request.settings = .ok settings) :
    ∃ base, tree.answer (baseSettings request.settingsPath) = .ok base ∧
      request.adjust base = .ok settings := by
  rw [FileTree.answer_settings] at settled
  obtain ⟨base, read, adjusted⟩ := bind_eq_ok_iff.mp settled
  exact ⟨base, read, mapError_eq_ok_iff.mp adjusted⟩

/-- A listing is made under the policy of the settings that a generation comes to, although it
passes over the file when it is told a policy. -/
theorem answer_inspectPolicy_of_settings (path : String)
    (settled : tree.answer request.settings = .ok settings) :
    tree.answer (inspectPolicy ⟨path, request.settingsPath, request.overloads⟩) =
      .ok settings.overloadPolicy := by
  obtain ⟨base, read, adjusted⟩ := adjusted_of_settings settled
  have chosen := overloadPolicy_of_adjust adjusted
  unfold inspectPolicy
  cases asked : request.overloads with
  | some policy =>
    rw [asked] at chosen
    exact mapError_eq_ok_iff.mpr chosen
  | none =>
    rw [asked] at chosen
    rw [(FileTree.readsOnly_baseSettings _).answer_bind, read]
    exact congrArg Except.ok (Except.ok.inj chosen)

end Policy

section Columns

theorem length_le_utf8ByteSize (text : String) : text.length ≤ text.utf8ByteSize := by
  induction text using String.push_induction with
  | empty => exact Nat.le_refl 0
  | push text c ih =>
    rw [String.length_push, String.utf8ByteSize_push]
    exact Nat.add_le_add ih c.utf8Size_pos

theorem utf8ByteSize_le_nameWidth {methods : List Method} {method : Method}
    (member : method ∈ methods) : method.methodName.utf8ByteSize ≤ nameWidth methods := by
  rw [nameWidth, List.foldl_max, Nat.zero_max]
  exact List.le_max?_getD_of_mem
    (List.mem_map_of_mem (f := fun method => method.methodName.utf8ByteSize) member)

/-- A record of a listing: behind the name, which blanks bring to the given width, stand the
selector, the signature and what the method does to the state. -/
def Method.RecordedAs (width : Nat) (method : Method) (record : String) : Prop :=
  ∃ blanks, (method.methodName ++ String.ofList (List.replicate blanks ' ')).length = width ∧
    record = method.methodName ++ String.ofList (List.replicate blanks ' ') ++
      "  " ++ method.selector ++ "  " ++ method.signature ++
      "  " ++ (if method.constant then "constant" else "mutating") ++ "\n"

-- The width is counted in bytes, of which a name has no fewer than it has characters.
theorem recordedAs_inspectLine {methods : List Method} {method : Method}
    (member : method ∈ methods) :
    method.RecordedAs (nameWidth methods) (inspectLine (nameWidth methods) method) := by
  have fits : method.methodName.length ≤ nameWidth methods :=
    Nat.le_trans (length_le_utf8ByteSize _) (utf8ByteSize_le_nameWidth member)
  refine ⟨nameWidth methods - method.methodName.length, ?_, rfl⟩
  rw [String.length_append, String.length_ofList, List.length_replicate]
  exact Nat.add_sub_cancel' fits

theorem Method.SameFunction.recordedAs {width : Nat} {method other : Method} {record : String}
    (same : method.SameFunction other) (recorded : method.RecordedAs width record) :
    other.RecordedAs width record := by
  obtain ⟨_, _, _, _, _, rfl⟩ := same
  exact recorded

end Columns

section Listing

variable {policy : OverloadPolicy} {functions : List FunctionEntry} {methods : List Method}

theorem inspectReport_of_error {error : GenerationError}
    (refused : (group policy functions).result = .error error) :
    (inspectReport policy functions).result = .error error := by
  rw [inspectReport, Traced.result_bind, refused]
  rfl

theorem inspectReport_of_group (grouped : (group policy functions).result = .ok methods) :
    (inspectReport policy functions).result =
      .ok (String.join (methods.map (inspectLine (nameWidth methods)))) := by
  rw [inspectReport, Traced.result_bind, grouped]
  rfl

end Listing

/-- A built method with what belongs to its function: the signature and the selector are those of
the name and the inputs, and its text in the class declares the name that it is emitted under. -/
structure Method.EmittedFor (settings : Settings) (function : FunctionEntry) (method : Method) :
    Prop where
  signature : method.signature = canonicalSignature function.name function.inputs
  selector : method.selector = selectorOf (canonicalSignature function.name function.inputs)
  constant : method.constant = function.constant
  declared : (Member.mk method.methodName method.block).IsDeclared settings

section Emission

variable {settings : Settings} {functions : List FunctionEntry}

theorem emittedFor_finished {function : FunctionEntry} (formed : function.WellFormed)
    (settings : Settings) (index count : Nat) :
    Method.EmittedFor settings function
      ((Method.ofFunction settings.overloadPolicy index count function).finished settings) := by
  have declared := isDeclared_of_builtFor (Method.builtFor_finished settings index count function)
  have same := (Method.ofFunction settings.overloadPolicy index count
    function).sameFunction_finished settings
  generalize Method.finished settings _ = method at declared same
  obtain ⟨_, _, _, _, _, rfl⟩ := same
  exact ⟨formed.signature, formed.selector, rfl, declared⟩

theorem forall₂_emittedFor {methods : List Method}
    (formed : ∀ function ∈ functions, function.WellFormed)
    (grouped : (group settings.overloadPolicy functions).result = .ok methods) :
    List.Forall₂ (Method.EmittedFor settings) functions
      (methods.map (Method.finished settings)) := by
  obtain ⟨-, -, rfl⟩ := group_eq_ok_iff.mp grouped
  rw [List.forall₂_map_right_iff]
  have numbered := forall₂_numberFunctions settings.overloadPolicy
    (functions.map FunctionEntry.name) [] functions
  refine ((List.forall₂_and_left functions _).mpr ⟨formed, numbered⟩).imp ?_
  rintro function _ ⟨formed, index, count, rfl⟩
  exact emittedFor_finished formed settings index count

theorem forall₂_recordedAs (settings : Settings) (methods : List Method) :
    List.Forall₂ (Method.RecordedAs (nameWidth methods)) (methods.map (Method.finished settings))
      (methods.map (inspectLine (nameWidth methods))) := by
  rw [List.forall₂_map_left_iff, List.forall₂_map_right_iff, List.forall₂_same]
  intro method member
  exact (method.sameFunction_finished settings).recordedAs (recordedAs_inspectLine member)

end Emission

theorem exists_generate_of_group {settings : Settings} {fileStem : Option String} {text : String}
    {description : Interface} {methods : List Method}
    (read : (Interface.ofText text).result = .ok description)
    (valid : settings.validate = .ok ())
    (grouped : (group settings.overloadPolicy description.functions).result = .ok methods) :
    ∃ wrapper, (Wrapper.generate settings fileStem text).result = .ok wrapper ∧
      wrapper.source = classHeader settings wrapper.className ++
        String.join ((methods.map (Method.finished settings)).map Method.block) ++
        classFooter settings wrapper.className := by
  cases generated : (Wrapper.generate settings fileStem text).result with
  | error error =>
    cases generate_eq_error_iff.mp generated with
    | unread failed => cases failed.symm.trans read
    | refused _ refused => cases refused.symm.trans valid
    | ungrouped other _ failed =>
      cases other.symm.trans read
      cases failed.symm.trans grouped
  | ok wrapper =>
    refine ⟨wrapper, rfl, ?_⟩
    rw [Wrapper.generate, Traced.result_bind, read] at generated
    obtain ⟨-, built, reached, source⟩ := source_of_ofInterface generated
    rw [source, Except.ok.inj (reached.symm.trans (buildMethods_of_group grouped))]

section Preview

variable {tree : FileTree} {request : GenerateRequest} {settings : Settings} {text : String}
  {description : Interface}

/-- Wherever settings are arrived at, a listing is made under their policy. It is refused when the
wrapper is, for the same reason. Otherwise the listing has one record for each method that the
wrapper declares, in their order, and all names in it are brought to the same width. -/
theorem listing_previews_wrapper (settled : tree.answer request.settings = .ok settings)
    (read : (Interface.ofText text).result = .ok description) (path : String)
    (fileStem : Option String) :
    tree.answer (inspectPolicy ⟨path, request.settingsPath, request.overloads⟩) =
        .ok settings.overloadPolicy ∧
      ((∃ error, (group settings.overloadPolicy description.functions).result = .error error ∧
          (inspectReport settings.overloadPolicy description.functions).result = .error error ∧
          (Wrapper.generate settings fileStem text).result = .error error) ∨
        ∃ methods wrapper width records,
          (buildMethods settings callBody description.functions).result = .ok methods ∧
          List.Forall₂ (Method.EmittedFor settings) description.functions methods ∧
          (Wrapper.generate settings fileStem text).result = .ok wrapper ∧
          wrapper.source = classHeader settings wrapper.className ++
            String.join (methods.map Method.block) ++ classFooter settings wrapper.className ∧
          (inspectReport settings.overloadPolicy description.functions).result =
            .ok (String.join records) ∧
          List.Forall₂ (Method.RecordedAs width) methods records) := by
  obtain ⟨_, -, adjusted⟩ := adjusted_of_settings settled
  have valid := validate_of_adjust adjusted
  refine ⟨answer_inspectPolicy_of_settings path settled, ?_⟩
  cases grouped : (group settings.overloadPolicy description.functions).result with
  | error error =>
    exact .inl ⟨error, rfl, inspectReport_of_error grouped,
      generate_eq_error_iff.mpr (.ungrouped read valid grouped)⟩
  | ok methods =>
    obtain ⟨wrapper, generated, source⟩ := exists_generate_of_group read valid grouped
    exact .inr ⟨_, wrapper, _, _, buildMethods_of_group grouped,
      forall₂_emittedFor (Interface.wellFormed_of_ofText read) grouped, generated, source,
      inspectReport_of_group grouped, forall₂_recordedAs settings methods⟩

def emptyTree : FileTree := ⟨[], []⟩

def sizeText : String :=
  "[\x7b\"name\":\"größe\",\"inputs\":[],\"outputs\":[]\x7d," ++
    "\x7b\"name\":\"rate\",\"inputs\":[],\"outputs\":[]\x7d]"

def sizeRequest : GenerateRequest where
  interfacePath := "Size.json"
  dialect := none
  framework := none
  className := none
  out := none
  settingsPath := none
  overloads := some "Preserve"
  noDocs := false
  dryRun := false

/-- The longer of two names has letters of two bytes, and both are followed by blanks. -/
theorem size_listed :
    ∃ settings records methods width,
      emptyTree.answer sizeRequest.settings = .ok settings ∧
      emptyTree.answer (inspectPolicy ⟨"Size.json", none, some "Preserve"⟩) = .ok .preserve ∧
      methods.map Method.methodName = ["größe", "rate"] ∧
      List.Forall₂ (Method.RecordedAs width) methods records ∧
      ∃ description, (Interface.ofText sizeText).result = .ok description ∧
        (inspectReport .preserve description.functions).result = .ok (String.join records) := by
  have settled : emptyTree.answer sizeRequest.settings = .ok { overloadPolicy := .preserve } := by
    rfl
  have read : (Interface.ofText sizeText).result = .ok ⟨none,
      [.withMutability "größe" [] [] "nonpayable", .withMutability "rate" [] [] "nonpayable"],
      0⟩ := by rfl
  obtain ⟨policy, ⟨_, refused, -⟩ |
      ⟨methods, -, width, records, built, -, -, -, listed, recorded⟩⟩ :=
    listing_previews_wrapper settled read "Size.json" none
  · cases refused
  · exact ⟨_, records, methods, width, settled, policy, map_methodName_of_buildMethods built,
      recorded, _, read, listed⟩

end Preview

end ContractWrapper
