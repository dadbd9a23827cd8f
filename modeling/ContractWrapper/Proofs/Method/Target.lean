import ContractWrapper.Proofs.Interface.Identity
import ContractWrapper.Proofs.Method.Emission
import ContractWrapper.Proofs.Overload.Collision

/-! What the methods of a wrapper call.

The target of a call says which function of the contract it reaches. A function of its own name is
a property of the contract instance, and the functions that share a name stand in a table under
their signatures. No target of one kind is a target of the other, so methods call the same only if
they were generated from the same signature.
-/

set_option autoImplicit false

namespace ContractWrapper

/-- The method returns what comes back when `target` is called with its arguments. -/
def Method.Calls (settings : Settings) (method : Method) (target : String) : Prop :=
  method.body = some ("\n" ++ Text.indentation settings.indent 2 ++ "return " ++ target ++ "(" ++
    ", ".intercalate (method.inputs.arguments.map Argument.name) ++ ");")

/-- Among the methods, the one at a position calls the target. -/
def CallsAt (settings : Settings) (methods : List Method) (position : Nat) (target : String) :
    Prop :=
  ∃ method, methods[position]? = some method ∧ method.Calls settings target

/-- What asks a function for its result where calling it would send a transaction. -/
def askingSuffix : Framework → Bool → String
  | .truffle, true => ".call"
  | _, _ => ""

/-- Where an instance keeps functions under their names. -/
def propertyTable : String := "this.contract."

/-- Where an instance keeps functions under their signatures. -/
def signatureTable : Framework → String
  | .ethers => "this.contract"
  | .truffle => "this.contract.methods"

namespace FunctionEntry

def propertyTarget (framework : Framework) (function : FunctionEntry) : String :=
  propertyTable ++ function.name ++ askingSuffix framework function.constant

def signatureTarget (framework : Framework) (function : FunctionEntry) : String :=
  signatureTable framework ++ "[\"" ++ function.signature ++ "\"]" ++
    askingSuffix framework function.constant

/-- The target of a function in an interface whose functions have the given names. -/
def targetAmong (framework : Framework) (names : List String) (function : FunctionEntry) : String :=
  if 1 < names.count function.name then function.signatureTarget framework
  else function.propertyTarget framework

end FunctionEntry

section Texts

variable {framework : Framework} {first second : FunctionEntry}

theorem askingSuffix_cases (framework : Framework) (constant : Bool) :
    askingSuffix framework constant = "" ∨ askingSuffix framework constant = ".call" := by
  cases framework <;> cases constant <;> decide

theorem askingSuffix_eq_iff {constant other : Bool} :
    askingSuffix framework constant = askingSuffix framework other ↔
      (framework = .truffle → constant = other) := by
  cases framework <;> cases constant <;> cases other <;> decide

theorem stops_askingSuffix (framework : Framework) (constant : Bool) :
    Text.Stops ['.', '['] (askingSuffix framework constant).toList := by
  intro c head
  rcases askingSuffix_cases framework constant with none | call
  · rw [none] at head
    cases head
  · rw [call] at head
    cases head
    decide

theorem bracket_not_mem_askingSuffix (framework : Framework) (constant : Bool) :
    ']' ∉ (askingSuffix framework constant).toList := by
  rcases askingSuffix_cases framework constant with same | same <;> rw [same] <;> decide

theorem free_of_name {name : String} (identifier : isIdentifier name = true) :
    ∀ c ∈ name.toList, c ∉ ['.', '['] :=
  free_of_isIdentifier (by decide) identifier

theorem propertyTarget_eq_iff (named : isIdentifier first.name = true)
    (otherNamed : isIdentifier second.name = true) :
    first.propertyTarget framework = second.propertyTarget framework ↔
      first.name = second.name ∧ (framework = .truffle → first.constant = second.constant) := by
  rw [← askingSuffix_eq_iff]
  constructor
  · intro same
    have written : first.name.toList ++ (askingSuffix framework first.constant).toList =
        second.name.toList ++ (askingSuffix framework second.constant).toList := by
      simp only [FunctionEntry.propertyTarget, String.append_assoc, String.append_right_inj] at same
      simpa using congrArg String.toList same
    obtain ⟨names, suffixes⟩ := Text.eq_of_append_stops (free_of_name named)
      (free_of_name otherNamed) (stops_askingSuffix _ _) (stops_askingSuffix _ _) written
    exact ⟨String.toList_inj.mp names, String.toList_inj.mp suffixes⟩
  · rintro ⟨names, suffixes⟩
    rw [FunctionEntry.propertyTarget, FunctionEntry.propertyTarget, names, suffixes]

theorem signatureTarget_eq_iff :
    first.signatureTarget framework = second.signatureTarget framework ↔
      first.signature = second.signature ∧
        (framework = .truffle → first.constant = second.constant) := by
  rw [← askingSuffix_eq_iff]
  constructor
  · intro same
    have written :
        first.signature.toList ++ ['"'] ++ ']' :: (askingSuffix framework first.constant).toList =
          second.signature.toList ++ ['"'] ++
            ']' :: (askingSuffix framework second.constant).toList := by
      simp only [FunctionEntry.signatureTarget, String.append_assoc, String.append_right_inj]
        at same
      simpa using congrArg String.toList same
    -- A signature may hold brackets of its own, but the suffix behind the last one holds none.
    obtain ⟨quoted, suffixes⟩ := parts_of_last_place (bracket_not_mem_askingSuffix _ _)
      (bracket_not_mem_askingSuffix _ _) written
    exact ⟨String.toList_inj.mp (List.append_cancel_right quoted), String.toList_inj.mp suffixes⟩
  · rintro ⟨signatures, suffixes⟩
    rw [FunctionEntry.signatureTarget, FunctionEntry.signatureTarget, signatures, suffixes]

-- The text behind the instance is a point and a name in one target; in the other it is a bracket,
-- or the name of the table and a bracket.
theorem propertyTarget_ne_signatureTarget (named : isIdentifier first.name = true) :
    first.propertyTarget framework ≠ second.signatureTarget framework := by
  intro same
  cases framework with
  | ethers =>
    have written := congrArg String.toList same
    simp [FunctionEntry.propertyTarget, FunctionEntry.signatureTarget, propertyTable,
      signatureTable, String.append_assoc] at written
  | truffle =>
    have table : signatureTable .truffle = propertyTable ++ "methods" := by decide
    have opening : "[\"" = "[" ++ "\"" := by decide
    have bracket (rest : String) : Text.Stops ['.', '['] ("[" ++ rest).toList := by
      intro c head
      have first : '[' = c := by simpa using head
      exact first ▸ by decide
    have unmarked : ∀ c ∈ "methods".toList, c ∉ ['.', '['] := by simp
    rw [FunctionEntry.propertyTarget, FunctionEntry.signatureTarget, table, opening] at same
    simp only [String.append_assoc, String.append_right_inj] at same
    have written := congrArg String.toList same
    rw [String.toList_append, String.toList_append] at written
    obtain ⟨-, suffix⟩ := Text.eq_of_append_stops (free_of_name named) unmarked
      (stops_askingSuffix _ _) (bracket _) written
    rcases askingSuffix_cases .truffle first.constant with none | call
    · simp [none] at suffix
    · simp [call] at suffix

end Texts

section Build

variable {settings : Settings} {functions : List FunctionEntry} {methods : List Method}

theorem callTarget_finished (framework : Framework) (settings : Settings) (method : Method) :
    callTarget framework (method.finished settings) = callTarget framework method := by
  rcases method with ⟨name, methodName, constant, mutability, signature⟩
  cases framework <;> cases constant <;> unfold Method.finished <;> cases settings.emitDocs <;> rfl

theorem callTarget_ofFunction (framework : Framework) (policy : OverloadPolicy) (index count : Nat)
    (function : FunctionEntry) :
    callTarget framework (.ofFunction policy index count function) =
      if 1 < count then function.signatureTarget framework
      else function.propertyTarget framework := by
  by_cases shared : 1 < count <;> cases framework <;> cases constant : function.constant <;>
    simp [callTarget, callee, Method.ofFunction, Method.isOverloaded, shared, constant,
      FunctionEntry.signatureTarget, FunctionEntry.propertyTarget, signatureTable, propertyTable,
      askingSuffix]

theorem calls_iff {function : FunctionEntry} {method : Method} {target : String}
    (built : method.BuiltFor settings function) :
    method.Calls settings target ↔ target = callTarget settings.framework method := by
  rw [Method.Calls, built.body, callStatement]
  simp only [Option.some.injEq, String.append_assoc, String.append_right_inj,
    String.append_left_inj]
  exact eq_comm

theorem getElem?_of_buildMethods
    (built : (buildMethods settings callBody functions).result = .ok methods) (position : Nat) :
    methods[position]? = functions[position]?.map fun function =>
      (Method.ofFunction settings.overloadPolicy
        (((functions.take position).map FunctionEntry.name).count function.name)
        ((functions.map FunctionEntry.name).count function.name) function).finished settings := by
  obtain ⟨-, rfl⟩ := buildMethods_eq_map built
  rw [List.getElem?_map, methodsOf, getElem?_numberFunctions, Option.map_map]
  simp [Function.comp_def]

/-- Each method calls the target of its function. -/
theorem callsAt_iff
    (built : (buildMethods settings callBody functions).result = .ok methods) {position : Nat}
    {function : FunctionEntry} (selected : functions[position]? = some function)
    {target : String} :
    CallsAt settings methods position target ↔
      target = function.targetAmong settings.framework (functions.map FunctionEntry.name) := by
  rw [CallsAt, getElem?_of_buildMethods built, selected]
  simp only [Option.map_some, Option.some.injEq, exists_eq_left']
  rw [calls_iff (Method.builtFor_finished settings _ _ function), callTarget_finished,
    callTarget_ofFunction]
  rfl

-- A name that is counted once belongs to one function.
theorem eq_of_unshared {first second : FunctionEntry} (firstMember : first ∈ functions)
    (secondMember : second ∈ functions) (names : first.name = second.name)
    (unshared : ¬ 1 < (functions.map FunctionEntry.name).count first.name) : first = second := by
  have among : ∀ function ∈ [first, second],
      function ∈ functions.filter (·.name == first.name) := by
    simp [firstMember, secondMember, names]
  have bounded : (functions.filter (·.name == first.name)).length ≤ 1 := by
    rw [List.count_eq_countP, List.countP_map, List.countP_eq_length_filter] at unshared
    exact Nat.not_lt.mp unshared
  have left := among first (by simp)
  have right := among second (by simp)
  generalize functions.filter (·.name == first.name) = named at bounded left right
  cases named with
  | nil => cases left
  | cons only rest =>
    cases rest with
    | nil => exact (List.mem_singleton.mp left).trans (List.mem_singleton.mp right).symm
    | cons _ _ => simp at bounded

theorem targetAmong_eq_iff
    (identified : ∀ function ∈ functions, isIdentifier function.name = true ∧
      function.signature = canonicalSignature function.name function.inputs)
    {first second : FunctionEntry} (firstMember : first ∈ functions)
    (secondMember : second ∈ functions) (framework : Framework) :
    first.targetAmong framework (functions.map FunctionEntry.name) =
        second.targetAmong framework (functions.map FunctionEntry.name) ↔
      first.signature = second.signature ∧
        (framework = .truffle → first.constant = second.constant) := by
  obtain ⟨named, signature⟩ := identified first firstMember
  obtain ⟨otherNamed, otherSignature⟩ := identified second secondMember
  have names (signatures : first.signature = second.signature) : first.name = second.name := by
    rw [signature, otherSignature] at signatures
    exact (parts_of_canonicalSignature_eq named otherNamed signatures).1
  unfold FunctionEntry.targetAmong
  by_cases shared : 1 < (functions.map FunctionEntry.name).count first.name <;>
    by_cases otherShared : 1 < (functions.map FunctionEntry.name).count second.name
  · rw [if_pos shared, if_pos otherShared, signatureTarget_eq_iff]
  · rw [if_pos shared, if_neg otherShared]
    refine iff_of_false (propertyTarget_ne_signatureTarget otherNamed).symm fun same => ?_
    exact otherShared (names same.1 ▸ shared)
  · rw [if_neg shared, if_pos otherShared]
    refine iff_of_false (propertyTarget_ne_signatureTarget named) fun same => ?_
    exact shared (names same.1 ▸ otherShared)
  · rw [if_neg shared, if_neg otherShared, propertyTarget_eq_iff named otherNamed]
    refine and_congr_left fun _ => ⟨fun same => ?_, names⟩
    rw [eq_of_unshared firstMember secondMember same shared]

-- Whether a function is read-only decides about the suffix of its target and about nothing else.
theorem exists_targetAmong_eq_append (framework : Framework) (names : List String)
    (function : FunctionEntry) :
    ∃ object, ∀ constant, FunctionEntry.targetAmong framework names { function with constant } =
      object ++ askingSuffix framework constant := by
  by_cases shared : 1 < names.count function.name
  · exact ⟨signatureTable framework ++ "[\"" ++ function.signature ++ "\"]",
      fun _ => if_pos shared⟩
  · exact ⟨propertyTable ++ function.name, fun _ => if_neg shared⟩

theorem map_name_set {position : Nat} {function : FunctionEntry}
    (selected : functions[position]? = some function) (constant : Bool) :
    (functions.set position { function with constant }).map FunctionEntry.name =
      functions.map FunctionEntry.name := by
  obtain ⟨inside, same⟩ := List.getElem?_eq_some_iff.mp selected
  rw [List.map_set]
  refine List.ext_getElem (by simp) fun other _ bound => ?_
  rw [List.getElem_set]
  split
  · next here => simp [← here, same]
  · rfl

theorem exists_buildMethods_of_names {others : List FunctionEntry}
    (names : functions.map FunctionEntry.name = others.map FunctionEntry.name)
    (built : (buildMethods settings callBody functions).result = .ok methods) :
    ∃ otherMethods, (buildMethods settings callBody others).result = .ok otherMethods := by
  have admitted := exists_group_eq_ok_iff.mp ⟨_, (buildMethods_eq_map built).1⟩
  rw [methodsOf, methodNames_numberFunctions, names] at admitted
  have otherAdmitted : ∃ grouped, (group settings.overloadPolicy others).result = .ok grouped := by
    rw [exists_group_eq_ok_iff, methodsOf, methodNames_numberFunctions]
    exact admitted
  obtain ⟨grouped, reached⟩ := otherAdmitted
  exact ⟨_, buildMethods_of_group reached⟩

/-- Each method calls the function that it was generated from. A name that is declared once is
called as a property of the contract instance, any other function by its signature. Two methods
call the same target exactly when their functions have the same signature and, where it matters,
are both read-only or both not. Whether a function is read-only shows in the suffix alone. -/
theorem calls_own_function
    (identified : ∀ function ∈ functions, isIdentifier function.name = true ∧
      function.signature = canonicalSignature function.name function.inputs)
    (built : (buildMethods settings callBody functions).result = .ok methods) :
    (∀ position function, functions[position]? = some function → ∀ target,
      ((functions.map FunctionEntry.name).count function.name = 1 →
        (CallsAt settings methods position target ↔
          target = function.propertyTarget settings.framework)) ∧
      (1 < (functions.map FunctionEntry.name).count function.name →
        (CallsAt settings methods position target ↔
          target = function.signatureTarget settings.framework))) ∧
    (∀ i j first second target other,
      functions[i]? = some first → functions[j]? = some second →
      CallsAt settings methods i target → CallsAt settings methods j other →
      (target = other ↔ first.signature = second.signature ∧
        (settings.framework = .truffle → first.constant = second.constant))) ∧
    (∀ position function target, functions[position]? = some function →
      CallsAt settings methods position target → ∃ flipped other,
        (buildMethods settings callBody
          (functions.set position { function with constant := !function.constant })).result =
            .ok flipped ∧
        CallsAt settings flipped position other ∧
        (settings.framework = .ethers → other = target) ∧
        (settings.framework = .truffle →
          if function.constant then target = other ++ ".call" else other = target ++ ".call")) := by
  refine ⟨?kinds, ?pairs, ?flips⟩
  case kinds =>
    intro position function selected target
    rw [callsAt_iff built selected, FunctionEntry.targetAmong]
    refine ⟨fun once => ?_, fun shared => by rw [if_pos shared]⟩
    rw [if_neg (by omega)]
  case pairs =>
    intro i j first second target other selected otherSelected calls otherCalls
    rw [(callsAt_iff built selected).mp calls, (callsAt_iff built otherSelected).mp otherCalls]
    exact targetAmong_eq_iff identified (List.mem_of_getElem? selected)
      (List.mem_of_getElem? otherSelected) settings.framework
  case flips =>
    intro position function target selected calls
    have names := map_name_set selected (!function.constant)
    obtain ⟨flipped, flippedBuilt⟩ := exists_buildMethods_of_names names.symm built
    obtain ⟨inside, -⟩ := List.getElem?_eq_some_iff.mp selected
    have flippedSelected := List.getElem?_set_self
      (a := { function with constant := !function.constant }) inside
    obtain ⟨object, targets⟩ := exists_targetAmong_eq_append settings.framework
      (functions.map FunctionEntry.name) function
    have own : target = object ++ askingSuffix settings.framework function.constant :=
      ((callsAt_iff built selected).mp calls).trans (targets function.constant)
    refine ⟨flipped, object ++ askingSuffix settings.framework (!function.constant), flippedBuilt,
      ?_, ?_, ?_⟩
    · rw [callsAt_iff flippedBuilt flippedSelected, names]
      exact (targets _).symm
    · intro framework
      rw [own, framework]
      rfl
    · intro framework
      rw [own, framework]
      cases function.constant <;> simp [askingSuffix]

/-- Two functions of one name, and a read-only function. -/
def tokenEntries : List FunctionEntry :=
  [.declare "transfer" [⟨"", "address", none⟩] [] false,
    .declare "transfer" [⟨"", "address", none⟩, ⟨"", "uint", none⟩] [] false,
    .declare "balanceOf" [⟨"", "address", none⟩] [⟨"", "uint256", none⟩] true]

/-- Both functions of the shared name are called by their signatures, also the first one. -/
theorem token_targets :
    (∀ function ∈ tokenEntries, isIdentifier function.name = true ∧
      function.signature = canonicalSignature function.name function.inputs) ∧
    ∃ methods, (buildMethods { framework := .truffle } callBody tokenEntries).result = .ok methods ∧
      CallsAt { framework := .truffle } methods 0
        "this.contract.methods[\"transfer(address)\"]" ∧
      CallsAt { framework := .truffle } methods 1
        "this.contract.methods[\"transfer(address,uint256)\"]" ∧
      CallsAt { framework := .truffle } methods 2 "this.contract.balanceOf.call" := by
  have identified : ∀ function ∈ tokenEntries, isIdentifier function.name = true ∧
      function.signature = canonicalSignature function.name function.inputs := by
    simp only [tokenEntries, List.forall_mem_cons, List.not_mem_nil, false_implies, implies_true,
      and_true]
    exact ⟨⟨by decide, rfl⟩, ⟨by decide, rfl⟩, by decide, rfl⟩
  have grouped : (group .mangle tokenEntries).result = .ok (methodsOf .mangle tokenEntries) := by
    rfl
  have built := @buildMethods_of_group { framework := .truffle } tokenEntries _ grouped
  obtain ⟨kinds, -⟩ := calls_own_function identified built
  refine ⟨identified, _, built, ?_, ?_, ?_⟩
  · exact ((kinds 0 _ rfl _).2 (by decide)).mpr (by decide)
  · exact ((kinds 1 _ rfl _).2 (by decide)).mpr (by decide)
  · exact ((kinds 2 _ rfl _).1 (by decide)).mpr (by decide)

end Build

end ContractWrapper
