import ContractWrapper.Proofs.Overload.Collision

/-! What the methods of functions carry.

Every function has one method at its own place. It is numbered by the functions of its name that
stand before it and counted with all functions of its name, whatever stands between them. Where
shared names are refused, the first function that shares its name is blamed.
-/

set_option autoImplicit false

namespace ContractWrapper

/-- The number of functions that are declared under a name. -/
def declarations (functions : List FunctionEntry) (name : String) : Nat :=
  functions.countP (·.name == name)

/-- The method carries all that the function at a position says, and the place of the function among
those of its name. Nothing is built yet. -/
structure Method.Carries (policy : OverloadPolicy) (functions : List FunctionEntry)
    (position : Nat) (function : FunctionEntry) (method : Method) : Prop where
  name : method.name = function.name
  constant : method.constant = function.constant
  mutability : method.mutability = function.mutability
  signature : method.signature = function.signature
  selector : method.selector = function.selector
  inputs : method.inputs = ⟨function.inputs.map fun input => ⟨input.name, input.tag, none⟩, none⟩
  outputs : method.outputs =
    ⟨function.outputs.map fun output => ⟨output.name, output.tag, none⟩, none⟩
  unbuilt : method.body = none ∧ method.comment = none ∧ method.declaration = none
  overloadIndex : method.overloadIndex = declarations (functions.take position) function.name
  overloadCount : method.overloadCount = declarations functions function.name
  methodName : method.methodName =
    if policy = .mangle ∧ 0 < method.overloadIndex then
      function.name ++ "_" ++ toString method.overloadIndex
    else function.name

section Carrying

variable {policy : OverloadPolicy} {functions : List FunctionEntry}

theorem count_map_name (functions : List FunctionEntry) (name : String) :
    (functions.map FunctionEntry.name).count name = declarations functions name := by
  rw [List.count_eq_countP, List.countP_map]
  rfl

theorem methodName_eq (name : String) (index : Nat) :
    policy.methodName name index =
      if policy = .mangle ∧ 0 < index then name ++ "_" ++ toString index else name := by
  cases policy <;> cases index <;> simp [OverloadPolicy.methodName]

theorem carries_of_methodsOf {position : Nat} {function : FunctionEntry}
    (selected : functions[position]? = some function) :
    ∃ method, (methodsOf policy functions)[position]? = some method ∧
      method.Carries policy functions position function := by
  refine ⟨_, by rw [getElem?_methodsOf, selected, Option.map_some], ?_⟩
  rw [count_map_name, count_map_name]
  exact {
    name := rfl
    constant := rfl
    mutability := rfl
    signature := rfl
    selector := rfl
    inputs := rfl
    outputs := rfl
    unbuilt := ⟨rfl, rfl, rfl⟩
    overloadIndex := rfl
    overloadCount := rfl
    methodName := methodName_eq _ _ }

end Carrying

section Refusal

variable {functions : List FunctionEntry}

theorem result_group_reject :
    (group .reject functions).result =
      match firstRepeated? functions with
      | some function =>
        .error (.ambiguousOverload function.name (declarations functions function.name))
      | none => .ok (methodsOf .reject functions) := by
  have distinct : checkCollision .reject (methodsOf .reject functions) = .ok () := rfl
  rw [result_group, distinct]
  unfold checkRepeated
  cases firstRepeated? functions with
  | none => rfl
  | some function =>
    simp only [count_map_name]
    rfl

theorem declarations_pos {function : FunctionEntry} (member : function ∈ functions) :
    0 < declarations functions function.name := by
  rw [← count_map_name]
  exact List.count_pos_iff.mpr (List.mem_map_of_mem member)

/-- The function that is blamed shares its name, and no function before it does. -/
theorem firstRepeated?_eq_some_iff {function : FunctionEntry} :
    firstRepeated? functions = some function ↔
      1 < declarations functions function.name ∧
        ∃ before after, functions = before ++ function :: after ∧
          ∀ earlier ∈ before, declarations functions earlier.name = 1 := by
  simp only [firstRepeated?, List.find?_eq_some_iff_append, count_map_name, decide_eq_true_eq,
    Bool.not_eq_true', decide_eq_false_iff_not, Nat.not_lt]
  refine and_congr_right fun shared => exists_congr fun before => exists_congr fun after => ?_
  refine and_congr_right fun split => forall₂_congr fun earlier member => ?_
  have present : earlier ∈ functions := by
    rw [split]
    exact List.mem_append_left _ member
  have := declarations_pos present
  omega

theorem exists_firstRepeated?_iff :
    (∃ function, firstRepeated? functions = some function) ↔
      ∃ name, 1 < declarations functions name := by
  rw [← Option.isSome_iff_exists, firstRepeated?, List.find?_isSome]
  simp only [count_map_name, decide_eq_true_eq]
  constructor
  · rintro ⟨function, -, shared⟩
    exact ⟨function.name, shared⟩
  · rintro ⟨name, shared⟩
    -- A name that is counted is the name of some function.
    obtain ⟨function, member, named⟩ := List.countP_pos_iff.mp (Nat.zero_lt_of_lt shared)
    have named : function.name = name := by simpa using named
    exact ⟨function, member, by rw [named]; exact shared⟩

end Refusal

/-- Each function becomes the method that carries it, at its own place. Functions are refused for
shared names exactly if some name is declared more than once; blamed is then the first function
whose name is, with the number of its declarations. -/
theorem group_accounts :
    (∀ policy functions methods, (group policy functions).result = .ok methods →
      methods.length = functions.length ∧
        ∀ (position : Nat) function, functions[position]? = some function →
          ∃ method, methods[position]? = some method ∧
            method.Carries policy functions position function) ∧
    (∀ functions, (∃ error, (group .reject functions).result = .error error) ↔
      ∃ name, 1 < declarations functions name) ∧
    (∀ functions error, (group .reject functions).result = .error error →
      ∃ before function after, functions = before ++ function :: after ∧
        (∀ earlier ∈ before, declarations functions earlier.name = 1) ∧
        1 < declarations functions function.name ∧
        error = .ambiguousOverload function.name (declarations functions function.name) ∧
        error.message = "Function '" ++ function.name ++ "' is declared " ++
          toString (declarations functions function.name) ++
          " times and overloads are rejected") := by
  refine ⟨?_, ?_, ?_⟩
  · intro policy functions methods grouped
    obtain ⟨-, -, rfl⟩ := group_eq_ok_iff.mp grouped
    exact ⟨length_numberFunctions _ _ _ functions, fun _ _ => carries_of_methodsOf⟩
  · intro functions
    rw [← exists_firstRepeated?_iff, result_group_reject]
    cases firstRepeated? functions <;> simp
  · intro functions error failed
    rw [result_group_reject] at failed
    cases found : firstRepeated? functions with
    | none =>
      rw [found] at failed
      cases failed
    | some function =>
      rw [found] at failed
      cases failed
      obtain ⟨shared, before, after, split, single⟩ := firstRepeated?_eq_some_iff.mp found
      exact ⟨before, function, after, split, single, shared, rfl, rfl⟩

/-- Two ways to transfer, with an approval between them. -/
def transferEntries : List FunctionEntry :=
  [.declare "safeTransferFrom" [⟨"to", "address", none⟩, ⟨"id", "uint256", none⟩] [] false,
    .declare "approve" [⟨"to", "address", none⟩, ⟨"id", "uint256", none⟩] [] false,
    .declare "safeTransferFrom"
      [⟨"to", "address", none⟩, ⟨"id", "uint256", none⟩, ⟨"data", "bytes", none⟩] [] false]

/-- The second transfer is numbered across the approval. Where names are not shared, the first is
blamed. -/
theorem transfers_counted :
    (∃ methods method, (group .mangle transferEntries).result = .ok methods ∧
      methods.length = 3 ∧ methods[2]? = some method ∧ method.overloadIndex = 1 ∧
      method.overloadCount = 2 ∧ method.methodName = "safeTransferFrom_1") ∧
    ∃ error, (group .reject transferEntries).result = .error error ∧
      error.message =
        "Function 'safeTransferFrom' is declared 2 times and overloads are rejected" := by
  obtain ⟨accounts, refuses, blames⟩ := group_accounts
  constructor
  · have grouped : (group .mangle transferEntries).result =
        .ok (methodsOf .mangle transferEntries) := by rfl
    obtain ⟨length, each⟩ := accounts _ _ _ grouped
    obtain ⟨method, present, carries⟩ := each 2 _ rfl
    have index : method.overloadIndex = 1 := carries.overloadIndex
    have named := carries.methodName
    rw [index] at named
    exact ⟨_, method, grouped, length, present, index, carries.overloadCount, named⟩
  · obtain ⟨error, failed⟩ := (refuses transferEntries).mpr ⟨"safeTransferFrom", by decide⟩
    obtain ⟨before, function, after, split, single, -, -, message⟩ := blames _ _ failed
    cases before with
    | nil =>
      cases split
      exact ⟨error, failed, message⟩
    | cons first rest =>
      -- The first transfer shares its name, so it is not passed over.
      have same := (List.cons.inj split).1
      have alone := single first List.mem_cons_self
      rw [← same] at alone
      exact absurd alone (by decide)

end ContractWrapper
