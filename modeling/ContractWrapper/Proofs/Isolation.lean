import ContractWrapper.Proofs.Class
import ContractWrapper.Proofs.Method.Completion
import ContractWrapper.Proofs.Overload.Collision
import ContractWrapper.Proofs.Reordering
import ContractWrapper.Proofs.Stage.Guards

/-! Functions of different names do not touch one another.

What becomes of a function depends on the functions of its own name and on their order alone.
So the order in which an interface lists functions of different names decides nothing but the
order of the methods in the class.
-/

set_option autoImplicit false

namespace ContractWrapper

open Failure (bind_eq_ok_iff exists_mapM_eq_ok_iff eq_map_of_mapM)

/-- Functions that are all of one name, each with its method. -/
def methodsOfOneName (policy : OverloadPolicy) (functions : List FunctionEntry) :
    List (FunctionEntry × Method) :=
  functions.zipIdx.map fun (function, index) =>
    (function, .ofFunction policy index functions.length function)

section Numbering

variable (policy : OverloadPolicy)

-- The index starts at the number of earlier functions of the name, which only these raise.
theorem filter_zip_numberFunctions (names earlier : List String) (name : String)
    (functions : List FunctionEntry) :
    (functions.zip (numberFunctions policy names earlier functions)).filter (·.1.name == name) =
      ((functions.filter (·.name == name)).zipIdx (earlier.count name)).map
        fun (function, index) =>
          (function, Method.ofFunction policy index (names.count name) function) := by
  induction functions generalizing earlier with
  | nil => rfl
  | cons function rest ih =>
    rw [numberFunctions, List.zip_cons_cons]
    by_cases own : function.name = name
    · subst own
      simp [ih]
    · simp [own, ih]

/-- Functions of other names have no part in the methods of a name. -/
theorem filter_zip_methodsOf (functions : List FunctionEntry) (name : String) :
    (functions.zip (methodsOf policy functions)).filter (·.1.name == name) =
      methodsOfOneName policy (functions.filter (·.name == name)) := by
  have count : (functions.map FunctionEntry.name).count name =
      (functions.filter (·.name == name)).length := by
    rw [List.count_eq_countP, List.countP_map, List.countP_eq_length_filter]
    rfl
  rw [methodsOf, filter_zip_numberFunctions, count]
  rfl

theorem length_methodsOf (functions : List FunctionEntry) :
    (methodsOf policy functions).length = functions.length :=
  length_numberFunctions policy _ _ functions

theorem map_snd_zip_methodsOf (functions : List FunctionEntry) :
    (functions.zip (methodsOf policy functions)).map Prod.snd = methodsOf policy functions :=
  List.map_snd_zip (Nat.le_of_eq (length_methodsOf policy functions))

/-- The functions of one name have on their own the methods that they have among all. -/
theorem methodsOf_filter (functions : List FunctionEntry) (name : String) :
    methodsOf policy (functions.filter (·.name == name)) =
      ((functions.zip (methodsOf policy functions)).filter (·.1.name == name)).map Prod.snd := by
  have alone := filter_zip_methodsOf policy (functions.filter (·.name == name)) name
  have all : ∀ pair ∈ (functions.filter (·.name == name)).zip
      (methodsOf policy (functions.filter (·.name == name))), pair.1.name == name := by
    intro pair member
    exact (List.mem_filter.mp (List.of_mem_zip member).1).2
  rw [List.filter_eq_self.mpr all, List.filter_filter] at alone
  simp only [Bool.and_self] at alone
  rw [filter_zip_methodsOf, ← alone, map_snd_zip_methodsOf]

theorem methodsOf_filter_sublist (functions : List FunctionEntry) (name : String) :
    (methodsOf policy (functions.filter (·.name == name))).Sublist
      (methodsOf policy functions) := by
  have sublist : ((functions.zip (methodsOf policy functions)).filter (·.1.name == name)).Sublist
      (functions.zip (methodsOf policy functions)) := List.filter_sublist
  rw [methodsOf_filter]
  simpa only [map_snd_zip_methodsOf] using sublist.map Prod.snd

end Numbering

/-- What is left of a method when it is assembled, itself where that fails. -/
def Method.assembled (settings : Settings) (composer : BodyComposer) (method : Method) : Method :=
  match method.assemble settings composer with
  | .ok built => built
  | .error _ => method

section Building

variable {settings : Settings} {composer : BodyComposer} {functions : List FunctionEntry}
  {built : List Method}

theorem declared_of_assemble {method result : Method}
    (assembled : method.assemble settings composer = .ok result) : result.declaration.isSome := by
  rw [Method.assemble, stagesOf, List.foldlM_append] at assembled
  -- The declaration is made in the last stage, whether or not a comment is asked for.
  obtain ⟨prepared, -, last⟩ := bind_eq_ok_iff.mp assembled
  rw [List.foldlM_cons] at last
  obtain ⟨declared, reached, same⟩ := bind_eq_ok_iff.mp last
  cases same
  exact Method.isSome_written?_of_advance reached

theorem buildMethods_eq_ok
    (succeeded : (buildMethods settings composer functions).result = .ok built) :
    built = (methodsOf settings.overloadPolicy functions).map
      (Method.assembled settings composer) := by
  rw [result_buildMethods] at succeeded
  obtain ⟨methods, grouped, assembled⟩ := bind_eq_ok_iff.mp succeeded
  obtain ⟨-, -, rfl⟩ := group_eq_ok_iff.mp grouped
  refine eq_map_of_mapM (fun method result reached => ?_) assembled
  rw [Method.assembled, reached]

theorem declared_of_buildMethods
    (succeeded : (buildMethods settings composer functions).result = .ok built) :
    ∀ method ∈ built, method.declaration.isSome := by
  rw [result_buildMethods] at succeeded
  obtain ⟨methods, -, assembled⟩ := bind_eq_ok_iff.mp succeeded
  intro method member
  obtain ⟨start, -, reached⟩ := Failure.exists_of_mem_mapM assembled member
  exact declared_of_assemble reached

-- The methods of a name are decided by the functions of this name and their order.
theorem filter_zip_buildMethods
    (succeeded : (buildMethods settings composer functions).result = .ok built) (name : String) :
    (functions.zip built).filter (·.1.name == name) =
      (methodsOfOneName settings.overloadPolicy (functions.filter (·.name == name))).map
        fun (function, method) => (function, method.assembled settings composer) := by
  rw [buildMethods_eq_ok succeeded, List.zip_map_right, List.filter_map,
    ← filter_zip_methodsOf]
  rfl

/-- Building succeeds exactly when the policy admits the functions and the composer never
fails. -/
theorem exists_buildMethods_iff :
    (∃ built, (buildMethods settings composer functions).result = .ok built) ↔
      (∃ methods, (group settings.overloadPolicy functions).result = .ok methods) ∧
        ∀ method ∈ methodsOf settings.overloadPolicy functions,
          ∃ result, method.assemble settings composer = .ok result := by
  rw [result_buildMethods, ← exists_mapM_eq_ok_iff]
  constructor
  · rintro ⟨built, succeeded⟩
    obtain ⟨methods, grouped, assembled⟩ := bind_eq_ok_iff.mp succeeded
    obtain ⟨-, -, rfl⟩ := group_eq_ok_iff.mp grouped
    exact ⟨⟨_, grouped⟩, built, assembled⟩
  · rintro ⟨⟨methods, grouped⟩, built, assembled⟩
    obtain ⟨-, -, rfl⟩ := group_eq_ok_iff.mp grouped
    exact ⟨built, bind_eq_ok_iff.mpr ⟨_, grouped, assembled⟩⟩

theorem length_of_buildMethods
    (succeeded : (buildMethods settings composer functions).result = .ok built) :
    built.length = functions.length := by
  rw [buildMethods_eq_ok succeeded, List.length_map, length_methodsOf]

theorem result_buildClass (className : String) :
    (buildClass settings composer className functions).result =
      (buildMethods settings composer functions).result >>= composeClass settings className := by
  simp only [buildClass, Traced.result_bind, Traced.result_of, Traced.result_emit, Traced.pure_eq]
  congr 1
  funext methods
  cases composeClass settings className methods <;> rfl

theorem buildClass_of_buildMethods (className : String)
    (succeeded : (buildMethods settings composer functions).result = .ok built) :
    (buildClass settings composer className functions).result =
      .ok (classHeader settings className ++ String.join (built.map Method.block) ++
        classFooter settings className) := by
  rw [result_buildClass, succeeded]
  exact composeClass_of_declared (declared_of_buildMethods succeeded)

/-- The functions of one name build on their own to the methods that they have among all. -/
theorem buildMethods_filter
    (succeeded : (buildMethods settings composer functions).result = .ok built) (name : String) :
    (buildMethods settings composer (functions.filter (·.name == name))).result =
      .ok (((functions.zip built).filter (·.1.name == name)).map Prod.snd) := by
  have sublist := methodsOf_filter_sublist settings.overloadPolicy functions name
  obtain ⟨admitted, assembled⟩ := exists_buildMethods_iff.mp ⟨built, succeeded⟩
  obtain ⟨unrepeated, distinct⟩ := exists_group_eq_ok_iff.mp admitted
  have alone : ∃ methods, (buildMethods settings composer
      (functions.filter (·.name == name))).result = .ok methods := by
    refine exists_buildMethods_iff.mpr ⟨exists_group_eq_ok_iff.mpr ⟨?_, ?_⟩, ?_⟩
    · intro reject
      exact (unrepeated reject).sublist (List.filter_sublist.map FunctionEntry.name)
    · intro mangle
      exact (distinct mangle).sublist (sublist.map Method.methodName)
    · intro method member
      exact assembled method (sublist.subset member)
  obtain ⟨methods, reached⟩ := alone
  rw [reached, buildMethods_eq_ok reached, buildMethods_eq_ok succeeded, methodsOf_filter,
    List.zip_map_right, List.filter_map, List.map_map, List.map_map]
  rfl

end Building

section Reordering

variable {settings : Settings} {composer : BodyComposer} {first second : List FunctionEntry}

theorem Reordered.zip_methodsOf (policy : OverloadPolicy)
    (reordered : Reordered FunctionEntry.name first second) :
    Reordered (·.1.name) (first.zip (methodsOf policy first))
      (second.zip (methodsOf policy second)) :=
  .of_order fun name => by
    rw [filter_zip_methodsOf, filter_zip_methodsOf, reordered.order]

theorem Reordered.perm_methodsOf (policy : OverloadPolicy)
    (reordered : Reordered FunctionEntry.name first second) :
    (methodsOf policy first).Perm (methodsOf policy second) := by
  rw [← map_snd_zip_methodsOf policy first, ← map_snd_zip_methodsOf policy second]
  exact (reordered.zip_methodsOf policy).perm.map Prod.snd

-- Names are searched in order, yet whether two of them are the same does not depend on it.
theorem Reordered.exists_group_iff (policy : OverloadPolicy)
    (reordered : Reordered FunctionEntry.name first second) :
    (∃ methods, (group policy first).result = .ok methods) ↔
      ∃ methods, (group policy second).result = .ok methods := by
  have names := (reordered.perm.map FunctionEntry.name).nodup_iff
  have emitted := ((reordered.perm_methodsOf policy).map Method.methodName).nodup_iff
  rw [exists_group_eq_ok_iff, exists_group_eq_ok_iff, names, emitted]

theorem Reordered.exists_buildMethods_iff
    (reordered : Reordered FunctionEntry.name first second) :
    (∃ built, (buildMethods settings composer first).result = .ok built) ↔
      ∃ built, (buildMethods settings composer second).result = .ok built := by
  have members (method : Method) : method ∈ methodsOf settings.overloadPolicy first ↔
      method ∈ methodsOf settings.overloadPolicy second :=
    (reordered.perm_methodsOf settings.overloadPolicy).mem_iff
  simp only [ContractWrapper.exists_buildMethods_iff, members,
    reordered.exists_group_iff settings.overloadPolicy]

/-- Functions of different names may change places: building succeeds as before, each function
has the method that it had, and the class has the same blocks in the new order. The functions of
one name build to these methods without the others. -/
theorem buildMethods_reordered (className : String)
    (reordered : Reordered FunctionEntry.name first second) :
    ((∃ built, (buildMethods settings composer first).result = .ok built) ↔
      ∃ built, (buildMethods settings composer second).result = .ok built) ∧
    ∀ left right, (buildMethods settings composer first).result = .ok left →
      (buildMethods settings composer second).result = .ok right →
      left.length = first.length ∧ right.length = second.length ∧
      Reordered (·.1.name) (first.zip left) (second.zip right) ∧
      (∀ name, (buildMethods settings composer (first.filter (·.name == name))).result =
        .ok (((first.zip left).filter (·.1.name == name)).map Prod.snd)) ∧
      (left.map Method.block).Perm (right.map Method.block) ∧
      (buildClass settings composer className first).result =
        .ok (classHeader settings className ++ String.join (left.map Method.block) ++
          classFooter settings className) ∧
      (buildClass settings composer className second).result =
        .ok (classHeader settings className ++ String.join (right.map Method.block) ++
          classFooter settings className) := by
  refine ⟨reordered.exists_buildMethods_iff, ?_⟩
  intro left right builtLeft builtRight
  have leftLength := length_of_buildMethods builtLeft
  have rightLength := length_of_buildMethods builtRight
  have together : Reordered (·.1.name) (first.zip left) (second.zip right) :=
    .of_order fun name => by
      rw [filter_zip_buildMethods builtLeft, filter_zip_buildMethods builtRight, reordered.order]
  refine ⟨leftLength, rightLength, together, buildMethods_filter builtLeft, ?_,
    buildClass_of_buildMethods className builtLeft, buildClass_of_buildMethods className builtRight⟩
  have methods := together.perm.map Prod.snd
  rw [List.map_snd_zip (Nat.le_of_eq leftLength), List.map_snd_zip (Nat.le_of_eq rightLength)]
    at methods
  exact methods.map Method.block

/-- A read-only function without inputs. -/
def supplyEntry : FunctionEntry where
  name := "totalSupply"
  inputs := []
  outputs := [⟨"", "uint256", none⟩]
  mutability := "view"
  constant := true
  signature := "totalSupply()"
  selector := "0x18160ddd"

/-- Two functions of one name keep their methods when another is moved from between them. -/
theorem blocks_kept_around_supply :
    ∃ left right, (buildMethods {} callBody [balanceEntry, supplyEntry, balanceEntry]).result =
        .ok left ∧
      (buildMethods {} callBody [supplyEntry, balanceEntry, balanceEntry]).result = .ok right ∧
      left.map Method.methodName = ["balanceOf", "totalSupply", "balanceOf_1"] ∧
      (left.map Method.block).Perm (right.map Method.block) := by
  have reordered : Reordered FunctionEntry.name [balanceEntry, supplyEntry, balanceEntry]
      [supplyEntry, balanceEntry, balanceEntry] := by
    refine .of_order fun name => ?_
    by_cases own : supplyEntry.name = name
    · subst own
      rfl
    · simp [List.filter_cons, own]
  have grouped : (group .mangle [balanceEntry, supplyEntry, balanceEntry]).result =
      .ok (methodsOf .mangle [balanceEntry, supplyEntry, balanceEntry]) := by rfl
  have builtLeft := @buildMethods_of_group {} _ _ grouped
  obtain ⟨succeeds, same⟩ := @buildMethods_reordered {} callBody _ _ "Token" reordered
  obtain ⟨right, builtRight⟩ := succeeds.mp ⟨_, builtLeft⟩
  obtain ⟨-, -, -, -, blocks, -⟩ := same _ right builtLeft builtRight
  exact ⟨_, right, builtLeft, builtRight, rfl, blocks⟩

end Reordering

end ContractWrapper
