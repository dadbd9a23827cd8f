import ContractWrapper.Method.Overload
import ContractWrapper.Proofs.Failure

/-! The numbers of functions that share a name.

A method carries the number of earlier functions of its name. Within one name these numbers
rise from zero without a gap, and the functions of other names have no part in them.
-/

set_option autoImplicit false

namespace ContractWrapper

open Failure (bind_eq_ok_iff)

/-- The methods of functions, before it is checked whether their names may stand together. -/
def methodsOf (policy : OverloadPolicy) (functions : List FunctionEntry) : List Method :=
  numberFunctions policy (functions.map FunctionEntry.name) [] functions

/-- Each name with the number of times that it stands before, in the list or in `earlier`. -/
def rankNames (earlier : List String) : List String → List (String × Nat)
  | [] => []
  | name :: rest => (name, earlier.count name) :: rankNames (name :: earlier) rest

section Ranks

variable (earlier names : List String)

theorem mem_rankNames {name : String} {rank : Nat} :
    (name, rank) ∈ rankNames earlier names ↔
      earlier.count name ≤ rank ∧ rank < earlier.count name + names.count name := by
  induction names generalizing earlier with
  | nil =>
    simp only [rankNames, List.not_mem_nil, List.count_nil, false_iff]
    omega
  | cons first rest ih =>
    simp only [rankNames, List.mem_cons, Prod.mk.injEq, ih, List.count_cons]
    by_cases same : first = name
    · subst first
      simp only [true_and, beq_self_eq_true, if_true]
      omega
    · simp [same, Ne.symm same]

-- A name that comes again is counted by the list of earlier names, so its number is larger.
theorem nodup_rankNames : (rankNames earlier names).Nodup := by
  induction names generalizing earlier with
  | nil => exact List.nodup_nil
  | cons first rest ih =>
    refine List.nodup_cons.mpr ⟨?_, ih (first :: earlier)⟩
    intro again
    have later := ((mem_rankNames (first :: earlier) rest).mp again).1
    rw [List.count_cons_self] at later
    omega

end Ranks

section Numbered

variable (policy : OverloadPolicy) (names earlier : List String)

theorem methodNames_numberFunctions (functions : List FunctionEntry) :
    (numberFunctions policy names earlier functions).map Method.methodName =
      (rankNames earlier (functions.map FunctionEntry.name)).map fun (name, rank) =>
        policy.methodName name rank := by
  induction functions generalizing earlier with
  | nil => rfl
  | cons function rest ih =>
    simp only [numberFunctions, rankNames, List.map_cons, ih]
    rfl

theorem mem_numberFunctions {functions : List FunctionEntry} {method : Method}
    (member : method ∈ numberFunctions policy names earlier functions) :
    ∃ function ∈ functions, ∃ index count,
      method = Method.ofFunction policy index count function := by
  induction functions generalizing earlier with
  | nil => cases member
  | cons first rest ih =>
    rcases List.mem_cons.mp member with same | later
    · exact ⟨first, List.mem_cons_self, _, _, same⟩
    · obtain ⟨function, present, found⟩ := ih (first.name :: earlier) later
      exact ⟨function, List.mem_cons_of_mem first present, found⟩

/-- Each function becomes a method at its own place, numbered by those of its name before it. -/
theorem getElem?_numberFunctions (functions : List FunctionEntry) (position : Nat) :
    (numberFunctions policy names earlier functions)[position]? =
      functions[position]?.map fun function =>
        Method.ofFunction policy
          (earlier.count function.name +
            ((functions.take position).map FunctionEntry.name).count function.name)
          (names.count function.name) function := by
  induction functions generalizing earlier position with
  | nil => rfl
  | cons first rest ih =>
    cases position with
    | zero => simp [numberFunctions]
    | succ position =>
      rw [numberFunctions, List.getElem?_cons_succ, List.getElem?_cons_succ, ih]
      refine Option.map_congr fun function _ => ?_
      rw [List.take_succ_cons, List.map_cons, List.count_cons, List.count_cons, Nat.add_assoc,
        Nat.add_comm _ (List.count _ _)]

end Numbered

section Grouped

variable {policy : OverloadPolicy} {functions : List FunctionEntry} {methods : List Method}

theorem getElem?_methodsOf (functions : List FunctionEntry) (position : Nat) :
    (methodsOf policy functions)[position]? = functions[position]?.map fun function =>
      Method.ofFunction policy
        (((functions.take position).map FunctionEntry.name).count function.name)
        ((functions.map FunctionEntry.name).count function.name) function := by
  rw [methodsOf, getElem?_numberFunctions]
  simp

theorem result_group :
    (group policy functions).result = (do
      checkRepeated policy functions
      checkCollision policy (methodsOf policy functions)
      return methodsOf policy functions) := by
  simp only [group, Traced.result_bind, Traced.result_of, Traced.result_emitAll, Traced.pure_eq]
  rfl

theorem group_eq_ok_iff :
    (group policy functions).result = .ok methods ↔
      checkRepeated policy functions = .ok () ∧
        checkCollision policy (methodsOf policy functions) = .ok () ∧
        methods = methodsOf policy functions := by
  rw [result_group]
  constructor
  · intro grouped
    obtain ⟨⟨⟩, unrepeated, rest⟩ := bind_eq_ok_iff.mp grouped
    obtain ⟨⟨⟩, distinct, same⟩ := bind_eq_ok_iff.mp rest
    exact ⟨unrepeated, distinct, (Except.ok.inj same).symm⟩
  · rintro ⟨unrepeated, distinct, rfl⟩
    rw [unrepeated, distinct]
    rfl

/-- Grouping adds names and numbers to functions; no literal is built yet. -/
theorem unbuilt_of_group (grouped : (group policy functions).result = .ok methods)
    {method : Method} (member : method ∈ methods) :
    method.inputs.literal = none ∧ method.outputs.literal = none ∧ method.body = none ∧
      method.comment = none ∧ method.declaration = none := by
  obtain ⟨-, -, rfl⟩ := group_eq_ok_iff.mp grouped
  obtain ⟨function, -, index, count, rfl⟩ := mem_numberFunctions _ _ _ member
  exact ⟨rfl, rfl, rfl, rfl, rfl⟩

end Grouped

end ContractWrapper
