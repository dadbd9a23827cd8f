import ContractWrapper.Method
import ContractWrapper.Method.TypeTag

/-! The return type of a method.

A method that changes state resolves to whatever the framework answers to a transaction, so
its type says nothing about the declared outputs.
-/

set_option autoImplicit false

namespace ContractWrapper

/-- The asynchronous type of a read-only call; empty when there is nothing to resolve to. -/
def resolvedType : List String → String
  | [] => ""
  | [single] => TypeTable.promise single
  | several => TypeTable.promise ("[" ++ ", ".intercalate several ++ "]")

def buildOutputs (dialect : Dialect) (constant : Bool) (arguments : List Argument) : Slot :=
  let typed := arguments.map fun argument =>
    { argument with shown := some (dialect.types.infer .outputs argument.tag) }
  ⟨typed, some (if constant then resolvedType (typed.filterMap Argument.shown)
    else dialect.types.fallbackPromise)⟩

theorem literal_buildOutputs (dialect : Dialect) (constant : Bool) (arguments : List Argument) :
    (buildOutputs dialect constant arguments).literal =
      some (if constant then
          resolvedType (arguments.map fun argument => dialect.types.infer .outputs argument.tag)
        else dialect.types.fallbackPromise) := by
  have types : (arguments.map fun argument =>
      { argument with shown := some (dialect.types.infer .outputs argument.tag) }).filterMap
        Argument.shown =
      arguments.map fun argument => dialect.types.infer .outputs argument.tag := by
    rw [List.filterMap_map]
    exact congrFun List.filterMap_eq_map arguments
  rw [buildOutputs, types]

/-- The type that a method is declared with, given its output literal. -/
def returnTypeOf (dialect : Dialect) (literal : String) : String :=
  if literal == "" then dialect.types.fallbackPromise else literal

end ContractWrapper
