import ContractWrapper.Method
import ContractWrapper.Trace

/-! Functions that share a name.

Every function becomes one method, in the order of the interface. The overload policy
decides under which names methods are emitted, and whether shared names are admitted at all.
-/

set_option autoImplicit false

namespace ContractWrapper

namespace OverloadPolicy

/-- The name of a method that has `index` earlier functions of its name before it. -/
def methodName (policy : OverloadPolicy) (name : String) (index : Nat) : String :=
  match policy, index with
  | mangle, index + 1 => name ++ "_" ++ toString (index + 1)
  | _, _ => name

end OverloadPolicy

namespace Method

def ofFunction (policy : OverloadPolicy) (index count : Nat) (function : FunctionEntry) :
    Method where
  name := function.name
  methodName := policy.methodName function.name index
  constant := function.constant
  mutability := function.mutability
  signature := function.signature
  selector := function.selector
  overloadIndex := index
  overloadCount := count
  inputs := Slot.ofParameters function.inputs
  outputs := Slot.ofParameters function.outputs
  body := none
  comment := none
  declaration := none

end Method

/-- The methods of the functions after `earlier`, where `names` are the names of all. -/
def numberFunctions (policy : OverloadPolicy) (names : List String) (earlier : List String) :
    List FunctionEntry → List Method
  | [] => []
  | function :: rest =>
    Method.ofFunction policy (earlier.count function.name) (names.count function.name) function ::
      numberFunctions policy names (function.name :: earlier) rest

/-- The first function whose name another function has too. -/
def firstRepeated? (functions : List FunctionEntry) : Option FunctionEntry :=
  let names := functions.map FunctionEntry.name
  functions.find? fun function => 1 < names.count function.name

/-- The first method whose name an earlier method has, where `taken` are names from before. -/
def firstCollision? (taken : List String) : List Method → Option Method
  | [] => none
  | method :: rest =>
    if taken.contains method.methodName then some method
    else firstCollision? (method.methodName :: taken) rest

def overloadEvents (policy : OverloadPolicy) (methods : List Method) : List Event :=
  (methods.filter fun method => method.isOverloaded && method.overloadIndex == 0).map fun method =>
    .overloadedName method.name method.overloadCount policy

def checkRepeated (policy : OverloadPolicy) (functions : List FunctionEntry) :
    Except GenerationError Unit :=
  match policy, firstRepeated? functions with
  | .reject, some function =>
    .error (.ambiguousOverload function.name
      ((functions.map FunctionEntry.name).count function.name))
  | _, _ => .ok ()

def checkCollision (policy : OverloadPolicy) (methods : List Method) :
    Except GenerationError Unit :=
  match policy, firstCollision? [] methods with
  | .mangle, some method => .error (.nameCollision method.methodName method.signature)
  | _, _ => .ok ()

def group (policy : OverloadPolicy) (functions : List FunctionEntry) : Traced (List Method) := do
  Traced.of (checkRepeated policy functions)
  let methods := numberFunctions policy (functions.map FunctionEntry.name) [] functions
  Traced.emitAll (overloadEvents policy methods)
  Traced.of (checkCollision policy methods)
  return methods

theorem length_numberFunctions (policy : OverloadPolicy) (names earlier : List String)
    (functions : List FunctionEntry) :
    (numberFunctions policy names earlier functions).length = functions.length := by
  induction functions generalizing earlier with
  | nil => rfl
  | cons function rest ih => simp [numberFunctions, ih]

end ContractWrapper
