import ContractWrapper.Error
import ContractWrapper.Method
import ContractWrapper.Text.Layout

/-! The body of a method: a call of the contract instance with the same arguments.

An overloaded function is reached through its signature, because its name alone does not say
which one is meant.
-/

set_option autoImplicit false

namespace ContractWrapper

/-- A rule that writes the body of a method. -/
abbrev BodyComposer := Settings → Method → Except GenerationError String

/-- The function of the contract instance that a method stands for. -/
def callee (framework : Framework) (method : Method) : String :=
  if method.isOverloaded then
    match framework with
    | .ethers => "this.contract[\"" ++ method.signature ++ "\"]"
    | .truffle => "this.contract.methods[\"" ++ method.signature ++ "\"]"
  else "this.contract." ++ method.name

/-- A truffle function sends a transaction unless it is asked to call. -/
def callTarget (framework : Framework) (method : Method) : String :=
  match framework, method.constant with
  | .truffle, true => callee framework method ++ ".call"
  | _, _ => callee framework method

def callStatement (framework : Framework) (method : Method) : String :=
  "return " ++ callTarget framework method ++
    "(" ++ ", ".intercalate (method.inputs.arguments.map Argument.name) ++ ");"

/-- Forward the arguments to the contract instance. -/
def callBody : BodyComposer := fun settings method =>
  if method.inputs.literal.isNone then
    .error (.precondition (.bodyBeforeInputs method.methodName))
  else
    .ok ("\n" ++ Text.indentation settings.indent 2 ++ callStatement settings.framework method)

end ContractWrapper
