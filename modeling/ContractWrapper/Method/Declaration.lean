import ContractWrapper.Error
import ContractWrapper.Method.ParameterList
import ContractWrapper.Method.ReturnType
import ContractWrapper.Text.Layout

/-! Method declarations: keywords, name, parameter list, return type and body. -/

set_option autoImplicit false

namespace ContractWrapper

/-- The words in front of a method name. -/
def Dialect.methodKeywords : Dialect → String
  | .javaScript => "async"
  | .typeScript => "public async"

/-- What stands between the parameter list and the opening brace. -/
def declarationMiddle (dialect : Dialect) (inputs outputs : String) : String :=
  if dialect.isAnnotated then ": " ++ returnTypeOf dialect outputs ++ " "
  else if inputs.toList.getLast? == some ' ' then ""
  else " "

def declarationText (settings : Settings) (methodName inputs outputs body : String) : String :=
  let indent := Text.indentation settings.indent 1
  indent ++ settings.dialect.methodKeywords ++ " " ++ methodName ++ inputs ++
    declarationMiddle settings.dialect inputs outputs ++ "\x7b" ++ body ++
    "\n" ++ indent ++ "\x7d\n\n"

/-- The declaration of a method whose literals have all been built. -/
def composeDeclaration (settings : Settings) (method : Method) :
    Except GenerationError String :=
  let missing (literal : Literal) : Except GenerationError String :=
    .error (.precondition (.declarationBefore literal method.methodName))
  match method.inputs.literal, method.outputs.literal, method.body with
  | none, _, _ => missing .input
  | some _, none, _ => missing .output
  | some _, some _, none => missing .body
  | some inputs, some outputs, some body =>
    .ok (declarationText settings method.methodName inputs outputs body)

end ContractWrapper
