import ContractWrapper.Class
import ContractWrapper.Method.Overload
import ContractWrapper.Method.Stage

/-! From the functions of an interface to the text of a wrapper class. -/

set_option autoImplicit false

namespace ContractWrapper

/-- Assemble a method and report it. -/
def assembleMethod (settings : Settings) (composer : BodyComposer) (method : Method) :
    Traced Method := do
  let assembled ← Traced.of (method.assemble settings composer)
  Traced.emit (.methodAssembled assembled.methodName assembled.inputs.arguments.length
    assembled.outputs.arguments.length assembled.constant)
  return assembled

/-- The complete methods of an interface. -/
def buildMethods (settings : Settings) (composer : BodyComposer)
    (functions : List FunctionEntry) : Traced (List Method) := do
  let methods ← group settings.overloadPolicy functions
  methods.mapM (assembleMethod settings composer)

/-- The complete text of a class. -/
def buildClass (settings : Settings) (composer : BodyComposer) (className : String)
    (functions : List FunctionEntry) : Traced String := do
  let methods ← buildMethods settings composer functions
  let source ← Traced.of (composeClass settings className methods)
  Traced.emit (.wrapperGenerated className settings.dialect settings.framework methods.length)
  return source

/-- Settings are checked before anything is built from them. -/
def checkSettings (settings : Settings) : Traced Unit :=
  Traced.of (settings.validate.mapError .settings)

end ContractWrapper
