import ContractWrapper.Assembly
import ContractWrapper.ClassName
import ContractWrapper.Interface.Reading

/-! Wrappers generated from the text of an interface description. -/

set_option autoImplicit false

namespace ContractWrapper

structure Wrapper where
  className : String
  /-- `js` or `ts`. -/
  extension : String
  methods : Nat
  source : String
  deriving DecidableEq, Repr

/-- The name of the file that the wrapper is written to unless another one is asked for. -/
def Wrapper.fileName (wrapper : Wrapper) : String :=
  wrapper.className ++ "." ++ wrapper.extension

/-- The configured name counts first, then the name of the contract, then that of the file. -/
def classNameFor (settings : Settings) (contractName fileStem : Option String) : String :=
  match settings.className with
  | some name => name
  | none => ((contractName.or fileStem).map deriveClassName).getD defaultClassName

def Wrapper.ofInterface (settings : Settings) (fileStem : Option String)
    (description : Interface) : Traced Wrapper := do
  checkSettings settings
  let className := classNameFor settings description.contractName fileStem
  let source ← buildClass settings callBody className description.functions
  return {
    className
    extension := settings.dialect.fileExtension
    methods := description.functions.length
    source }

/-- Generate a wrapper from a description that was read from a file, if `fileStem` is given. -/
def Wrapper.generate (settings : Settings) (fileStem : Option String) (text : String) :
    Traced Wrapper := do
  let description ← Interface.ofText text
  ofInterface settings fileStem description

end ContractWrapper
