import ContractWrapper.Method.Comment
import ContractWrapper.Method.ParameterList

/-! The class around the methods: imports, fields, constructor and export. -/

set_option autoImplicit false

namespace ContractWrapper

open Text (Line blankLine renderLines)

def importedNames (framework : Framework) (dialect : Dialect) : List String :=
  match framework, dialect with
  | .truffle, _ => []
  | .ethers, .javaScript => ["ethers"]
  | .ethers, .typeScript => ["ethers", "BigNumber", "BigNumberish"]

-- A wrapper that is handed its contract instance imports nothing.
def importLines (framework : Framework) (dialect : Dialect) : List Line :=
  let names := ", ".intercalate (importedNames framework dialect)
  match framework, dialect with
  | .truffle, _ => []
  | .ethers, .javaScript => [⟨0, "const " ++ names ++ " = require(\"ethers\");"⟩, blankLine]
  | .ethers, .typeScript =>
    [⟨0, "import \x7b " ++ names ++ " \x7d from \"ethers\";"⟩, blankLine]

def fieldNames : List String := ["contract", "contractAddress"]

def fieldType (framework : Framework) (field : String) : String :=
  if field == "contractAddress" then "string"
  else
    match framework with
    | .ethers => "ethers.Contract"
    | .truffle => "any"

def fieldLines (framework : Framework) (dialect : Dialect) : List Line :=
  fieldNames.map fun field =>
    ⟨1, if dialect.isAnnotated then field ++ ": " ++ fieldType framework field ++ ";"
      else field ++ ";"⟩

/-- A parameter of the constructor: how it is declared in each dialect, and what its comment
says in each. -/
structure ConstructorParameter where
  name : String
  plain : String
  annotated : String
  shown : String
  description : String

def addressParameter : ConstructorParameter where
  name := "contractAddress"
  plain := "contractAddress"
  annotated := "contractAddress: string"
  shown := "string"
  description := "deployed contract address"

def interfaceParameter : ConstructorParameter where
  name := "abi"
  plain := "abi"
  annotated := "abi: any"
  shown := "any"
  description := "contract interface description"

def signerParameter : ConstructorParameter where
  name := "signerOrProvider"
  plain := "signerOrProvider = undefined"
  annotated := "signerOrProvider?: ethers.Signer | ethers.providers.Provider"
  shown := "ethers.Signer | ethers.providers.Provider | undefined"
  description := "optional signer or provider used for calls"

def instanceParameter : ConstructorParameter where
  name := "contract"
  plain := "contract"
  annotated := "contract: any"
  shown := "any"
  description := "deployed contract instance"

def constructorParameters : Framework → List ConstructorParameter
  | .ethers => [addressParameter, interfaceParameter, signerParameter]
  | .truffle => [addressParameter, instanceParameter]

def instanceExpression : Framework → String
  | .ethers => "new ethers.Contract(contractAddress, abi, signerOrProvider)"
  | .truffle => "contract"

def constructorCommentLines (framework : Framework) (dialect : Dialect) : List Line :=
  commentBlock ((constructorParameters framework).map fun parameter =>
    parameterLine dialect parameter.name parameter.shown parameter.description)

def constructorLines (framework : Framework) (dialect : Dialect) : List Line :=
  let parameters := (constructorParameters framework).map fun parameter =>
    if dialect.isAnnotated then parameter.annotated else parameter.plain
  [⟨1, "constructor(" ++ ", ".intercalate parameters ++ ") \x7b"⟩,
    ⟨2, "this.contract = " ++ instanceExpression framework ++ ";"⟩,
    ⟨2, "this.contractAddress = contractAddress;"⟩,
    ⟨1, "\x7d"⟩,
    blankLine]

def exportText (dialect : Dialect) (className : String) : String :=
  match dialect with
  | .javaScript => "module.exports = \x7b " ++ className ++ " \x7d;"
  | .typeScript => "export \x7b " ++ className ++ " \x7d;"

/-- The lines before the constructor and its comment. -/
def openingLines (settings : Settings) (className : String) : List Line :=
  importLines settings.framework settings.dialect ++
    ⟨0, "class " ++ className ++ " \x7b"⟩ ::
      fieldLines settings.framework settings.dialect ++ [blankLine]

def headerLines (settings : Settings) (className : String) : List Line :=
  openingLines settings className ++
    (if settings.emitDocs then constructorCommentLines settings.framework settings.dialect
      else []) ++
    constructorLines settings.framework settings.dialect

def footerLines (settings : Settings) (className : String) : List Line :=
  [⟨0, "\x7d"⟩, blankLine, ⟨0, exportText settings.dialect className⟩]

def constructorComment (settings : Settings) : String :=
  renderLines settings.indent (constructorCommentLines settings.framework settings.dialect)

/-- A method as it stands in the class, behind its comment if it has one. -/
def Method.classText (method : Method) : Except GenerationError String :=
  match method.declaration with
  | some declaration => .ok (method.comment.getD "" ++ declaration)
  | none => .error (.precondition (.classBeforeDeclaration method.methodName))

def composeClass (settings : Settings) (className : String) (methods : List Method) :
    Except GenerationError String := do
  let texts ← methods.mapM Method.classText
  return renderLines settings.indent (headerLines settings className) ++ String.join texts ++
    renderLines settings.indent (footerLines settings className)

end ContractWrapper
