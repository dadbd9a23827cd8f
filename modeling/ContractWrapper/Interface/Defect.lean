/-! What can be wrong with an entry of an interface description. -/

set_option autoImplicit false

namespace ContractWrapper

/-- The two parameter lists of a function. -/
inductive Side where
  | inputs
  | outputs
  deriving DecidableEq, Repr

def Side.name : Side → String
  | .inputs => "inputs"
  | .outputs => "outputs"

inductive ParameterDefect where
  | notObject
  | nameNotString
  | noType
  deriving DecidableEq, Repr

/-- A defect is found in a list of parameters at the position that the innermost list gives
it, be that the list of a function or of the components of a tuple. -/
inductive EntryDefect where
  | notObject
  | typeNotString
  | noName
  | nameNotString
  | nameEmpty
  | noList (side : Side)
  | listNotArray (side : Side)
  | parameter (side : Side) (position : Nat) (defect : ParameterDefect)
  | mutabilityNotString
  | stated (reason : String)
  deriving DecidableEq, Repr

/-- A parameter as messages refer to it. -/
def parameterReference (side : Side) (position : Nat) : String :=
  side.name ++ "[" ++ toString position ++ "]"

def EntryDefect.message : EntryDefect → String
  | .notObject => "entry is not an object"
  | .typeNotString => "`type` is not a string"
  | .noName => "function has no `name`"
  | .nameNotString => "function `name` is not a string"
  | .nameEmpty => "function name is empty"
  | .noList side => "function has no `" ++ side.name ++ "`"
  | .listNotArray side => "`" ++ side.name ++ "` is not an array"
  | .parameter side position .notObject => parameterReference side position ++ " is not an object"
  | .parameter side position .nameNotString =>
    parameterReference side position ++ ".name is not a string"
  | .parameter side position .noType =>
    parameterReference side position ++ " has no string `type`"
  | .mutabilityNotString => "`stateMutability` is not a string"
  | .stated reason => reason

end ContractWrapper
