import ContractWrapper.Identifier
import ContractWrapper.Text.Casing

/-! Class names made from the names of contracts and files. -/

set_option autoImplicit false

namespace ContractWrapper

/-- The class name when no name leads to one. -/
def defaultClassName : String := "Contract"

/-- Letters and digits stay; anything else separates words. -/
def separateWords (text : List Char) : List Char :=
  text.map fun c => if c.isAlphanum then c else ' '

/-- A name in Pascal case, behind an underscore when it starts with a digit. -/
def deriveClassName (raw : String) : String :=
  let name := String.ofList (Text.pascalCase (separateWords raw.toList))
  if isIdentifier name then name
  else if isIdentifier ("_" ++ name) && name != "" then "_" ++ name
  else defaultClassName

end ContractWrapper
