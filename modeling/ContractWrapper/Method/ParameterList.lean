import ContractWrapper.Method
import ContractWrapper.Method.Placeholder
import ContractWrapper.Method.TypeTag

/-! The parameter list of a method.

Every input gets a name, its own or a placeholder, and the type shown for it. The annotated
dialect writes both, the other one writes names alone.
-/

set_option autoImplicit false

namespace ContractWrapper

/-- Whether the dialect writes types into declarations. -/
def Dialect.isAnnotated : Dialect → Bool
  | .javaScript => false
  | .typeScript => true

def Argument.entry (dialect : Dialect) (argument : Argument) : String :=
  match argument.shown with
  | some shown => if dialect.isAnnotated then argument.name ++ ": " ++ shown else argument.name
  | none => argument.name

/-- Parentheses, with a blank on both sides unless they are empty. -/
def parameterList (entries : List String) : String :=
  if entries.isEmpty then "()" else " (" ++ ", ".intercalate entries ++ ") "

/-- The arguments under the names that the supply allocates to them. -/
def nameArguments (supply : PlaceholderSupply) (arguments : List Argument) : List Argument :=
  arguments.zipWith (fun argument name => { argument with name })
    (supply.allocateAll (arguments.map Argument.name))

def buildInputs (dialect : Dialect) (stem : String) (arguments : List Argument) : Slot :=
  let supply := PlaceholderSupply.fresh stem (arguments.map Argument.name)
  let named := (nameArguments supply arguments).map fun argument =>
    { argument with shown := some (dialect.types.infer .inputs argument.tag) }
  ⟨named, some (parameterList (named.map (Argument.entry dialect)))⟩

end ContractWrapper
