import ContractWrapper.Method.Overload

/-! A listing of the methods that a wrapper would have. -/

set_option autoImplicit false

namespace ContractWrapper

/-- The width of the first column: that of the longest method name, counted in bytes. -/
def nameWidth (methods : List Method) : Nat :=
  (methods.map fun method => method.methodName.utf8ByteSize).foldl max 0

/-- Fill up with blanks to a number of characters. -/
def padded (width : Nat) (text : String) : String :=
  text ++ String.ofList (List.replicate (width - text.length) ' ')

def inspectLine (width : Nat) (method : Method) : String :=
  padded width method.methodName ++ "  " ++ method.selector ++ "  " ++ method.signature ++
    "  " ++ (if method.constant then "constant" else "mutating") ++ "\n"

/-- One line for each method, in the order of the interface. -/
def inspectReport (policy : OverloadPolicy) (functions : List FunctionEntry) :
    Traced String := do
  let methods ← group policy functions
  return String.join (methods.map (inspectLine (nameWidth methods)))

end ContractWrapper
