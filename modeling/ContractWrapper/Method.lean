import ContractWrapper.Interface.Function

/-! Methods of a wrapper while they are put together.

Each method starts as a function entry with a name to be emitted under. The literals are
filled in one after another; an absent literal has not been built yet.
-/

set_option autoImplicit false

namespace ContractWrapper

/-- A parameter as the generated text shows it. -/
structure Argument where
  /-- The declared name, or the one allocated for it. -/
  name : String
  tag : String
  /-- The type in the output language, once it is known. -/
  shown : Option String
  deriving DecidableEq, Repr

/-- One side of a method: its parameters and the text they become. -/
structure Slot where
  arguments : List Argument
  literal : Option String
  deriving DecidableEq, Repr

structure Method where
  /-- The name in the interface. -/
  name : String
  /-- The name that the method is emitted under. -/
  methodName : String
  constant : Bool
  mutability : String
  signature : String
  selector : String
  /-- The number of earlier functions of the same name. -/
  overloadIndex : Nat
  /-- The number of functions of the same name. -/
  overloadCount : Nat
  inputs : Slot
  outputs : Slot
  body : Option String
  comment : Option String
  declaration : Option String
  deriving DecidableEq, Repr

def Argument.ofParameter (parameter : Parameter) : Argument :=
  ⟨parameter.name, parameter.tag, none⟩

def Slot.ofParameters (parameters : List Parameter) : Slot :=
  ⟨parameters.map Argument.ofParameter, none⟩

def Method.isOverloaded (method : Method) : Bool :=
  1 < method.overloadCount

end ContractWrapper
