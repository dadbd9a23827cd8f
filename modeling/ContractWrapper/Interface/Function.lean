import ContractWrapper.Hash.Keccak
import ContractWrapper.Interface.Parameter
import ContractWrapper.Text.Hexadecimal

/-! Functions of a contract, with the signature and selector they are called by. -/

set_option autoImplicit false

namespace ContractWrapper

/-- The name of a function followed by the canonical types of its inputs. -/
def canonicalSignature (name : String) (inputs : List Parameter) : String :=
  name ++ Parameter.tupleText (Parameter.canonicalTypes inputs)

def selectorOf (signature : String) : String :=
  let hash := Keccak.hash256 signature.toUTF8.toList
  "0x" ++ String.join ((hash.take 4).map Text.hexadecimalByte)

structure FunctionEntry where
  name : String
  inputs : List Parameter
  outputs : List Parameter
  mutability : String
  constant : Bool
  signature : String
  selector : String
  deriving Repr, Inhabited

/-- An entry whose signature and selector are computed from its name and inputs. -/
def FunctionEntry.withMutability (name : String) (inputs outputs : List Parameter)
    (mutability : String) : FunctionEntry where
  name
  inputs
  outputs
  mutability
  constant := mutability == "view" || mutability == "pure"
  signature := canonicalSignature name inputs
  selector := selectorOf (canonicalSignature name inputs)

/-- An entry that only says whether it is read-only. -/
def FunctionEntry.declare (name : String) (inputs outputs : List Parameter) (constant : Bool) :
    FunctionEntry :=
  withMutability name inputs outputs (if constant then "view" else "nonpayable")

structure Interface where
  contractName : Option String
  functions : List FunctionEntry
  skipped : Nat
  deriving Repr, Inhabited

end ContractWrapper
