import ContractWrapper.Interface.Function
import ContractWrapper.Json
import ContractWrapper.Json.Reader
import ContractWrapper.Trace

/-! Reading an interface description.

A description is an array of entries, or an artifact that holds one. Function entries become
`FunctionEntry` values; the first defective entry ends the reading.
-/

set_option autoImplicit false

namespace ContractWrapper

structure ParameterFault where
  position : Nat
  defect : ParameterDefect
  deriving DecidableEq, Repr

namespace Parameter

/-- An absent name and a null name both leave the parameter unnamed. -/
def readName (position : Nat) (members : List (String × Json)) : Except ParameterFault String :=
  match Json.lookup "name" members with
  | none | some .null => .ok ""
  | some (.string name) => .ok name
  | some _ => .error ⟨position, .nameNotString⟩

def readTag (position : Nat) (members : List (String × Json)) : Except ParameterFault String :=
  match Json.lookup "type" members with
  | some (.string tag) => .ok tag
  | _ => .error ⟨position, .noType⟩

mutual

def read (position : Nat) : Json → Except ParameterFault Parameter
  | .object members => do
    let name ← readName position members
    let tag ← readTag position members
    let components ← (lastComponents members).getD (.ok none)
    return ⟨name, tag, components⟩
  | _ => .error ⟨position, .notObject⟩

/-- What the last binding of `components` holds, if there is one. -/
def lastComponents :
    List (String × Json) → Option (Except ParameterFault (Option (List Parameter)))
  | [] => none
  | (key, value) :: rest =>
    match lastComponents rest with
    | some components => some components
    | none => if key == "components" then some (readComponents value) else none

/-- Only an array counts as components; its positions start again at zero. -/
def readComponents : Json → Except ParameterFault (Option (List Parameter))
  | .array items => (readAll 0 items).map some
  | _ => .ok none

def readAll (position : Nat) : List Json → Except ParameterFault (List Parameter)
  | [] => .ok []
  | item :: rest => do
    let first ← read position item
    let others ← readAll (position + 1) rest
    return first :: others

end

theorem lastComponents_eq (members : List (String × Json)) :
    lastComponents members = (Json.lookup "components" members).map readComponents := by
  induction members with
  | nil => rfl
  | cons member rest ih =>
    obtain ⟨key, value⟩ := member
    have later := Json.lookup_append "components" [(key, value)] rest
    rw [List.singleton_append] at later
    rw [lastComponents, ih, later]
    cases Json.lookup "components" rest with
    | some found => rfl
    | none =>
      by_cases same : key = "components"
      · simp [same, Json.lookup]
      · simp [same, Json.lookup, List.lookup_cons, beq_false_of_ne (Ne.symm same)]

end Parameter

namespace FunctionEntry

def readName (members : List (String × Json)) : Except EntryDefect String :=
  match Json.lookup "name" members with
  | none => .error .noName
  | some (.string name) => if name == "" then .error .nameEmpty else .ok name
  | some _ => .error .nameNotString

def readParameters (side : Side) (members : List (String × Json)) :
    Except EntryDefect (List Parameter) :=
  match Json.lookup side.name members with
  | none => .error (.noList side)
  | some (.array items) =>
    (Parameter.readAll 0 items).mapError fun fault =>
      .parameter side fault.position fault.defect
  | some _ => .error (.listNotArray side)

def isTrue : Option Json → Bool
  | some (.bool true) => true
  | _ => false

-- Older descriptions say in two flags what newer ones say in one word.
def readMutability (members : List (String × Json)) : Except EntryDefect String :=
  match Json.lookup "stateMutability" members with
  | some (.string mutability) => .ok mutability
  | some _ => .error .mutabilityNotString
  | none =>
    if isTrue (Json.lookup "constant" members) then .ok "view"
    else if isTrue (Json.lookup "payable" members) then .ok "payable"
    else .ok "nonpayable"

def read (members : List (String × Json)) : Except EntryDefect FunctionEntry := do
  let name ← readName members
  let inputs ← readParameters .inputs members
  let outputs ← readParameters .outputs members
  let mutability ← readMutability members
  return withMutability name inputs outputs mutability

end FunctionEntry

namespace Interface

def otherKinds : List String :=
  ["constructor", "event", "error", "fallback", "receive"]

/-- The kind that an entry declares; one that declares none is a function. -/
def readKind (members : List (String × Json)) : Except EntryDefect String :=
  match Json.lookup "type" members with
  | none => .ok "function"
  | some (.string kind) => .ok kind
  | some _ => .error .typeNotString

def readEntry (index : Nat) (entry : Json) : Traced (Option FunctionEntry) :=
  match entry with
  | .object members => do
    let kind ← Traced.of ((readKind members).mapError (.malformed index))
    if kind == "function" then
      let function ← Traced.of ((FunctionEntry.read members).mapError (.malformed index))
      return some function
    else
      if !otherKinds.contains kind then
        Traced.emit (.unknownEntry index kind)
      return none
  | _ => Traced.fail (.malformed index .notObject)

/-- The functions among the entries from an index on, and the number of other entries. -/
def readEntries (index : Nat) : List Json → Traced (List FunctionEntry × Nat)
  | [] => return ([], 0)
  | entry :: rest => do
    let reading ← readEntry index entry
    let (functions, skipped) ← readEntries (index + 1) rest
    match reading with
    | some function => return (function :: functions, skipped)
    | none => return (functions, skipped + 1)

/-- The entries of a description, and the name that an artifact gives to the contract. -/
def entriesOf (description : Json) : Except GenerationError (List Json × Option String) :=
  match description with
  | .array entries => .ok (entries, none)
  | .object artifact =>
    match Json.lookup "abi" artifact with
    | some (.array entries) =>
      match Json.lookup "contractName" artifact with
      | some (.string name) => .ok (entries, some name)
      | _ => .ok (entries, none)
    | _ => .error .noEntryList
  | _ => .error .noDescription

def ofJson (description : Json) : Traced Interface := do
  let (entries, contractName) ← Traced.of (entriesOf description)
  let (functions, skipped) ← readEntries 0 entries
  Traced.emit (.interfaceRead functions.length skipped)
  return { contractName, functions, skipped }

def ofText (text : String) : Traced Interface := do
  let description ← Traced.of ((Json.read text).mapError .notJson)
  ofJson description

end Interface

end ContractWrapper
