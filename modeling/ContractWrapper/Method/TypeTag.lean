import ContractWrapper.Interface.Defect
import ContractWrapper.Settings

/-! The type that a dialect shows for an interface type tag.

Tags are read from the right, because array suffixes are peeled off there. A suffix is a pair
of brackets around digits or around nothing; anything else belongs to the base of the tag.
-/

set_option autoImplicit false

namespace ContractWrapper

/-- The type names of a dialect. Numbers differ between the two sides of a function. -/
structure TypeTable where
  numericInput : String
  numericOutput : String
  address : String
  string : String
  boolean : String
  fallback : String
  arraySuffix : String
  deriving DecidableEq, Repr

def typeScriptTypes : TypeTable where
  numericInput := "BigNumberish"
  numericOutput := "BigNumber"
  address := "string"
  string := "string"
  boolean := "boolean"
  fallback := "any"
  arraySuffix := "[]"

def javaScriptTypes : TypeTable where
  numericInput := "BigNumber"
  numericOutput := "BigNumber"
  address := "string"
  string := "string"
  boolean := "boolean"
  fallback := "any"
  arraySuffix := "[]"

def Dialect.types : Dialect → TypeTable
  | .javaScript => javaScriptTypes
  | .typeScript => typeScriptTypes

namespace TypeTag

def integerWidth? : List Char → Option (List Char)
  | 'u' :: 'i' :: 'n' :: 't' :: width => some width
  | 'i' :: 'n' :: 't' :: width => some width
  | _ => none

/-- Signed and unsigned integers of any width, also of an unwritten one. -/
def isInteger (tag : List Char) : Bool :=
  (integerWidth? tag).any fun width => width.all Char.isDigit

/-- The tag of the elements of an array; both tags are reversed. -/
def elementReversed? : List Char → Option (List Char)
  | ']' :: rest =>
    match rest.dropWhile Char.isDigit with
    | '[' :: element => some element
    | _ => none
  | _ => none

theorem length_elementReversed? {reversed element : List Char}
    (found : elementReversed? reversed = some element) : element.length < reversed.length := by
  unfold elementReversed? at found
  split at found
  · next rest =>
    split at found
    · next inner cut =>
      have bound := (List.dropWhile_sublist (l := rest) Char.isDigit).length_le
      rw [cut] at bound
      cases Option.some.inj found
      simp at bound ⊢
      omega
    · cases found
  · cases found

end TypeTag

namespace TypeTable

def numeric (table : TypeTable) : Side → String
  | .inputs => table.numericInput
  | .outputs => table.numericOutput

def base (table : TypeTable) (side : Side) (tag : List Char) : String :=
  if TypeTag.isInteger tag then table.numeric side
  else
    match String.ofList tag with
    | "address" => table.address
    | "string" => table.string
    | "bool" => table.boolean
    | _ => table.fallback

def inferReversed (table : TypeTable) (side : Side) (reversed : List Char) : String :=
  match _found : TypeTag.elementReversed? reversed with
  | some element => inferReversed table side element ++ table.arraySuffix
  | none => table.base side reversed.reverse
termination_by reversed.length
decreasing_by exact TypeTag.length_elementReversed? _found

def infer (table : TypeTable) (side : Side) (tag : String) : String :=
  table.inferReversed side tag.toList.reverse

def promise (inner : String) : String :=
  "Promise<" ++ inner ++ ">"

/-- The asynchronous type of a call about whose result nothing is said. -/
def fallbackPromise (table : TypeTable) : String :=
  promise table.fallback

end TypeTable

end ContractWrapper
