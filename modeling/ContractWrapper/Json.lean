/-! JSON values. -/

set_option autoImplicit false

namespace ContractWrapper

/-- A number keeps its text: no interface description reads the value of one. -/
inductive Json where
  | null
  | bool (value : Bool)
  | number (literal : String)
  | string (text : String)
  | array (items : List Json)
  | object (members : List (String × Json))
  deriving Repr, Inhabited

/-- What an object binds to a name; of several bindings the last one counts. -/
def Json.lookup (name : String) (members : List (String × Json)) : Option Json :=
  members.reverse.lookup name

/-- Later members come before earlier ones. -/
theorem Json.lookup_append (name : String) (earlier later : List (String × Json)) :
    lookup name (earlier ++ later) = (lookup name later).or (lookup name earlier) := by
  simp [lookup, List.lookup_append]

end ContractWrapper
