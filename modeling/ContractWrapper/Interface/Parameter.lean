/-! Parameters of a contract function, and their canonical types.

The canonical type of a parameter is its tag with the short integer names written out and a
tuple replaced by the list of its components; array suffixes stay as they are.
-/

set_option autoImplicit false

namespace ContractWrapper

/-- An unnamed parameter has the empty name. -/
structure Parameter where
  name : String
  tag : String
  components : Option (List Parameter)
  deriving Repr, Inhabited

namespace Parameter

/-- A tag up to its first bracket, and from there on. -/
def splitTag (tag : String) : String × String :=
  (String.ofList (tag.toList.takeWhile (· != '[')), String.ofList (tag.toList.dropWhile (· != '[')))

/-- The canonical name of a base, where `tuple` is what a tuple stands for. -/
def canonicalBase (base tuple : String) : String :=
  match base with
  | "uint" => "uint256"
  | "int" => "int256"
  | "tuple" => tuple
  | _ => base

def tupleText (types : List String) : String :=
  "(" ++ ",".intercalate types ++ ")"

mutual

def canonicalType : Parameter → String
  | ⟨_, tag, components⟩ =>
    let (base, suffix) := splitTag tag
    canonicalBase base (tupleText (componentTypes components)) ++ suffix

def componentTypes : Option (List Parameter) → List String
  | none => []
  | some components => canonicalTypes components

def canonicalTypes : List Parameter → List String
  | [] => []
  | first :: rest => canonicalType first :: canonicalTypes rest

end

theorem canonicalTypes_eq_map (parameters : List Parameter) :
    canonicalTypes parameters = parameters.map canonicalType := by
  induction parameters with
  | nil => rfl
  | cons first rest ih => simp [canonicalTypes, ih]

theorem splitTag_append (tag : String) : (splitTag tag).1 ++ (splitTag tag).2 = tag := by
  simp [splitTag, ← String.ofList_append]

/-- Induction over a parameter and the components under it. -/
theorem inductionOn {motive : Parameter → Prop} (parameter : Parameter)
    (node : ∀ name tag components, (∀ component ∈ Option.getD components [], motive component) →
      motive ⟨name, tag, components⟩) : motive parameter := by
  refine @Parameter.rec motive
    (fun components => ∀ component ∈ components.getD [], motive component)
    (fun components => ∀ component ∈ components, motive component) node ?_ ?_ ?_ ?_ parameter
  · simp
  · exact fun components every => every
  · simp
  · exact fun first rest here later => List.forall_mem_cons.mpr ⟨here, later⟩

end Parameter

end ContractWrapper
