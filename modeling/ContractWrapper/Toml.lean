/-! TOML values and tables.

Only what settings are made of keeps its value; numbers and dates are read to be sure that
they are well-formed, and then forgotten.
-/

set_option autoImplicit false

namespace ContractWrapper

/-- How a table came to be, which decides how it may be extended: written in braces, implied
by the header of a table inside it, implied by a dotted key, or opened by its own header. -/
inductive Toml.Origin where
  | inline
  | implied
  | dotted
  | header
  deriving DecidableEq, Repr

inductive Toml where
  | string (text : String)
  | boolean (value : Bool)
  | number
  | moment
  | array (items : List Toml)
  | table (origin : Toml.Origin) (entries : List (String × Toml))
  /-- An array of tables, each opened by a header; the last one comes first. -/
  | tables (items : List (List (String × Toml)))
  deriving Repr, Inhabited

end ContractWrapper
