import ContractWrapper.Toml

/-! How TOML tables grow.

A key is bound once. A dotted key may only go through tables that no header has opened, and
may only add to a table that dotted keys made; a header opens a table once, and goes through
anything that is a table already.
-/

set_option autoImplicit false

namespace ContractWrapper.Toml

structure Table where
  origin : Origin
  entries : List (String × Toml)

def Table.empty (origin : Origin) : Table := ⟨origin, []⟩

/-- Bind a key, which takes the place of an earlier binding if there is one. -/
def bind (key : String) (value : Toml) : List (String × Toml) → List (String × Toml)
  | [] => [(key, value)]
  | (name, old) :: rest =>
    if name == key then (key, value) :: rest else (name, old) :: bind key value rest

/-- Change the table that a path leads to, making the tables on the way that are missing. -/
def Table.change (made : Origin) (path : List String) (act : Table → Option Table)
    (table : Table) : Option Table :=
  match path with
  | [] => act table
  | key :: rest =>
    match table.entries.lookup key with
    | none => do
      let child ← change made rest act (empty made)
      return { table with entries := bind key (.table child.origin child.entries) table.entries }
    | some (.table origin entries) =>
      if origin == .inline || (made == .dotted && origin == .header) then none
      else do
        let child ← change made rest act ⟨origin, entries⟩
        return { table with entries := bind key (.table child.origin child.entries) table.entries }
    | some (.tables (last :: earlier)) => do
      let child ← change made rest act ⟨.header, last⟩
      return { table with entries := bind key (.tables (child.entries :: earlier)) table.entries }
    | some _ => none

def Table.insert (key : String) (value : Toml) (table : Table) : Option Table :=
  match table.entries.lookup key with
  | none => some { table with entries := bind key value table.entries }
  | some _ => none

/-- The binding of a dotted key, whose parts before the last one are `path`. -/
def Table.insertDotted (path : List String) (key : String) (value : Toml) (table : Table) :
    Option Table :=
  table.change .dotted path fun last =>
    if path.isEmpty || last.origin == .dotted then last.insert key value else none

/-- A header opens a table that is new, or that was only implied so far. -/
def Table.openTable (path : List String) (key : String) (table : Table) : Option Table :=
  table.change .implied path fun parent =>
    match parent.entries.lookup key with
    | none => parent.insert key (.table .header [])
    | some (.table .implied entries) =>
      some { parent with entries := bind key (.table .header entries) parent.entries }
    | some _ => none

/-- A doubled header adds an empty table to an array of tables. -/
def Table.openItem (path : List String) (key : String) (table : Table) : Option Table :=
  table.change .implied path fun parent =>
    match parent.entries.lookup key with
    | none => parent.insert key (.tables [[]])
    | some (.tables items) =>
      some { parent with entries := bind key (.tables ([] :: items)) parent.entries }
    | some _ => none

end ContractWrapper.Toml
