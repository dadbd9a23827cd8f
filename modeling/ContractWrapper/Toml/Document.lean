import ContractWrapper.Toml.Value

/-! TOML documents: bindings and table headers, one to a line. -/

set_option autoImplicit false

namespace ContractWrapper.Toml

inductive Statement where
  | binding (path : List String) (key : String) (value : Toml)
  | header (path : List String) (key : String)
  | itemHeader (path : List String) (key : String)

def bindingStatement : Scan Statement := do
  let ((path, key), bound) ← keyValue (value nestingLimit)
  return .binding path key bound

def headerStatement : Scan Statement := do
  let _ ← Scan.char '['
  let (path, key) ← dottedKey
  let _ ← Scan.char ']'
  return .header path key

def itemHeaderStatement : Scan Statement := do
  Scan.literal ['[', '[']
  let (path, key) ← dottedKey
  Scan.literal [']', ']']
  return .itemHeader path key

/-- One line, which may hold a statement and may end in a comment. -/
def line : Scan (Option Statement) := do
  blanks
  let statement ← Scan.attempt (itemHeaderStatement <|> headerStatement <|> bindingStatement)
  blanks
  let _ ← Scan.attempt comment
  newline <|> Scan.endOfText
  return statement

/-- A document so far: its root, and where the bindings of the latest header go. -/
structure Progress where
  root : Table
  current : List String

/-- The table of the latest header is reached again through its path. -/
def Progress.apply (progress : Progress) : Statement → Option Progress
  | .binding path key value => do
    let root ← progress.root.change .implied progress.current (Table.insertDotted path key value)
    return { progress with root }
  | .header path key => do
    let root ← progress.root.openTable path key
    return ⟨root, path ++ [key]⟩
  | .itemHeader path key => do
    let root ← progress.root.openItem path key
    return ⟨root, path ++ [key]⟩

/-- A byte order mark in front is no part of a document. -/
def withoutMark : List Char → List Char
  | '\uFEFF' :: rest => rest
  | text => text

/-- The entries of a document, if the text is one. -/
def read? (text : String) : Option (List (String × Toml)) := do
  let (lines, rest) ← Scan.many line (withoutMark text.toList)
  if rest.isEmpty then
    let final ← (lines.filterMap id).foldlM Progress.apply ⟨Table.empty .header, []⟩
    return final.root.entries
  else none

end ContractWrapper.Toml
