import ContractWrapper.Toml.Date
import ContractWrapper.Toml.Number
import ContractWrapper.Toml.Scan
import ContractWrapper.Toml.Table
import ContractWrapper.Toml.Text

/-! TOML keys and values. -/

set_option autoImplicit false

namespace ContractWrapper.Toml

/-- Arrays and inline tables may be nested this deep. -/
def nestingLimit : Nat := 79

def keyPartLimit : Nat := 79

def isBareKeyPart (c : Char) : Bool :=
  c.isAlphanum || c == '_' || c == '-'

def simpleKey : Scan String := do
  let bare : Scan (List Char) := do
    let first ← Scan.satisfying isBareKeyPart
    let others ← Scan.many (Scan.satisfying isBareKeyPart)
    return first :: others
  String.ofList <$> (bare <|> basicString <|> literalString)

/-- The parts of a key before the last one, and the last one; blanks may stand around each. -/
def dottedKey : Scan (List String × String) := do
  let part : Scan String := do
    blanks
    let key ← simpleKey
    blanks
    return key
  let first ← part
  let others ← Scan.many do
    let _ ← Scan.char '.'
    part
  Scan.ensure (others.length < keyPartLimit)
  match (first :: others).reverse with
  | last :: earlier => return (earlier.reverse, last)
  | [] => failure

def keyValue (value : Scan Toml) : Scan ((List String × String) × Toml) := do
  let key ← dottedKey
  let _ ← Scan.char '='
  blanks
  let bound ← value
  return (key, bound)

def scalar : Scan Toml :=
  (Toml.string <$> String.ofList <$> anyString) <|>
    ((fun _ => .boolean true) <$> Scan.literal ['t', 'r', 'u', 'e']) <|>
    ((fun _ => .boolean false) <$> Scan.literal ['f', 'a', 'l', 's', 'e']) <|>
    ((fun _ => .moment) <$> dateTime) <|>
    ((fun _ => .number) <$> (float <|> namedFloat <|> integer))

/-- Items between brackets; a comma may follow the last one. -/
def arrayOf (item : Scan Toml) : Scan Toml := do
  let _ ← Scan.char '['
  layout
  let items ← (do
    let first ← item
    let others ← Scan.many do
      layout
      let _ ← Scan.char ','
      layout
      item
    layout
    let _ ← Scan.attempt (Scan.char ',')
    return first :: others) <|> pure []
  layout
  let _ ← Scan.char ']'
  return .array items

/-- Bindings between braces, on one line; no comma may follow the last one. -/
def inlineTableOf (value : Scan Toml) : Scan Toml := do
  let binding : Scan ((List String × String) × Toml) := do
    let bound ← keyValue value
    blanks
    return bound
  let _ ← Scan.char '\x7b'
  blanks
  let bindings ← (do
    let first ← binding
    let others ← Scan.many do
      let _ ← Scan.char ','
      binding
    return first :: others) <|> pure []
  let _ ← Scan.char '\x7d'
  let grown : Option Table := bindings.foldlM
    (fun table ((path, key), bound) => table.insertDotted path key bound) (Table.empty .inline)
  let table ← grown
  return .table .inline table.entries

/-- A value in which `depth` more arrays or inline tables may be nested. -/
def value : (depth : Nat) → Scan Toml
  | 0 => scalar
  | depth + 1 => arrayOf (value depth) <|> inlineTableOf (value depth) <|> scalar

end ContractWrapper.Toml
