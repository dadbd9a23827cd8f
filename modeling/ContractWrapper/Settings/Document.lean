import ContractWrapper.Error
import ContractWrapper.Settings
import ContractWrapper.Toml.Document

/-! Settings written as a TOML document. Keys of other things are passed over. -/

set_option autoImplicit false

namespace ContractWrapper.Settings

def textOf? : Toml → Option String
  | .string text => some text
  | _ => none

def booleanOf? : Toml → Option Bool
  | .boolean value => some value
  | _ => none

def isEmptyCollection : Toml → Bool
  | .array [] => true
  | .table _ [] => true
  | _ => false

/-- A choice is written as its name, or as the only key of a table with nothing behind it. -/
def choiceOf? : Toml → Option String
  | .string name => some name
  | .table _ [(name, content)] => if isEmptyCollection content then some name else none
  | _ => none

/-- The value of a setting: the default if it is absent, nothing if it is not as expected. -/
def field {α : Type} (entries : List (String × Toml)) (key : String) (default : α)
    (read : Toml → Option α) : Option α :=
  match entries.lookup key with
  | none => some default
  | some value => read value

def ofEntries? (entries : List (String × Toml)) : Option Settings := do
  let defaults : Settings := {}
  let dialect ← field entries "dialect" defaults.dialect (choiceOf? · >>= Dialect.ofName?)
  let framework ← field entries "framework" defaults.framework
    (choiceOf? · >>= Framework.ofName?)
  let className ← field entries "class_name" defaults.className fun value => some <$> textOf? value
  let overloadPolicy ← field entries "overload_policy" defaults.overloadPolicy
    (choiceOf? · >>= OverloadPolicy.ofName?)
  let placeholderStem ← field entries "unnamed_prefix" defaults.placeholderStem textOf?
  let indent ← field entries "indent" defaults.indent textOf?
  let emitDocs ← field entries "emit_docs" defaults.emitDocs booleanOf?
  return { dialect, framework, className, overloadPolicy, placeholderStem, indent, emitDocs }

/-- Settings from the text of a document, read and checked. -/
def ofText (text : String) : Except GenerationError Settings :=
  match Toml.read? text >>= ofEntries? with
  | none => .error .notSettings
  | some settings => (settings.validate.mapError .settings).map fun _ => settings

end ContractWrapper.Settings
