import ContractWrapper.Identifier
import ContractWrapper.Text.Quoted

/-! What a wrapper is generated as, and which choices are refused. -/

set_option autoImplicit false

namespace ContractWrapper

inductive Dialect where
  | javaScript
  | typeScript
  deriving DecidableEq, Repr

/-- The contract library that a wrapper binds to. The first builds the contract instance
from an address, an interface and a signer; the second is handed a finished instance. -/
inductive Framework where
  | ethers
  | truffle
  deriving DecidableEq, Repr

/-- What becomes of functions that share a name: all keep it, later ones are numbered, or
the interface is refused. -/
inductive OverloadPolicy where
  | preserve
  | mangle
  | reject
  deriving DecidableEq, Repr

/-- The settings that hold a name. -/
inductive NameSetting where
  | placeholderStem
  | className
  deriving DecidableEq, Repr

inductive SettingsError where
  | emptyStem
  | invalidIdentifier (setting : NameSetting) (value : String)
  | reservedWord (setting : NameSetting) (value : String)
  | invalidIndent (indent : String)
  | unknownDialect (text : String)
  | unknownFramework (text : String)
  | unknownOverloadPolicy (text : String)
  deriving DecidableEq, Repr

structure Settings where
  dialect : Dialect := .typeScript
  framework : Framework := .ethers
  /-- Derived from the interface when absent. -/
  className : Option String := none
  overloadPolicy : OverloadPolicy := .mangle
  /-- What placeholder names of unnamed inputs begin with. -/
  placeholderStem : String := "argv"
  indent : String := "  "
  emitDocs : Bool := true
  deriving DecidableEq, Repr

def Dialect.name : Dialect → String
  | .javaScript => "javascript"
  | .typeScript => "typescript"

def Framework.name : Framework → String
  | .ethers => "ethers"
  | .truffle => "truffle"

def OverloadPolicy.name : OverloadPolicy → String
  | .preserve => "preserve"
  | .mangle => "mangle"
  | .reject => "reject"

def Dialect.ofName? : String → Option Dialect
  | "javascript" => some .javaScript
  | "typescript" => some .typeScript
  | _ => none

def Framework.ofName? : String → Option Framework
  | "ethers" => some .ethers
  | "truffle" => some .truffle
  | _ => none

def OverloadPolicy.ofName? : String → Option OverloadPolicy
  | "preserve" => some .preserve
  | "mangle" => some .mangle
  | "reject" => some .reject
  | _ => none

-- Only ASCII letters change; no other letter has one of the names above as its small form.
def lowerCase (text : String) : String :=
  String.ofList (text.toList.map Char.toLower)

/-- A dialect as it is asked for: in any case, and also by its file extension. -/
def Dialect.ofRequest (text : String) : Except SettingsError Dialect :=
  match lowerCase text with
  | "js" => .ok .javaScript
  | "ts" => .ok .typeScript
  | name =>
    match ofName? name with
    | some dialect => .ok dialect
    | none => .error (.unknownDialect text)

def Framework.ofRequest (text : String) : Except SettingsError Framework :=
  match ofName? (lowerCase text) with
  | some framework => .ok framework
  | none => .error (.unknownFramework text)

def OverloadPolicy.ofRequest (text : String) : Except SettingsError OverloadPolicy :=
  match ofName? (lowerCase text) with
  | some policy => .ok policy
  | none => .error (.unknownOverloadPolicy text)

def Dialect.fileExtension : Dialect → String
  | .javaScript => "js"
  | .typeScript => "ts"

def NameSetting.key : NameSetting → String
  | .placeholderStem => "unnamed_prefix"
  | .className => "class_name"

def SettingsError.message : SettingsError → String
  | .emptyStem => "Unnamed parameter prefix cannot be empty"
  | .invalidIdentifier setting value =>
    "Invalid identifier for " ++ setting.key ++ ": '" ++ value ++ "'"
  | .reservedWord setting value =>
    "Reserved word used for " ++ setting.key ++ ": '" ++ value ++ "'"
  | .invalidIndent indent =>
    "Indent must be a non-empty run of spaces or tabs, got " ++ Text.quoted indent
  | .unknownDialect text =>
    "Unknown dialect '" ++ text ++ "' (expected javascript or typescript)"
  | .unknownFramework text =>
    "Unknown framework '" ++ text ++ "' (expected ethers or truffle)"
  | .unknownOverloadPolicy text =>
    "Unknown overload policy '" ++ text ++ "' (expected preserve, mangle or reject)"

namespace Settings

/-- A name must be an identifier, and then no reserved word. -/
def checkName (setting : NameSetting) (name : String) : Except SettingsError Unit :=
  if !isIdentifier name then .error (.invalidIdentifier setting name)
  else if isReservedWord name then .error (.reservedWord setting name)
  else .ok ()

def isIndent (text : String) : Bool :=
  !text.toList.isEmpty && text.toList.all fun c => c == ' ' || c == '\t'

def checkClassName : Option String → Except SettingsError Unit
  | some name => checkName .className name
  | none => .ok ()

/-- The first setting that is refused: the stem of placeholders, then the indent, then the
class name. -/
def validate (settings : Settings) : Except SettingsError Unit :=
  if settings.placeholderStem == "" then .error .emptyStem
  else do
    checkName .placeholderStem settings.placeholderStem
    if isIndent settings.indent then checkClassName settings.className
    else .error (.invalidIndent settings.indent)

structure Valid (settings : Settings) : Prop where
  stem_identifier : isIdentifier settings.placeholderStem = true
  stem_free : isReservedWord settings.placeholderStem = false
  indent : isIndent settings.indent = true
  className_identifier : ∀ name, settings.className = some name → isIdentifier name = true
  className_free : ∀ name, settings.className = some name → isReservedWord name = false

theorem checkName_eq_ok_iff (setting : NameSetting) (name : String) :
    checkName setting name = .ok () ↔ isIdentifier name = true ∧ isReservedWord name = false := by
  unfold checkName
  cases isIdentifier name <;> cases isReservedWord name <;> simp

theorem checkClassName_eq_ok_iff (className : Option String) :
    checkClassName className = .ok () ↔
      ∀ name, className = some name → isIdentifier name = true ∧ isReservedWord name = false := by
  cases className <;> simp [checkClassName, checkName_eq_ok_iff]

theorem validate_eq_ok_iff (settings : Settings) :
    settings.validate = .ok () ↔ settings.Valid := by
  have steps : settings.validate = .ok () ↔
      checkName .placeholderStem settings.placeholderStem = .ok () ∧
        isIndent settings.indent = true ∧ checkClassName settings.className = .ok () := by
    unfold validate
    by_cases empty : settings.placeholderStem = ""
    · have refused : checkName .placeholderStem "" ≠ .ok () := by
        simp [checkName_eq_ok_iff, isIdentifier]
      simp [empty, refused]
    · cases checkName .placeholderStem settings.placeholderStem with
      | error e => simp [empty, bind, Except.bind]
      | ok => cases isIndent settings.indent <;> simp [empty, bind, Except.bind]
  rw [steps, checkName_eq_ok_iff, checkClassName_eq_ok_iff]
  constructor
  · rintro ⟨⟨identifier, free⟩, indent, className⟩
    exact ⟨identifier, free, indent, fun name same => (className name same).1,
      fun name same => (className name same).2⟩
  · intro valid
    exact ⟨⟨valid.stem_identifier, valid.stem_free⟩, valid.indent, fun name same =>
      ⟨valid.className_identifier name same, valid.className_free name same⟩⟩

end Settings

end ContractWrapper
