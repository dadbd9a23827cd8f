import ContractWrapper.Interface.Defect
import ContractWrapper.Json.Problem
import ContractWrapper.Settings

/-! Why a wrapper is not generated.

An error says what happened; `GenerationError.message` alone puts it into words.
-/

set_option autoImplicit false

namespace ContractWrapper

/-- The literals that a method declaration is put together from. -/
inductive Literal where
  | input
  | output
  | body
  deriving DecidableEq, Repr

def Literal.name : Literal → String
  | .input => "input literal"
  | .output => "output literal"
  | .body => "body literal"

/-- Work on a method that was started before the work it needs was done. -/
inductive Precondition where
  | bodyBeforeInputs (method : String)
  | commentBeforeOutputs (method : String)
  | commentBeforeInputs (method : String)
  | declarationBefore (literal : Literal) (method : String)
  | classBeforeDeclaration (method : String)
  deriving DecidableEq, Repr

def Precondition.message : Precondition → String
  | .bodyBeforeInputs method => "body of '" ++ method ++ "' composed before its inputs were built"
  | .commentBeforeOutputs method => "doc of '" ++ method ++ "' needs built outputs"
  | .commentBeforeInputs method => "doc of '" ++ method ++ "' needs built inputs"
  | .declarationBefore literal method =>
    "signature of '" ++ method ++ "' assembled before its " ++ literal.name ++ " was built"
  | .classBeforeDeclaration method =>
    "class assembled before the signature of '" ++ method ++ "' was built"

/-- What a file system answers when it refuses. -/
inductive FileError where
  | notFound
  | alreadyExists
  | notADirectory
  | isADirectory
  | nameTooLong
  | nulInPath
  | notText
  | other (text : String)
  deriving DecidableEq, Repr

def FileError.message : FileError → String
  | .notFound => "No such file or directory (os error 2)"
  | .alreadyExists => "File exists (os error 17)"
  | .notADirectory => "Not a directory (os error 20)"
  | .isADirectory => "Is a directory (os error 21)"
  | .nameTooLong => "File name too long (os error 36)"
  | .nulInPath => "file name contained an unexpected NUL byte"
  | .notText => "stream did not contain valid UTF-8"
  | .other text => text

inductive FileUse where
  | readSettings
  | readInterface
  | createDirectory
  | writeWrapper
  deriving DecidableEq, Repr

def FileUse.failure : FileUse → String
  | .readSettings => "Failed to read config "
  | .readInterface => "Failed to read ABI file "
  | .createDirectory => "Failed to create directory "
  | .writeWrapper => "Failed to write file "

/-- The kinds of error that a caller may also describe in words of its own. -/
inductive ErrorKind where
  | general
  | description
  | precondition
  | nameCollision
  | files
  | other
  deriving DecidableEq, Repr

def ErrorKind.heading : ErrorKind → String
  | .general | .other => ""
  | .description => "Failed to parse interface description: "
  | .precondition => "Pipeline precondition violated: "
  | .nameCollision => "Method name collision: "
  | .files => "I/O error: "

inductive GenerationError where
  | stated (kind : ErrorKind) (text : String)
  | notJson (problem : Json.Problem)
  /-- The settings are no TOML document, or the document is none of settings. -/
  | notSettings
  | noEntryList
  | noDescription
  | malformed (index : Nat) (defect : EntryDefect)
  | precondition (cause : Precondition)
  | ambiguousOverload (name : String) (count : Nat)
  | nameCollision (methodName signature : String)
  | settings (cause : SettingsError)
  | file (use : FileUse) (path : String) (cause : FileError)
  deriving DecidableEq, Repr

namespace GenerationError

def message : GenerationError → String
  | stated kind text => kind.heading ++ text
  | notJson problem =>
    ErrorKind.description.heading ++ "JSON parsing error: " ++ problem.message
  | notSettings =>
    ErrorKind.description.heading ++ "TOML parsing error: not a table of generator settings"
  | noEntryList => ErrorKind.description.heading ++ "artifact object has no `abi` array"
  | noDescription =>
    ErrorKind.description.heading ++
      "interface description must be an ABI array or an artifact object"
  | malformed index defect =>
    "Malformed descriptor at entry " ++ toString index ++ ": " ++ defect.message
  | precondition cause => ErrorKind.precondition.heading ++ cause.message
  | ambiguousOverload name count =>
    "Function '" ++ name ++ "' is declared " ++ toString count ++
      " times and overloads are rejected"
  | nameCollision methodName signature =>
    ErrorKind.nameCollision.heading ++ "'" ++ methodName ++ "' (from " ++ signature ++
      ") is already declared"
  | settings cause => "Configuration error: " ++ cause.message
  | file use path cause => ErrorKind.files.heading ++ use.failure ++ path ++ ": " ++ cause.message

def innerMessage? : GenerationError → Option String
  | settings cause => some cause.message
  | _ => none

end GenerationError

end ContractWrapper
