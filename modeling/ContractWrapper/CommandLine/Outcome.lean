import ContractWrapper.CommandLine.Arguments
import ContractWrapper.CommandLine.Run

/-! What the program leaves behind when it ends. -/

set_option autoImplicit false

namespace ContractWrapper

structure Outcome where
  exitCode : Nat
  output : String
  errors : String
  deriving DecidableEq, Repr

def versionText : String := "wrapgen 0.1.0\n"

def usageText : String :=
  "Usage: wrapgen [-v] generate <abi-file> [--dialect DIALECT] [--framework FRAMEWORK]\n" ++
  "                [--name NAME] [-o PATH] [--config FILE] [--overloads POLICY]\n" ++
  "                [--no-docs] [--dry-run]\n" ++
  "       wrapgen [-v] inspect <abi-file> [--config FILE] [--overloads POLICY]\n"

/-- Asking for help or the version is no fault. -/
def Refusal.outcome : Refusal → Outcome
  | .help => ⟨0, usageText, ""⟩
  | .version => ⟨0, versionText, ""⟩
  | _ => ⟨2, "", usageText⟩

/-- A text with every line of it indented. -/
def indentedText (text : String) : String :=
  "    " ++ String.join (text.toList.map fun c => if c == '\n' then "\n    " else String.singleton c)

/-- An error is shown together with the one that it wraps. -/
def GenerationError.report (error : GenerationError) : String :=
  "Error: " ++ error.message ++ "\n" ++
    match error.innerMessage? with
    | some inner => "\nCaused by:\n" ++ indentedText inner ++ "\n"
    | none => ""

def Outcome.ofResult : Except GenerationError String → Outcome
  | .ok output => ⟨0, output, ""⟩
  | .error error => ⟨1, "", error.report⟩

variable {m : Type → Type} [Monad m] [Host m]

/-- The whole program on its arguments. -/
def runProgram (arguments : List String) : m Outcome :=
  match Arguments.read arguments with
  | .error refusal => return refusal.outcome
  | .ok invocation => do
    let result ← (runCommand invocation.command).run
    return Outcome.ofResult result

end ContractWrapper
