import ContractWrapper.CommandLine.Outcome

/-! The program on a real machine. -/

set_option autoImplicit false

namespace ContractWrapper

/-- Work on the machine itself; the flag asks for debug reports too. -/
abbrev Machine := ReaderT Bool IO

/-- Some operations answer with the negated code. -/
def systemCode (code : UInt32) : Nat :=
  if code.toNat < Nat.pow 2 31 then code.toNat else Nat.pow 2 32 - code.toNat

def FileError.ofSystem (code : UInt32) (details : String) : FileError :=
  match systemCode code with
  | 2 => .notFound
  | 17 => .alreadyExists
  | 20 => .notADirectory
  | 21 => .isADirectory
  | 36 => .nameTooLong
  | _ => .other (details ++ " (os error " ++ toString (systemCode code) ++ ")")

def FileError.ofMachine (error : IO.Error) : FileError :=
  match error with
  | .noFileOrDirectory _ code details => .ofSystem code details
  | .alreadyExists _ code details => .ofSystem code details
  | .inappropriateType _ code details => .ofSystem code details
  | .permissionDenied _ code details => .ofSystem code details
  | .invalidArgument _ code details => .ofSystem code details
  | .resourceExhausted _ code details => .ofSystem code details
  | .noSuchThing _ code details => .ofSystem code details
  | .otherError code details => .ofSystem code details
  | unlisted => .other (toString unlisted)

def answerOf {α : Type} (action : IO α) : Machine (Except FileError α) := do
  match ← action.toBaseIO with
  | .ok value => return .ok value
  | .error error => return .error (.ofMachine error)

def FieldValue.shown : FieldValue → String
  | .text value => value
  | .number value => toString value
  | .flag value => toString value

def Event.line (event : Event) : String :=
  let level := match event.level with
    | .debug => "DEBUG "
    | .info => "INFO "
    | .warning => "WARN "
  level ++ event.message ++ String.join
    (event.fields.map fun (name, value) => " " ++ name ++ "=" ++ value.shown)

instance : Host Machine where
  readBytes path := answerOf (IO.FS.readBinFile path)
  isDirectory path := do
    -- A directory can be opened, but not read.
    match ← answerOf (IO.FS.withFile path .read (·.read 1)) with
    | .error .isADirectory => return true
    | _ => return false
  makeDirectory path := answerOf (IO.FS.createDir path)
  writeBytes path content := answerOf (IO.FS.writeBinFile path content)
  report event := fun verbose => do
    if verbose || event.level != .debug then IO.eprintln event.line

end ContractWrapper

open ContractWrapper in
def main (arguments : List String) : IO UInt32 := do
  let verbose := match Arguments.read arguments with
    | .ok invocation => invocation.verbose
    | .error _ => false
  let outcome ← (runProgram arguments : Machine Outcome).run verbose
  IO.print outcome.output
  IO.eprint outcome.errors
  return outcome.exitCode.toUInt32
