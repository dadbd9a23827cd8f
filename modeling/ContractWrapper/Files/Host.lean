import ContractWrapper.Error
import ContractWrapper.Files.Path
import ContractWrapper.Trace

/-! What a command asks of the machine it runs on.

Commands are written once for every host: a real machine, or a value that stands for one.
-/

set_option autoImplicit false

namespace ContractWrapper

class Host (m : Type → Type) where
  readBytes : String → m (Except FileError ByteArray)
  isDirectory : String → m Bool
  makeDirectory : String → m (Except FileError Unit)
  writeBytes : String → ByteArray → m (Except FileError Unit)
  report : Event → m Unit

abbrev Action (m : Type → Type) := ExceptT GenerationError m

/-- A result that is reached without the host. -/
def Action.of {m : Type → Type} [Monad m] {α : Type} (result : Except GenerationError α) :
    Action m α :=
  ExceptT.mk (pure result)

namespace Host

variable {m : Type → Type} [Monad m] [Host m]

/-- An answer of the host, or the error that its refusal leads to. -/
def orFail {α : Type} (use : FileUse) (path : String) (answer : m (Except FileError α)) :
    Action m α :=
  ExceptT.mk do
    let result ← answer
    return result.mapError (.file use path)

def textOf (bytes : ByteArray) : Except FileError String :=
  match String.fromUTF8? bytes with
  | some text => .ok text
  | none => .error .notText

def readText (path : String) : m (Except FileError String) := do
  let answer ← readBytes path
  return answer >>= textOf

/-- Make a directory; one that exists already is as good as a new one. -/
def makeOrKeep (path : String) : m (Except FileError Unit) := do
  match ← makeDirectory path with
  | .ok () => return .ok ()
  | .error cause => if ← isDirectory path then return .ok () else return .error cause

/-- Make or keep the first of these directories. Where the directory around it is missing,
that one is made first; the directories around it are the rest of the list. -/
def makeEach : List String → m (Except FileError Unit)
  | [] => return .error (.other "failed to create whole tree")
  | path :: around => do
    if path == "" then return .ok ()
    match ← makeOrKeep path with
    | .error .notFound =>
      match ← makeEach around with
      | .ok () => makeOrKeep path
      | .error cause => return .error cause
    | answer => return answer

def makeDirectories (path : String) : m (Except FileError Unit) :=
  makeEach (Path.ancestors path)

/-- Report the events of a computation, and go on with its result. -/
def follow {α : Type} (traced : Traced α) : Action m α :=
  ExceptT.mk do
    traced.events.forM report
    return traced.result

end Host

end ContractWrapper
