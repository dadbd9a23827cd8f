import ContractWrapper.CommandLine.Command
import ContractWrapper.Files.Host
import ContractWrapper.Inspect
import ContractWrapper.Settings.Document
import ContractWrapper.Wrapper

/-! Running the commands.

Settings are settled first, then the interface is read and the wrapper made, and only then is
anything written.
-/

set_option autoImplicit false

namespace ContractWrapper

variable {m : Type → Type} [Monad m] [Host m]

/-- The settings of a file, or the default ones without a file. -/
def baseSettings (path : Option String) : Action m Settings :=
  match path with
  | none => return {}
  | some path => do
    let text ← Host.orFail .readSettings path (Host.readText path)
    Action.of (Settings.ofText text)

namespace GenerateRequest

/-- What the request asks for takes the place of `settings`; the outcome is checked. -/
def adjust (request : GenerateRequest) (settings : Settings) :
    Except SettingsError Settings := do
  let dialect ← (request.dialect.map Dialect.ofRequest).getD (.ok settings.dialect)
  let framework ← (request.framework.map Framework.ofRequest).getD (.ok settings.framework)
  let overloadPolicy ←
    (request.overloads.map OverloadPolicy.ofRequest).getD (.ok settings.overloadPolicy)
  let adjusted := { settings with
    dialect
    framework
    className := request.className.or settings.className
    overloadPolicy
    emitDocs := settings.emitDocs && !request.noDocs }
  adjusted.validate
  return adjusted

def settings (request : GenerateRequest) : Action m Settings := do
  let base ← baseSettings request.settingsPath
  Action.of ((request.adjust base).mapError .settings)

end GenerateRequest

def readInterface (path : String) : Action m Interface := do
  let text ← Host.orFail .readInterface path (Host.readText path)
  Host.follow (Interface.ofText text)

/-- Where a wrapper is written: to the path asked for, into the directory asked for, or next to
the interface. -/
def outputPath (interfacePath : String) (out : Option String) (outIsDirectory : Bool)
    (fileName : String) : String :=
  match out with
  | some path => if outIsDirectory then Path.join path fileName else path
  | none => Path.join ((Path.parent? interfacePath).getD ".") fileName

def writeWrapper (path source : String) : Action m Unit := do
  match Path.parent? path with
  | none | some "" => pure ()
  | some directory =>
    Host.orFail .createDirectory directory (Host.makeDirectories directory)
  Host.orFail .writeWrapper path (Host.writeBytes path source.toUTF8)

/-- Make the wrapper of an interface file, and find out where it belongs. -/
def prepareWrapper (settings : Settings) (interfacePath : String) (out : Option String) :
    Action m (String × Wrapper) := do
  let description ← readInterface interfacePath
  let wrapper ← Host.follow
    (Wrapper.ofInterface settings (Path.fileStem? interfacePath) description)
  let outIsDirectory ← match out with
    | some path => (Host.isDirectory path : m Bool)
    | none => pure false
  return (outputPath interfacePath out outIsDirectory wrapper.fileName, wrapper)

def dryRunText (path source : String) : String :=
  "\n--- " ++ path ++ " ---\n" ++ source ++ "\n"

def runGenerate (request : GenerateRequest) : Action m String := do
  let settings ← request.settings
  let (path, wrapper) ← prepareWrapper settings request.interfacePath request.out
  if request.dryRun then return dryRunText path wrapper.source
  else
    writeWrapper path wrapper.source
    return "Generated " ++ path ++ "\n"

/-- The policy asked for; a settings file is read only if none is. -/
def inspectPolicy (request : InspectRequest) : Action m OverloadPolicy :=
  match request.overloads with
  | some policy => Action.of ((OverloadPolicy.ofRequest policy).mapError .settings)
  | none => do
    let settings ← baseSettings request.settingsPath
    return settings.overloadPolicy

def runInspect (request : InspectRequest) : Action m String := do
  let policy ← inspectPolicy request
  let description ← readInterface request.interfacePath
  Host.follow (inspectReport policy description.functions)

def runCommand : Command → Action m String
  | .generate request => runGenerate request
  | .inspect request => runInspect request

end ContractWrapper
