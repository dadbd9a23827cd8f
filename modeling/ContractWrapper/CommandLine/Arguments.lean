import ContractWrapper.CommandLine.Command

/-! Reading the arguments of a command line.

Arguments are taken from left to right. An option that takes a value waits for it, and is
entered only when the next option, the path or the end is reached. The first fault that comes
up this way is the one reported.
-/

set_option autoImplicit false

namespace ContractWrapper.Arguments

inductive OptionName where
  | dialect
  | framework
  | className
  | out
  | settings
  | overloads
  | noDocs
  | dryRun
  | verbose
  | help
  | version
  deriving DecidableEq, Repr

/-- The places where arguments stand: in front of a subcommand, or behind one. -/
inductive Place where
  | front
  | generate
  | inspect
  deriving DecidableEq, Repr

def OptionName.takesValue : OptionName → Bool
  | .dialect | .framework | .className | .out | .settings | .overloads => true
  | .noDocs | .dryRun | .verbose | .help | .version => false

def OptionName.long : OptionName → String
  | .dialect => "dialect"
  | .framework => "framework"
  | .className => "name"
  | .out => "out"
  | .settings => "config"
  | .overloads => "overloads"
  | .noDocs => "no-docs"
  | .dryRun => "dry-run"
  | .verbose => "verbose"
  | .help => "help"
  | .version => "version"

def OptionName.short? : OptionName → Option Char
  | .out => some 'o'
  | .verbose => some 'v'
  | .help => some 'h'
  | .version => some 'V'
  | _ => none

def Place.options : Place → List OptionName
  | .front => [.verbose, .help, .version]
  | .generate =>
    [.dialect, .framework, .className, .out, .settings, .overloads, .noDocs, .dryRun, .verbose,
      .help]
  | .inspect => [.settings, .overloads, .verbose, .help]

def Place.long? (place : Place) (name : String) : Option OptionName :=
  place.options.find? fun option => option.long == name

def Place.short? (place : Place) (letter : Char) : Option OptionName :=
  place.options.find? fun option => option.short? == some letter

structure Waiting where
  option : OptionName
  value : Option String

structure State where
  flags : List OptionName
  values : List (OptionName × String)
  path : Option String
  waiting : Option Waiting
  /-- Two dashes have been read, so that options are over. -/
  optionsOver : Bool

def State.initial : State := ⟨[], [], none, none, false⟩

def State.enter (state : State) (option : OptionName) (value : String) :
    Except Refusal State :=
  if (state.values.lookup option).isSome then .error .repeatedArgument
  else .ok { state with values := (option, value) :: state.values }

def State.settle (state : State) : Except Refusal State :=
  match state.waiting with
  | none => .ok state
  | some ⟨_, none⟩ => .error .missingValue
  | some ⟨option, some value⟩ => { state with waiting := none }.enter option value

def State.raise (state : State) (flag : OptionName) : Except Refusal State := do
  let settled ← state.settle
  match flag with
  | .help => .error .help
  | .version => .error .version
  | _ =>
    if settled.flags.contains flag then .error .repeatedArgument
    else .ok { settled with flags := flag :: settled.flags }

def State.assign (state : State) (option : OptionName) (value : String) :
    Except Refusal State := do
  let settled ← state.settle
  settled.enter option value

def State.await (state : State) (option : OptionName) : Except Refusal State := do
  let settled ← state.settle
  return { settled with waiting := some ⟨option, none⟩ }

/-- A name, and what follows the first equals sign in it. -/
def splitAssignment (text : List Char) : String × Option String :=
  (String.ofList (text.takeWhile (· != '=')),
    match text.dropWhile (· != '=') with
    | [] => none
    | _ :: value => some (String.ofList value))

def State.readLong (state : State) (place : Place) (text : List Char) : Except Refusal State :=
  let (name, value) := splitAssignment text
  match place.long? name with
  | none => .error .unknownArgument
  | some option =>
    match option.takesValue, value with
    | true, some value => state.assign option value
    | true, none => state.await option
    | false, some _ => .error .unexpectedValue
    | false, none => state.raise option

/-- Letters behind one dash: flags, and at last an option, whose value may follow at once. -/
def State.readShort (state : State) (place : Place) : List Char → Except Refusal State
  | [] => .ok state
  | letter :: rest =>
    match place.short? letter with
    | none => .error .unknownArgument
    | some option =>
      if option.takesValue then
        match rest with
        | [] => state.await option
        | '=' :: value => state.assign option (String.ofList value)
        | value => state.assign option (String.ofList value)
      else do
        let raised ← state.raise option
        readShort raised place rest

/-- An argument that is no option: the value waited for, or else the path. -/
def State.readPlain (state : State) (argument : String) : Except Refusal State :=
  match state.waiting, state.optionsOver, state.path with
  | some ⟨option, none⟩, false, _ => .ok { state with waiting := some ⟨option, some argument⟩ }
  | _, _, some _ => .error .unknownArgument
  | _, _, none => do
    let settled ← state.settle
    return { settled with path := some argument }

def State.read (place : Place) (state : State) (argument : String) : Except Refusal State :=
  if state.optionsOver then state.readPlain argument
  else
    match argument.toList with
    | ['-', '-'] => .ok { state with optionsOver := true }
    | '-' :: '-' :: name => state.readLong place name
    | '-' :: letter :: letters => state.readShort place (letter :: letters)
    | _ => state.readPlain argument

/-- The arguments behind a subcommand, with the path that each subcommand needs. -/
def readSubcommand (place : Place) (arguments : List String) :
    Except Refusal (State × String) := do
  let read ← arguments.foldlM (State.read place) State.initial
  let settled ← read.settle
  match settled.path with
  | some path => return (settled, path)
  | none => .error .missingArgument

def generateRequest (state : State) (path : String) : GenerateRequest where
  interfacePath := path
  dialect := state.values.lookup .dialect
  framework := state.values.lookup .framework
  className := state.values.lookup .className
  out := state.values.lookup .out
  settingsPath := state.values.lookup .settings
  overloads := state.values.lookup .overloads
  noDocs := state.flags.contains .noDocs
  dryRun := state.flags.contains .dryRun

def inspectRequest (state : State) (path : String) : InspectRequest where
  interfacePath := path
  settingsPath := state.values.lookup .settings
  overloads := state.values.lookup .overloads

/-- The command behind a subcommand. The verbose flag counts on both sides of it. -/
def readInvocation (front : State) (place : Place) (command : State → String → Command)
    (arguments : List String) : Except Refusal Invocation := do
  let (state, path) ← readSubcommand place arguments
  return ⟨(front.flags ++ state.flags).contains .verbose, command state path⟩

/-- Help is asked for about the program, or about one subcommand named after `help`. -/
def readHelp : List String → Refusal
  | [] | ["generate"] | ["inspect"] | ["help"] => .help
  | _ => .unknownSubcommand

def isSubcommand (argument : String) : Bool :=
  argument == "generate" || argument == "inspect" || argument == "help"

/-- The arguments in front of a subcommand, and what follows. -/
def readFront (state : State) : List String → Except Refusal Invocation
  | [] => .error (if state.flags.isEmpty then .nothingAsked else .missingSubcommand)
  | argument :: rest =>
    if state.optionsOver then
      .error (if isSubcommand argument then .unknownArgument else .unknownSubcommand)
    else
      match argument with
      | "generate" =>
        readInvocation state .generate (fun read path => .generate (generateRequest read path)) rest
      | "inspect" =>
        readInvocation state .inspect (fun read path => .inspect (inspectRequest read path)) rest
      | "help" => .error (readHelp rest)
      | _ =>
        match argument.toList with
        | ['-', '-'] => readFront { state with optionsOver := true } rest
        | '-' :: '-' :: name => do
          let next ← state.readLong .front name
          readFront next rest
        | '-' :: letter :: letters => do
          let next ← state.readShort .front (letter :: letters)
          readFront next rest
        | _ => .error .unknownSubcommand

def read (arguments : List String) : Except Refusal Invocation :=
  readFront State.initial arguments

end ContractWrapper.Arguments
