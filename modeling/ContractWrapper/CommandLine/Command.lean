/-! What can be asked for on the command line. -/

set_option autoImplicit false

namespace ContractWrapper

/-- The options of a generation; an absent one leaves a setting as it is. -/
structure GenerateRequest where
  interfacePath : String
  dialect : Option String
  framework : Option String
  className : Option String
  out : Option String
  settingsPath : Option String
  overloads : Option String
  noDocs : Bool
  dryRun : Bool
  deriving DecidableEq, Repr

structure InspectRequest where
  interfacePath : String
  settingsPath : Option String
  overloads : Option String
  deriving DecidableEq, Repr

inductive Command where
  | generate (request : GenerateRequest)
  | inspect (request : InspectRequest)
  deriving DecidableEq, Repr

structure Invocation where
  verbose : Bool
  command : Command
  deriving DecidableEq, Repr

/-- Why no command is run: the arguments ask for something else, or they are wrong. -/
inductive Refusal where
  | help
  | version
  | nothingAsked
  | missingSubcommand
  | missingArgument
  | unknownSubcommand
  | unknownArgument
  | missingValue
  | unexpectedValue
  | repeatedArgument
  deriving DecidableEq, Repr

end ContractWrapper
