import ContractWrapper.Method.Call
import ContractWrapper.Method.Comment
import ContractWrapper.Method.Declaration

/-! The stages that fill in a method.

Each stage reads what earlier ones wrote and writes one field. A stage that is started too
early fails and leaves the method as it was.
-/

set_option autoImplicit false

namespace ContractWrapper

inductive Stage where
  | inputs
  | outputs
  | body
  | comment
  | declaration
  deriving DecidableEq, Repr

/-- One stage on one method. -/
def Method.advance (settings : Settings) (composer : BodyComposer) (method : Method) :
    Stage → Except GenerationError Method
  | .inputs => .ok { method with
      inputs := buildInputs settings.dialect settings.placeholderStem method.inputs.arguments }
  | .outputs => .ok { method with
      outputs := buildOutputs settings.dialect method.constant method.outputs.arguments }
  | .body => (composer settings method).map fun text => { method with body := some text }
  | .comment =>
    (composeComment settings method).map fun text => { method with comment := some text }
  | .declaration =>
    (composeDeclaration settings method).map fun text => { method with declaration := some text }

/-- The stages of a complete method, in an order in which none comes too early. -/
def stagesOf (settings : Settings) : List Stage :=
  [.inputs, .outputs, .body] ++ (if settings.emitDocs then [.comment] else []) ++ [.declaration]

/-- All stages on one method. -/
def Method.assemble (settings : Settings) (composer : BodyComposer) (method : Method) :
    Except GenerationError Method :=
  (stagesOf settings).foldlM (Method.advance settings composer) method

/-- One stage on the method at a position; a position without a method changes nothing. -/
def advanceAt (settings : Settings) (composer : BodyComposer) (methods : List Method)
    (stage : Stage) (position : Nat) : Except GenerationError (List Method) :=
  match methods[position]? with
  | none => .ok methods
  | some method =>
    (method.advance settings composer stage).map fun advanced => methods.set position advanced

/-- A run of stages in which failing ones are passed over. -/
def runStages (settings : Settings) (composer : BodyComposer) (methods : List Method)
    (run : List (Stage × Nat)) : List Method :=
  run.foldl (fun methods (stage, position) =>
    match advanceAt settings composer methods stage position with
    | .ok advanced => advanced
    | .error _ => methods) methods

end ContractWrapper
