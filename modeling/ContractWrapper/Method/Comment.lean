import ContractWrapper.Error
import ContractWrapper.Method.ReturnType
import ContractWrapper.Text.Layout

/-! Documentation comments.

What there is to say about a method is collected first; the dialects then say it in their own
way. Where types are not part of the declaration the comment shows them in braces, elsewhere
it shows the interface types.
-/

set_option autoImplicit false

namespace ContractWrapper

structure CommentParameter where
  name : String
  shown : String
  tag : String
  deriving DecidableEq, Repr

structure CommentReturn where
  asyncType : String
  tags : List String
  /-- The method resolves to a transaction response rather than to the declared outputs. -/
  isTransaction : Bool
  deriving DecidableEq, Repr

structure CommentPieces where
  summary : String
  selector : String
  parameters : List CommentParameter
  returns : CommentReturn
  deriving DecidableEq, Repr

def Argument.commentParameter (table : TypeTable) (argument : Argument) : CommentParameter :=
  ⟨argument.name, argument.shown.getD table.fallback, argument.tag⟩

def commentPieces (dialect : Dialect) (method : Method) :
    Except GenerationError CommentPieces :=
  match method.outputs.literal, method.inputs.literal with
  | none, _ => .error (.precondition (.commentBeforeOutputs method.methodName))
  | some _, none => .error (.precondition (.commentBeforeInputs method.methodName))
  | some outputs, some _ =>
    .ok {
      summary := "Calls `" ++ method.signature ++ "` (" ++ method.mutability ++ ")."
      selector := method.selector
      parameters := method.inputs.arguments.map (Argument.commentParameter dialect.types)
      returns := ⟨returnTypeOf dialect outputs, method.outputs.arguments.map Argument.tag,
        !method.constant⟩ }

def braced (text : String) : String :=
  "\x7b" ++ text ++ "\x7d"

def parameterLine (dialect : Dialect) (name shown description : String) : String :=
  match dialect with
  | .javaScript => "@param " ++ braced shown ++ " " ++ name
  | .typeScript => "@param " ++ name ++ " - " ++ description

/-- The tag line of the result; a read-only method without outputs needs none in the
annotated dialect. -/
def returnLine? (dialect : Dialect) (returns : CommentReturn) : Option String :=
  match dialect, returns.isTransaction with
  | .javaScript, true => some ("@returns " ++ braced returns.asyncType ++ " transaction response")
  | .javaScript, false => some ("@returns " ++ braced returns.asyncType)
  | .typeScript, true => some "@returns transaction response"
  | .typeScript, false =>
    if returns.tags.isEmpty then none else some ("@returns " ++ ", ".intercalate returns.tags)

def tagLines (dialect : Dialect) (pieces : CommentPieces) : List String :=
  pieces.parameters.map (fun parameter =>
    parameterLine dialect parameter.name parameter.shown parameter.tag) ++
  (returnLine? dialect pieces.returns).toList

/-- An empty line sets the tags apart, if there are any. -/
def commentLines (dialect : Dialect) (pieces : CommentPieces) : List String :=
  let tags := tagLines dialect pieces
  pieces.summary :: ("Selector: " ++ pieces.selector) :: (if tags.isEmpty then [] else "" :: tags)

def commentBlock (lines : List String) : List Text.Line :=
  ⟨1, "/**"⟩ ::
    lines.map (fun line => ⟨1, if line == "" then " *" else " * " ++ line⟩) ++ [⟨1, " */"⟩]

def renderComment (settings : Settings) (pieces : CommentPieces) : String :=
  Text.renderLines settings.indent (commentBlock (commentLines settings.dialect pieces))

/-- The comment of a method whose inputs and outputs have been built. -/
def composeComment (settings : Settings) (method : Method) : Except GenerationError String :=
  (commentPieces settings.dialect method).map (renderComment settings)

end ContractWrapper
