import ContractWrapper.Json
import ContractWrapper.Json.Number
import ContractWrapper.Json.Problem

/-! The JSON reader.

The reader is a machine that takes one character at a time and stops at the first problem.
Its state holds the arrays and objects that are still open and what is being read inside the
innermost one. What the text may not end in is decided by the state reached at its end.
-/

set_option autoImplicit false

namespace ContractWrapper.Json.Reader

/-- An open array or object with its earlier contents in reverse. The key is the one whose
value is being read. -/
inductive Frame where
  | array (before : List Json)
  | object (before : List (String × Json)) (key : String)

inductive ValueStart where
  | top
  | bracket
  | comma
  | colon
  deriving DecidableEq

/-- What a string is read for: a value, or the next key of an object. -/
inductive StringUse where
  | value
  | key (members : List (String × Json))

/-- Where a string is inside an escape. A pair of escapes that stands for one character
carries the first half along. -/
inductive Escape where
  | none
  | backslash
  | hex (high : Option Nat) (digits : List Char)
  | pairBackslash (high : Nat)
  | pairLetter (high : Nat)

inductive NumberPart where
  | minus
  | zero
  | whole
  | point
  | fraction
  | exponentMark
  | exponentSign
  | exponent
  deriving DecidableEq

inductive Mode where
  | value (start : ValueStart)
  | key (members : List (String × Json)) (afterComma : Bool)
  | colon (members : List (String × Json)) (key : String)
  | string (use : StringUse) (read : List Char) (escape : Escape)
  | literal (remaining : List Char) (value : Json)
  | number (part : NumberPart) (read : List Char)
  | after (value : Json)

structure State where
  frames : List Frame
  mode : Mode

def initial : State :=
  ⟨[], .value .top⟩

/-- Arrays and objects may be nested one less deep than this. -/
def nestingLimit : Nat := 128

def isBlank (c : Char) : Bool :=
  c == ' ' || c == '\n' || c == '\t' || c == '\r'

def hexDigit? (c : Char) : Option Nat :=
  if c.isDigit then some (c.toNat - '0'.toNat)
  else if 'a' ≤ c && c ≤ 'f' then some (c.toNat - 'a'.toNat + 10)
  else if 'A' ≤ c && c ≤ 'F' then some (c.toNat - 'A'.toNat + 10)
  else none

def hexValue? (digits : List Char) : Option Nat :=
  digits.foldlM (fun value digit => (hexDigit? digit).map (value * 16 + ·)) 0

def isLowSurrogate (n : Nat) : Bool := 0xDC00 ≤ n && n ≤ 0xDFFF

def isHighSurrogate (n : Nat) : Bool := 0xD800 ≤ n && n ≤ 0xDBFF

def opening (state : State) (next : State) : Except Problem State :=
  if state.frames.length + 1 < nestingLimit then .ok next else .error .nestedTooDeeply

def startValue (state : State) (start : ValueStart) (c : Char) : Except Problem State :=
  if isBlank c then .ok state
  else if c.isDigit then
    .ok { state with mode := .number (if c == '0' then .zero else .whole) [c] }
  else
    match c with
    | '"' => .ok { state with mode := .string .value [] .none }
    | '-' => .ok { state with mode := .number .minus [c] }
    | '[' => opening state ⟨.array [] :: state.frames, .value .bracket⟩
    | '{' => opening state ⟨state.frames, .key [] false⟩
    | 't' => .ok { state with mode := .literal ['r', 'u', 'e'] (.bool true) }
    | 'f' => .ok { state with mode := .literal ['a', 'l', 's', 'e'] (.bool false) }
    | 'n' => .ok { state with mode := .literal ['u', 'l', 'l'] .null }
    | ']' =>
      match start, state.frames with
      | .bracket, _ :: frames => .ok ⟨frames, .after (.array [])⟩
      | .comma, _ => .error .trailingComma
      | _, _ => .error .valueExpected
    | _ => .error .valueExpected

def startKey (state : State) (members : List (String × Json)) (afterComma : Bool) (c : Char) :
    Except Problem State :=
  if isBlank c then .ok state
  else
    match c with
    | '"' => .ok { state with mode := .string (.key members) [] .none }
    | '}' =>
      if afterComma then .error .trailingComma
      else .ok { state with mode := .after (.object members.reverse) }
    | _ => .error .keyExpected

def afterKey (state : State) (members : List (String × Json)) (key : String) (c : Char) :
    Except Problem State :=
  if isBlank c then .ok state
  else if c == ':' then .ok ⟨.object members key :: state.frames, .value .colon⟩
  else .error .colonExpected

/-- A complete value waits for what the innermost open array or object has next. -/
def afterValue (state : State) (value : Json) (c : Char) : Except Problem State :=
  if isBlank c then .ok { state with mode := .after value }
  else
    match state.frames with
    | [] => .error .trailingCharacters
    | .array before :: frames =>
      match c with
      | ',' => .ok ⟨.array (value :: before) :: frames, .value .comma⟩
      | ']' => .ok ⟨frames, .after (.array (value :: before).reverse)⟩
      | _ => .error .commaOrBracketExpected
    | .object before key :: frames =>
      match c with
      | ',' => .ok ⟨frames, .key ((key, value) :: before) true⟩
      | '}' => .ok ⟨frames, .after (.object ((key, value) :: before).reverse)⟩
      | _ => .error .commaOrBraceExpected

def endString (state : State) (use : StringUse) (read : List Char) : State :=
  let text := String.ofList read.reverse
  match use with
  | .value => { state with mode := .after (.string text) }
  | .key members => { state with mode := .colon members text }

def shortEscape? : Char → Option Char
  | '"' => some '"'
  | '\\' => some '\\'
  | '/' => some '/'
  | 'b' => some '\x08'
  | 'f' => some '\x0c'
  | 'n' => some '\n'
  | 'r' => some '\r'
  | 't' => some '\t'
  | _ => none

def applyHex (read : List Char) (high : Option Nat) (unit : Nat) :
    Except Problem (List Char × Escape) :=
  match high with
  | none =>
    if isLowSurrogate unit then .error .loneSurrogate
    else if isHighSurrogate unit then .ok (read, .pairBackslash unit)
    else .ok (Char.ofNat unit :: read, .none)
  | some first =>
    if isLowSurrogate unit then
      .ok (Char.ofNat (0x10000 + (first - 0xD800) * 0x400 + (unit - 0xDC00)) :: read, .none)
    else .error .loneSurrogate

-- The digits are judged once four bytes have been seen, whatever characters these are.
def continueHex (read : List Char) (high : Option Nat) (digits : List Char) (c : Char) :
    Except Problem (List Char × Escape) :=
  let seen := c :: digits
  if (String.ofList seen).utf8ByteSize < 4 then .ok (read, .hex high seen)
  else
    match hexValue? seen.reverse with
    | some unit => applyHex read high unit
    | none => .error .invalidEscape

def continueString (state : State) (use : StringUse) (read : List Char) (escape : Escape)
    (c : Char) : Except Problem State :=
  let resume (step : List Char × Escape) : State :=
    { state with mode := .string use step.1 step.2 }
  match escape with
  | .none =>
    if c == '"' then .ok (endString state use read)
    else if c == '\\' then .ok (resume (read, .backslash))
    else if c.toNat < 0x20 then .error .controlCharacter
    else .ok (resume (c :: read, .none))
  | .backslash =>
    if c == 'u' then .ok (resume (read, .hex none []))
    else
      match shortEscape? c with
      | some meant => .ok (resume (meant :: read, .none))
      | none => .error .invalidEscape
  | .hex high digits => (continueHex read high digits c).map resume
  | .pairBackslash high =>
    if c == '\\' then .ok (resume (read, .pairLetter high)) else .error .unfinishedSurrogatePair
  | .pairLetter high =>
    if c == 'u' then .ok (resume (read, .hex (some high) []))
    else .error .unfinishedSurrogatePair

def continueLiteral (state : State) (remaining : List Char) (value : Json) (c : Char) :
    Except Problem State :=
  match remaining with
  | [] => .error .literalExpected
  | expected :: rest =>
    if c != expected then .error .literalExpected
    else if rest.isEmpty then .ok { state with mode := .after value }
    else .ok { state with mode := .literal rest value }

def NumberPart.next? (part : NumberPart) (c : Char) : Option NumberPart :=
  let isMark := c == 'e' || c == 'E'
  match part with
  | .minus => if c == '0' then some .zero else if c.isDigit then some .whole else none
  | .zero => if c == '.' then some .point else if isMark then some .exponentMark else none
  | .whole =>
    if c.isDigit then some .whole
    else if c == '.' then some .point
    else if isMark then some .exponentMark
    else none
  | .point => if c.isDigit then some .fraction else none
  | .fraction =>
    if c.isDigit then some .fraction else if isMark then some .exponentMark else none
  | .exponentMark =>
    if c.isDigit then some .exponent
    else if c == '+' || c == '-' then some .exponentSign
    else none
  | .exponentSign => if c.isDigit then some .exponent else none
  | .exponent => if c.isDigit then some .exponent else none

def NumberPart.isComplete : NumberPart → Bool
  | .zero | .whole | .fraction | .exponent => true
  | .minus | .point | .exponentMark | .exponentSign => false

def endNumber (read : List Char) : Except Problem Json :=
  if literalOverflows read.reverse then .error .numberOutOfRange
  else .ok (.number (String.ofList read.reverse))

def continueNumber (state : State) (part : NumberPart) (read : List Char) (c : Char) :
    Except Problem State :=
  match part.next? c with
  | some next => .ok { state with mode := .number next (c :: read) }
  | none =>
    -- A digit after a leading zero is no separate value.
    if !part.isComplete || c.isDigit then .error .invalidNumber
    else do
      let value ← endNumber read
      afterValue state value c

def step (state : State) (c : Char) : Except Problem State :=
  match state.mode with
  | .value start => startValue state start c
  | .key members afterComma => startKey state members afterComma c
  | .colon members key => afterKey state members key c
  | .string use read escape => continueString state use read escape c
  | .literal remaining value => continueLiteral state remaining value c
  | .number part read => continueNumber state part read c
  | .after value => afterValue state value c

def endAfterValue (frames : List Frame) (value : Json) : Except Problem Json :=
  match frames with
  | [] => .ok value
  | .array _ :: _ => .error .endInArray
  | .object _ _ :: _ => .error .endInObject

def finish (state : State) : Except Problem Json :=
  match state.mode with
  | .value .bracket => .error .endInArray
  | .value _ => .error .endInValue
  | .key _ false => .error .endInObject
  | .key _ true => .error .endInValue
  | .colon _ _ => .error .endInObject
  | .string _ _ _ => .error .endInString
  | .literal _ _ => .error .endInValue
  | .number part read =>
    if part.isComplete then do
      let value ← endNumber read
      endAfterValue state.frames value
    else .error .endInValue
  | .after value => endAfterValue state.frames value

end Reader

/-- The value that a text holds, or its first problem from the left. -/
def read (text : String) : Except Problem Json := do
  let final ← text.toList.foldlM Reader.step Reader.initial
  Reader.finish final

end ContractWrapper.Json
