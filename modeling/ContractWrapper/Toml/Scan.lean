/-! Scanning text from the left.

A scan takes a beginning off a text or fails. Alternatives start at the same place, and
repetition ends where a round fails or takes nothing.
-/

set_option autoImplicit false

namespace ContractWrapper.Toml

abbrev Scan := StateT (List Char) Option

namespace Scan

variable {α : Type}

def satisfying (accepts : Char → Bool) : Scan Char
  | c :: rest => if accepts c then some (c, rest) else none
  | [] => none

def char (expected : Char) : Scan Char :=
  satisfying (· == expected)

def literal : List Char → Scan Unit
  | [] => pure ()
  | c :: rest => do
    let _ ← char c
    literal rest

def endOfText : Scan Unit
  | [] => some ((), [])
  | _ => none

def manyFrom (step : Scan α) (text : List Char) : List α × List Char :=
  match step text with
  | some (first, rest) =>
    if rest.length < text.length then
      let (others, final) := manyFrom step rest
      (first :: others, final)
    else ([], text)
  | none => ([], text)
termination_by text.length

def many (step : Scan α) : Scan (List α) :=
  fun text => some (manyFrom step text)

def exactly (count : Nat) (step : Scan α) : Scan (List α) :=
  match count with
  | 0 => pure []
  | count + 1 => do
    let first ← step
    let others ← exactly count step
    return first :: others

def attempt (step : Scan α) : Scan (Option α) :=
  (some <$> step) <|> pure none

def ensure (condition : Bool) : Scan Unit :=
  if condition then pure () else failure

end Scan

def isBlank (c : Char) : Bool := c == ' ' || c == '\t'

def blanks : Scan Unit := do
  let _ ← Scan.many (Scan.satisfying isBlank)

def newline : Scan Unit :=
  Scan.literal ['\n'] <|> Scan.literal ['\r', '\n']

/-- A tab, or a character that is no control. -/
def isPlain (c : Char) : Bool :=
  c == '\t' || (0x20 ≤ c.toNat && c.toNat != 0x7F)

def comment : Scan Unit := do
  let _ ← Scan.char '#'
  let _ ← Scan.many (Scan.satisfying isPlain)

/-- Blanks, line ends and comments, as they may stand between the items of an array. -/
def layout : Scan Unit := do
  let blank : Scan Unit := do
    let _ ← Scan.satisfying isBlank
  let commentLine : Scan Unit := do
    comment
    newline
  let _ ← Scan.many (blank <|> newline <|> commentLine)

end ContractWrapper.Toml
