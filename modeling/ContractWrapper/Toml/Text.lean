import ContractWrapper.Toml.Scan

/-! TOML strings, on one line or on several, with escapes or without. -/

set_option autoImplicit false

namespace ContractWrapper.Toml

def hexDigit? (c : Char) : Option Nat :=
  if c.isDigit then some (c.toNat - '0'.toNat)
  else if 'a' ≤ c && c ≤ 'f' then some (c.toNat - 'a'.toNat + 10)
  else if 'A' ≤ c && c ≤ 'F' then some (c.toNat - 'A'.toNat + 10)
  else none

/-- A code point of exactly `count` hexadecimal digits; surrogates are no characters. -/
def codePoint (count : Nat) : Scan Char := do
  let digits ← Scan.exactly count (Scan.satisfying fun c => (hexDigit? c).isSome)
  let value := digits.foldl (fun value digit => value * 16 + (hexDigit? digit).getD 0) 0
  Scan.ensure (value < 0xD800 || (0xDFFF < value && value < 0x110000))
  return Char.ofNat value

def escape : Scan Char := do
  let _ ← Scan.char '\\'
  let letter ← Scan.satisfying fun _ => true
  match letter with
  | 'b' => return '\x08'
  | 't' => return '\t'
  | 'n' => return '\n'
  | 'f' => return '\x0c'
  | 'r' => return '\r'
  | '"' => return '"'
  | '\\' => return '\\'
  | 'u' => codePoint 4
  | 'U' => codePoint 8
  | _ => failure

def basicString : Scan (List Char) := do
  let _ ← Scan.char '"'
  let text ← Scan.many
    (Scan.satisfying (fun c => isPlain c && c != '"' && c != '\\') <|> escape)
  let _ ← Scan.char '"'
  return text

def literalString : Scan (List Char) := do
  let _ ← Scan.char '\x27'
  let text ← Scan.many (Scan.satisfying fun c => isPlain c && c != '\x27')
  let _ ← Scan.char '\x27'
  return text

/-- One or two quotes that a third one does not follow belong to a text of several lines. -/
def innerQuotes (quote : Char) : Scan (List Char) := fun text =>
  let quotes := text.takeWhile (· == quote)
  if quotes.length == 1 || quotes.length == 2 then some (quotes, text.dropWhile (· == quote))
  else none

/-- Three quotes end a text of several lines; up to two quotes before them belong to it. -/
def closingQuotes (quote : Char) : Scan (List Char) := fun text =>
  let count := (text.takeWhile (· == quote)).length
  if 3 ≤ count then
    let inside := min (count - 3) 2
    some (List.replicate inside quote, text.drop (inside + 3))
  else none

/-- A line break in a text is a line feed, however it is written. -/
def lineBreak : Scan (List Char) := do
  newline
  return ['\n']

/-- A backslash at the end of a line takes away all blanks and line breaks that follow. -/
def lineContinuation : Scan (List Char) := do
  let _ ← Scan.char '\\'
  blanks
  newline
  let blank : Scan Unit := do
    let _ ← Scan.satisfying isBlank
  let _ ← Scan.many (blank <|> newline)
  return []

/-- A text of several lines; a line break right after the opening is no part of it. -/
def multilineString (quote : Char) (piece : Scan (List Char)) : Scan (List Char) := do
  Scan.literal [quote, quote, quote]
  let _ ← Scan.attempt newline
  let pieces ← Scan.many (piece <|> lineBreak <|> innerQuotes quote)
  let last ← closingQuotes quote
  return pieces.flatten ++ last

def multilineBasicString : Scan (List Char) :=
  let plain := (fun c => [c]) <$>
    (Scan.satisfying (fun c => isPlain c && c != '"' && c != '\\') <|> escape)
  multilineString '"' (plain <|> lineContinuation)

def multilineLiteralString : Scan (List Char) :=
  multilineString '\x27' ((fun c => [c]) <$> Scan.satisfying fun c => isPlain c && c != '\x27')

def anyString : Scan (List Char) :=
  multilineBasicString <|> basicString <|> multilineLiteralString <|> literalString

end ContractWrapper.Toml
