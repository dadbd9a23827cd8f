import ContractWrapper.Decimal.Binary64
import ContractWrapper.Toml.Scan

/-! TOML integers and floating-point numbers. Their values are checked for range only. -/

set_option autoImplicit false

namespace ContractWrapper.Toml

/-- Digits, between any two of which one underscore may stand. -/
def underscored (isDigit : Char → Bool) : Scan (List Char) := do
  let first ← Scan.satisfying isDigit
  let others ← Scan.many <|
    Scan.satisfying isDigit <|> (do
      let _ ← Scan.char '_'
      Scan.satisfying isDigit)
  return first :: others

def sign : Scan (Option Char) :=
  Scan.attempt (Scan.char '+' <|> Scan.char '-')

/-- Decimal digits without a leading zero, or a single zero. -/
def decimalDigits : Scan (List Char) := do
  let zero := Scan.char '0'
  (fun c => [c]) <$> zero <|> underscored Char.isDigit

def isHexDigit (c : Char) : Bool :=
  c.isDigit || ('a' ≤ c && c ≤ 'f') || ('A' ≤ c && c ≤ 'F')

def digitValue (c : Char) : Nat :=
  if c.isDigit then c.toNat - '0'.toNat else c.toLower.toNat - 'a'.toNat + 10

def valueOf (base : Nat) (digits : List Char) : Nat :=
  digits.foldl (fun value digit => value * base + digitValue digit) 0

/-- An integer in a base that its marker names. -/
def basedInteger (marker : Char) (base : Nat) (isDigit : Char → Bool) : Scan Unit := do
  Scan.literal ['0', marker]
  let digits ← underscored isDigit
  Scan.ensure (valueOf base digits < Nat.pow 2 63)

def decimalInteger : Scan Unit := do
  let signed ← sign
  let digits ← decimalDigits
  let limit := if signed == some '-' then Nat.pow 2 63 else Nat.pow 2 63 - 1
  Scan.ensure (valueOf 10 digits ≤ limit)

def integer : Scan Unit :=
  basedInteger 'x' 16 isHexDigit <|>
    basedInteger 'o' 8 (fun c => '0' ≤ c && c ≤ '7') <|>
    basedInteger 'b' 2 (fun c => c == '0' || c == '1') <|>
    decimalInteger

def exponentPart : Scan Int := do
  let _ ← Scan.char 'e' <|> Scan.char 'E'
  let signed ← sign
  let digits ← underscored Char.isDigit
  let value : Int := valueOf 10 digits
  return if signed == some '-' then -value else value

def fractionPart : Scan (List Char) := do
  let _ ← Scan.char '.'
  underscored Char.isDigit

/-- A number with a fraction, an exponent or both. Only below zero may it round to infinity. -/
def float : Scan Unit := do
  let signed ← sign
  let whole ← decimalDigits
  let fraction ← Scan.attempt fractionPart
  let exponent ← if fraction.isSome then Scan.attempt exponentPart else some <$> exponentPart
  let places := fraction.getD []
  let shift := exponent.getD 0 - places.length
  Scan.ensure (signed == some '-' || !Binary64.valueOverflows (valueOf 10 (whole ++ places)) shift)

def namedFloat : Scan Unit := do
  let _ ← sign
  Scan.literal ['i', 'n', 'f'] <|> Scan.literal ['n', 'a', 'n']

end ContractWrapper.Toml
