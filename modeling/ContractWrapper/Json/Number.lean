import ContractWrapper.Decimal.Binary64

/-! The range of JSON number literals.

A reader keeps as many leading digits as fit in 64 bits and counts the rest of the whole
part as powers of ten; the literal is in range when their product is finite.
-/

set_option autoImplicit false

namespace ContractWrapper.Json

/-- Append digits to a significand while it stays below 2 ^ 64; also how many were left out. -/
def appendDigits (significand : Nat) : List Char → Nat × Nat
  | [] => (significand, 0)
  | digit :: rest =>
    let longer := significand * 10 + (digit.toNat - '0'.toNat)
    if longer < 2 ^ 64 then appendDigits longer rest else (significand, rest.length + 1)

/-- The exponent of a literal, from the characters after its digits. -/
def writtenExponent : List Char → Int
  | _ :: '-' :: digits => -(Nat.ofDigitChars 10 digits 0 : Int)
  | _ :: '+' :: digits => Nat.ofDigitChars 10 digits 0
  | _ :: digits => Nat.ofDigitChars 10 digits 0
  | [] => 0

/-- Whether a well-formed literal is too large; its sign does not matter. -/
def literalOverflows (literal : List Char) : Bool :=
  let unsigned := literal.dropWhile (· == '-')
  let whole := unsigned.takeWhile Char.isDigit
  let afterWhole := unsigned.dropWhile Char.isDigit
  let fraction := match afterWhole with
    | '.' :: digits => digits.takeWhile Char.isDigit
    | _ => []
  let afterFraction := afterWhole.dropWhile fun c => c == '.' || c.isDigit
  let (wholeDigits, skippedWhole) := appendDigits 0 whole
  let (significand, skippedFraction) := appendDigits wholeDigits fraction
  let shift := (skippedWhole : Int) - (fraction.length - skippedFraction : Nat)
  Binary64.productOverflows significand (shift + writtenExponent afterFraction)

end ContractWrapper.Json
