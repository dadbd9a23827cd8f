/-! Hexadecimal text. -/

set_option autoImplicit false

namespace ContractWrapper.Text

/-- Lower-case hexadecimal without padding. -/
def hexadecimal (n : Nat) : String :=
  String.ofList (Nat.toDigits 16 n)

/-- The two hexadecimal digits of a byte. -/
def hexadecimalByte (byte : UInt8) : String :=
  hexadecimal (byte.toNat / 16) ++ hexadecimal (byte.toNat % 16)

end ContractWrapper.Text
