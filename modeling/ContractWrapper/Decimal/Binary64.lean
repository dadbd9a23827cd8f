/-! Which decimal numbers are too large for the 64-bit binary floating-point format.

Digits are natural numbers, so every product below is exact.
-/

set_option autoImplicit false

namespace ContractWrapper.Binary64

/-- The nearest integer whose binary form has at most 53 significant digits; of two equally
near ones, the one with an even last digit. -/
def nearest (n : Nat) : Nat :=
  let unit := Nat.pow 2 (n.log2 + 1 - 53)
  let below := n / unit
  let twice := 2 * (n % unit)
  if unit < twice || (twice == unit && below % 2 == 1) then (below + 1) * unit else below * unit

/-- The least integer that rounds to infinity: halfway from the largest finite value to the
next power of two. -/
def overflowThreshold : Nat :=
  Nat.pow 2 1024 - Nat.pow 2 970

/-- Whether `significand * 10 ^ exponent` is too large when it is computed as the product of
the nearest representable significand and the nearest representable power of ten. -/
def productOverflows (significand : Nat) (exponent : Int) : Bool :=
  match exponent with
  | .ofNat power =>
    significand != 0 &&
      (308 < power || overflowThreshold ≤ nearest significand * nearest (Nat.pow 10 power))
  | .negSucc _ => false

/-- Whether `significand * 10 ^ exponent` itself rounds to infinity. -/
def valueOverflows (significand : Nat) (exponent : Int) : Bool :=
  match exponent with
  | .ofNat power =>
    significand != 0 && (308 < power || overflowThreshold ≤ significand * Nat.pow 10 power)
  | .negSucc power =>
    -- Fewer binary digits than decimal places leave a value below one.
    power < significand.log2 && overflowThreshold * Nat.pow 10 (power + 1) ≤ significand

end ContractWrapper.Binary64
