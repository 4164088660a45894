import HouseDice.Base256

/-!
# Points of the curve ed25519

A key is a public key of somebody only if its 32 bytes are a point of the
twisted Edwards curve `-x² + y² = 1 + d·x²·y²` over the integers modulo
`2^255 - 19`. The bytes give `y`, least byte first, with the sign of `x` in the
topmost bit, so they are a point exactly if `x² = (y² - 1) / (d·y² + 1)` has a
solution. The denominator is never zero, because `-1 / d` is no square, and a
quotient is a square exactly if the product is, which Euler's criterion decides
with one power.
-/

namespace HouseDice.Curve

/-- The prime `2^255 - 19`. -/
def prime : Nat := (1 <<< 255) - 19

/-- The curve's constant `d = -121665 / 121666`. -/
def d : Nat :=
  37095705934669439343138083508754565189542113879843219016388785533085940283555

/-- The remainder of `base ^ exponent`, for an exponent of at most `bits`
bits. -/
def powMod (modulus base : Nat) : Nat → Nat → Nat
  | 0, _ => 1 % modulus
  | bits + 1, exponent =>
    let half := powMod modulus (base * base % modulus) bits (exponent / 2)
    if exponent % 2 = 1 then base * half % modulus else half

/-- Whether 32 bytes are a point of the curve. -/
def isPoint (key : Block 32) : Bool :=
  let y := Base256.value key.bytes % (1 <<< 255)
  let numerator := y * y + (prime - 1)
  let denominator := d * (y * y) + 1
  powMod prime (numerator * denominator % prime) 255 ((prime - 1) / 2)
    != prime - 1

end HouseDice.Curve
