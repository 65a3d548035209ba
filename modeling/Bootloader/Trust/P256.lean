/-!
# The curve P-256

The points of the curve y² = x³ - 3x + b over a prime field, with the point at
infinity, form a group of prime order. Coordinates and scalars are natural
numbers below the two primes.
-/

set_option autoImplicit false

namespace Bootloader.Trust.P256

/-- The prime of the field. -/
def fieldPrime : Nat :=
  0xffffffff00000001000000000000000000000000ffffffffffffffffffffffff

/-- The prime order of the group. -/
def order : Nat :=
  0xffffffff00000000ffffffffffffffffbce6faada7179e84f3b9cac2fc632551

/-- The constant term of the curve's equation. -/
def constant : Nat :=
  0x5ac635d8aa3a93e7b3ebbd55769886bc651d06b0cc53b0f63bce3c3e27d2604b

/-- A power modulo a number. -/
def powMod (base exponent modulus : Nat) : Nat :=
  if zero : exponent = 0 then 1 % modulus
  else
    let square := powMod (base * base % modulus) (exponent / 2) modulus
    if exponent % 2 = 1 then base * square % modulus else square
termination_by exponent
decreasing_by omega

/-- The inverse modulo a prime; zero has none and gives zero. -/
def inverse (number prime : Nat) : Nat :=
  powMod (number % prime) (prime - 2) prime

/-- The difference modulo a number. -/
def subMod (first second modulus : Nat) : Nat :=
  (first + (modulus - second % modulus)) % modulus

/-- A point of the curve. -/
inductive Point where
  | infinity
  | affine (x y : Nat)
  deriving DecidableEq, Repr, Inhabited

namespace Point

/-- Whether coordinates are those of a point: reduced, and on the curve. -/
def onCurve (x y : Nat) : Bool :=
  x < fieldPrime && y < fieldPrime &&
    y * y % fieldPrime == (x * x * x + constant + (fieldPrime - 3) * x) % fieldPrime

/-- The third point on the line of a given slope through two points, reflected. -/
def onLine (slope x₁ y₁ x₂ : Nat) : Point :=
  let x := subMod (slope * slope) (x₁ + x₂) fieldPrime
  affine x (subMod (slope * subMod x₁ x fieldPrime) y₁ fieldPrime)

/-- The sum of a point with itself. -/
def double : Point → Point
  | infinity => infinity
  | affine x y =>
      if y = 0 then infinity
      else
        let slope := (3 * x * x + (fieldPrime - 3)) * inverse (2 * y) fieldPrime % fieldPrime
        onLine slope x y x

/-- The sum of two points. -/
def add : Point → Point → Point
  | infinity, other => other
  | point, infinity => point
  | affine x₁ y₁, affine x₂ y₂ =>
      if x₁ = x₂ then
        if y₁ = y₂ then double (affine x₁ y₁) else infinity
      else
        let slope :=
          subMod y₂ y₁ fieldPrime * inverse (subMod x₂ x₁ fieldPrime) fieldPrime % fieldPrime
        onLine slope x₁ y₁ x₂

/-- A multiple of a point. -/
def multiply (scalar : Nat) (point : Point) : Point :=
  if zero : scalar = 0 then infinity
  else
    let rest := multiply (scalar / 2) (double point)
    if scalar % 2 = 1 then add point rest else rest
termination_by scalar
decreasing_by omega

/-- The first coordinate of a point; infinity has none. -/
def x? : Point → Option Nat
  | infinity => none
  | affine x _ => some x

end Point

/-- The generator of the group. -/
def generator : Point :=
  .affine 0x6b17d1f2e12c4247f8bce6e563a440f277037d812deb33a0f4a13945d898c296
    0x4fe342e2fe1a7f9b8ee7eb4a7c0f9e162bce33576b315ececbb6406837bf51f5

end Bootloader.Trust.P256
