-- SUMMARY: Arithmetic modulo the prime of the secp256k1 curve.

/-!
# The coordinate field

Coordinates of curve points are numbers below the prime `p = 2^256 - 2^32 - 977`.
Every operation takes and returns such numbers. Inverses and square roots are
powers, which a prime that leaves remainder 3 modulo 4 allows: `a ^ (p - 2)`
inverts `a`, and `a ^ ((p + 1) / 4)` is a square root of `a` if `a` has one.
-/

namespace TwoOfThree.Curve

/-- The prime of the coordinate field. -/
def p : Nat := 0xFFFFFFFFFFFFFFFFFFFFFFFFFFFFFFFFFFFFFFFFFFFFFFFFFFFFFFFEFFFFFC2F

namespace Coordinate

def mul (a b : Nat) : Nat := a * b % p

def square (a : Nat) : Nat := a * a % p

def sub (a b : Nat) : Nat := (a + p - b) % p

/-- Power by repeated squaring. The first argument bounds the number of bits of the exponent. -/
def powBits : (bits : Nat) → (base exponent : Nat) → Nat
  | 0, _, _ => 1
  | bits + 1, base, exponent =>
    let rest := powBits bits (square base) (exponent / 2)
    if exponent % 2 = 1 then mul rest base else rest

def pow (base exponent : Nat) : Nat := powBits 256 base exponent

def inv (a : Nat) : Nat := pow a (p - 2)

/-- A square root, if there is one. -/
def sqrtCandidate (a : Nat) : Nat := pow a ((p + 1) / 4)

end Coordinate

/-- The right side of the curve equation `y^2 = x^3 + 7`. -/
def cubic (x : Nat) : Nat := (x * x * x + 7) % p

/-- A pair of coordinates on the curve. -/
def OnCurve (x y : Nat) : Prop := x < p ∧ y < p ∧ Coordinate.square y = cubic x

instance (x y : Nat) : Decidable (OnCurve x y) := by
  unfold OnCurve
  infer_instance

end TwoOfThree.Curve
