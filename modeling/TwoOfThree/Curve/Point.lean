-- SUMMARY: Points of the secp256k1 curve and the addition of a multiple of the generator.
import TwoOfThree.Curve.Coordinate

/-!
# Curve points

A `Point` is a point of the curve other than the neutral element, given by its
two coordinates. Multiples are computed on `Projective` triples, where `(X, Y, Z)`
stands for `(X / Z^2, Y / Z^3)` and `Z = 0` for the neutral element, so that one
division at the end is enough.
-/

namespace TwoOfThree.Curve

/-- A point of the curve other than the neutral element. -/
structure Point where
  x : Nat
  y : Nat
  onCurve : OnCurve x y
deriving DecidableEq

instance : Repr Point where
  reprPrec point _ := repr (point.x, point.y)

/-- The point with these coordinates, if they satisfy the curve equation. -/
def Point.ofCoordinates? (x y : Nat) : Option Point :=
  if h : OnCurve x y then some ⟨x, y, h⟩ else none

/-- The number of points, and so the modulus of multiples. -/
def order : Nat := 0xFFFFFFFFFFFFFFFFFFFFFFFFFFFFFFFEBAAEDCE6AF48A03BBFD25E8CD0364141

def generator : Point where
  x := 0x79BE667EF9DCBBAC55A06295CE870B07029BFCDB2DCE28D959F2815B16F81798
  y := 0x483ADA7726A3C4655DA4FBFC0E1108A8FD17B448A68554199C47D08FFB10D4B8
  onCurve := by decide +kernel

/-! ## Projective triples -/

/-- A projective triple: `(X / Z^2, Y / Z^3)`, or the neutral element when `Z = 0`. -/
structure Projective where
  (X Y Z : Nat)
deriving DecidableEq, Repr

namespace Projective

open Coordinate

def neutral : Projective := ⟨1, 1, 0⟩

def double (P : Projective) : Projective :=
  if P.Z = 0 then neutral
  else
    let yy := square P.Y
    let s := 4 * P.X * yy % p
    let m := 3 * square P.X % p
    let X := sub (square m) (2 * s % p)
    let Y := sub (mul m (sub s X)) (8 * square yy % p)
    ⟨X, Y, 2 * P.Y * P.Z % p⟩

/-- The sum with a point. The three cases of the group law are told apart by comparing both
coordinates over a common denominator. -/
def addPoint (P : Projective) (Q : Point) : Projective :=
  if P.Z = 0 then ⟨Q.x, Q.y, 1⟩
  else
    let zz := square P.Z
    let u := mul Q.x zz
    let s := mul Q.y (mul zz P.Z)
    if u = P.X then
      if s = P.Y then P.double else neutral
    else
      let h := sub u P.X
      let r := sub s P.Y
      let hh := square h
      let hhh := mul h hh
      let v := mul P.X hh
      let X := sub (sub (square r) hhh) (2 * v % p)
      let Y := sub (mul r (sub v X)) (mul P.Y hhh)
      ⟨X, Y, mul P.Z h⟩

/-- The multiple `k • Q`, by doubling and adding. The first argument bounds the number of bits
of `k`. -/
def multiple : (bits : Nat) → (k : Nat) → (Q : Point) → Projective
  | 0, _, _ => neutral
  | bits + 1, k, Q =>
    let twice := (multiple bits (k / 2) Q).double
    if k % 2 = 1 then twice.addPoint Q else twice

def toPoint? (P : Projective) : Option Point :=
  if P.Z = 0 then none
  else
    let z := inv P.Z
    let zz := square z
    Point.ofCoordinates? (mul P.X zz) (mul P.Y (mul zz z))

end Projective

/-- `Q + k • generator`, unless that is the neutral element. -/
def Point.addMultiple? (Q : Point) (k : Nat) : Option Point :=
  ((Projective.multiple 256 k generator).addPoint Q).toPoint?

end TwoOfThree.Curve
