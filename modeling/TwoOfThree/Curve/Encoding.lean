-- SUMMARY: The two byte forms of a curve point, and reading them back.
import TwoOfThree.Bytes
import TwoOfThree.Curve.Point

/-!
# Byte forms of a point

The short form is a tag for the parity of `y`, followed by `x`; the long form is
the tag 4, followed by both coordinates. Reading refuses coordinates that are not
below the field prime or not on the curve, and never yields the neutral element,
which has no byte form here.
-/

namespace TwoOfThree.Curve.Point

/-! ## Writing -/

def parityTag (point : Point) : UInt8 := if point.y % 2 = 1 then 3 else 2

def short (point : Point) : Bytes := point.parityTag :: BigEndian.encode 32 point.x

def long (point : Point) : Bytes :=
  4 :: BigEndian.encode 32 point.x ++ BigEndian.encode 32 point.y

@[simp] theorem length_short (point : Point) : point.short.length = 33 := by
  simp [short]

@[simp] theorem length_long (point : Point) : point.long.length = 65 := by
  simp [long]

/-! ## Reading -/

/-- The point with this `x` whose `y` is odd or even as asked. A root of the wrong parity is
replaced by its negative, which has the other one because the field prime is odd. -/
def ofX? (x : Nat) (odd : Bool) : Option Point :=
  let root := Coordinate.sqrtCandidate (cubic x)
  ofCoordinates? x (if (root % 2 == 1) == odd then root else p - root)

/-- Read the short form. -/
def ofShort? : Bytes → Option Point
  | [] => none
  | tag :: rest =>
    if rest.length ≠ 32 then none
    else if tag = 2 then ofX? (BigEndian.decode rest) false
    else if tag = 3 then ofX? (BigEndian.decode rest) true
    else none

/-- Read the long form. -/
def ofLong? : Bytes → Option Point
  | [] => none
  | tag :: rest =>
    if tag = 4 ∧ rest.length = 64 then
      ofCoordinates? (BigEndian.decode (rest.take 32)) (BigEndian.decode (rest.drop 32))
    else none

end TwoOfThree.Curve.Point
