-- SUMMARY: Public keys in one of their two byte forms, and their order.
import TwoOfThree.Curve.Encoding
import TwoOfThree.ExtendedKey.Error

/-!
# Public keys

A public key is a curve point together with the byte form it is written in.
Keys are ordered by the short form of their points, byte by byte, whichever form
they are written in, and two keys that this order does not tell apart keep their
places when keys are sorted.
-/

namespace TwoOfThree

structure PublicKey where
  point : Curve.Point
  /-- Written in the short form. -/
  compressed : Bool
deriving DecidableEq

namespace PublicKey

/-- A key in its short form. -/
def ofPoint (point : Curve.Point) : PublicKey := ⟨point, true⟩

def bytes (key : PublicKey) : Bytes := if key.compressed then key.point.short else key.point.long

def hex (key : PublicKey) : String := Hex.encode key.bytes

/-! ## Reading -/

inductive Error where
  | badLength (length : Nat)
  | badTag (tag : UInt8)
  | curve (error : CurveError)
deriving DecidableEq, Repr

namespace Error

def message : Error → String
  | .badLength length => s!"slice length should be 33 or 65 bytes, got: {length}"
  | .badTag tag => s!"key prefix invalid: {tag.toNat}"
  | .curve _ => "secp256k1"

def causes : Error → List String
  | .badLength _ => []
  | .badTag _ => []
  | .curve error => [error.message]

end Error

/-- Read a key whose length tells which form it is in. -/
def ofBytes (bytes : Bytes) : Except Error PublicKey :=
  if bytes.length = 33 then
    match Curve.Point.ofShort? bytes with
    | some point => .ok ⟨point, true⟩
    | none => .error (.curve .malformedPublicKey)
  else if bytes.length = 65 then
    if bytes.headD 0 ≠ 4 then .error (.badTag (bytes.headD 0))
    else
      match Curve.Point.ofLong? bytes with
      | some point => .ok ⟨point, false⟩
      | none => .error (.curve .malformedPublicKey)
  else .error (.badLength bytes.length)

/-! ## Order -/

/-- Compare byte strings of one length at the first place where they differ. -/
def compareBytes : Bytes → Bytes → Ordering
  | a :: as, b :: bs =>
    match compare a b with
    | .eq => compareBytes as bs
    | order => order
  | _, _ => .eq

/-- What a key is sorted by. -/
def sortKey (key : PublicKey) : Bytes := key.point.short

def le (a b : PublicKey) : Bool := compareBytes a.sortKey b.sortKey != .gt

/-- Put a key in front of the first one that it may stand before. -/
def insertSorted (key : PublicKey) : List PublicKey → List PublicKey
  | [] => [key]
  | other :: rest => if key.le other then key :: other :: rest else other :: insertSorted key rest

/-- The keys in ascending order; equals keep their places. -/
def sort (keys : List PublicKey) : List PublicKey := keys.foldr insertSorted []

end PublicKey

end TwoOfThree
