-- SUMMARY: Bech32 text: five-bit groups, their checksum, and version 0 witness programs.
import TwoOfThree.Bytes

/-!
# Bech32

A human-readable part and a list of five-bit groups are written as text that ends
in a checksum of six groups. The checksum is a remainder of polynomials over the
five-bit groups: `polymod` folds one group after another into thirty bits, and the
six groups are chosen so that the whole text leaves the remainder 1.

A witness program is regrouped from eight to five bits, the last group filled up
with zeros, and put behind a group that holds its version.
-/

namespace TwoOfThree.Bech32

/-- A five-bit group. -/
abbrev Group := BitVec 5

/-! ## Checksum -/

/-- What each of the five bits that leave the register folds back into it, and its place. -/
def feedback : List (Nat × BitVec 30) :=
  [(25, 0x3b6a57b2), (26, 0x26508e6d), (27, 0x1ea119fa), (28, 0x3d4233dd), (29, 0x2a1462b3)]

/-- What a bit folds back if it is set. -/
def foldBack (register : BitVec 30) : Nat × BitVec 30 → BitVec 30
  | (place, term) => if register.getLsbD place then term else 0

/-- Shift one group into the register. -/
def step (register : BitVec 30) (group : Group) : BitVec 30 :=
  (feedback.map (foldBack register)).foldl (· ^^^ ·) ((register <<< 5) ^^^ group.setWidth 30)

def polymod (groups : List Group) : BitVec 30 := groups.foldl step 1

/-- The human-readable part as groups: the high bits of its characters, zero, the low bits. -/
def expand (humanPart : List Char) : List Group :=
  humanPart.map (fun c => BitVec.ofNat 5 (c.toNat / 32)) ++ 0 ::
    humanPart.map (fun c => BitVec.ofNat 5 (c.toNat % 32))

/-- The six groups of a register, most significant first. -/
def registerGroups (register : BitVec 30) : List Group :=
  [25, 20, 15, 10, 5, 0].map fun i => register.extractLsb' i 5

def checksum (humanPart : List Char) (data : List Group) : List Group :=
  registerGroups (polymod (expand humanPart ++ data ++ List.replicate 6 0) ^^^ 1)

/-! ## Text -/

def alphabet : List Char := "qpzry9x8gf2tvdw0s3jn54khce6mua7l".toList

def symbol (group : Group) : Char := alphabet.getD group.toNat 'q'

def encode (humanPart : List Char) (data : List Group) : List Char :=
  humanPart ++ '1' :: (data ++ checksum humanPart data).map symbol

/-! ## Witness programs -/

/-- The bits of a byte, most significant first. -/
def byteBits (byte : UInt8) : List Bool := [7, 6, 5, 4, 3, 2, 1, 0].map byte.toNat.testBit

/-- The group with these bits, most significant first. -/
def groupOfBits (bits : List Bool) : Group :=
  BitVec.ofNat 5 (bits.foldl (fun n bit => 2 * n + bit.toNat) 0)

/-- The bytes regrouped, with zero bits after the last one to fill its group. -/
def regroup (bytes : Bytes) : List Group :=
  let bits := bytes.flatMap byteBits
  let count := (bits.length + 4) / 5
  (chunks 5 count (bits ++ List.replicate (5 * count - bits.length) false)).map groupOfBits

/-- The address text of a version 0 witness program. -/
def encodeWitness (humanPart : List Char) (program : Bytes) : List Char :=
  encode humanPart (0 :: regroup program)

end TwoOfThree.Bech32
