-- SUMMARY: Reading Bech32 text and version 0 witness addresses, with every check that the format asks for.
import TwoOfThree.Encoding.Bech32

/-!
# Reading Bech32

The reader takes text of at most ninety printable characters in one case, splits
it at the last separator, looks every symbol up in the alphabet and checks that
the whole leaves the remainder 1. A witness address has a version group in front;
the other groups are regrouped to bytes, and what is left over has to be fewer
than five bits, all zero.
-/

namespace TwoOfThree.Bech32

/-! ## Text -/

/-- The greatest number of characters of a text. -/
def textLimit : Nat := 90

/-- The number of groups of a checksum. -/
def checksumGroups : Nat := 6

def isPrintable (c : Char) : Bool := 33 ≤ c.toNat && c.toNat ≤ 126

/-- The text in lower case, unless its cases are mixed. -/
def foldCase? (cs : List Char) : Option (List Char) :=
  if cs.any Char.isUpper && cs.any Char.isLower then none else some (cs.map Char.toLower)

/-- What stands before the last separator and behind it. -/
def splitLast? (cs : List Char) : Option (List Char × List Char) :=
  let behind := (cs.reverse.takeWhile (· != '1')).reverse
  match cs.reverse.dropWhile (· != '1') with
  | [] => none
  | _ :: before => some (before.reverse, behind)

def symbolValue? (c : Char) : Option Group := (alphabet.idxOf? c).map (BitVec.ofNat 5)

/-- The groups behind a human-readable part, without their checksum, if that is right. -/
def verify (humanPart : List Char) (groups : List Group) : Option (List Group) :=
  if checksumGroups ≤ groups.length ∧ polymod (expand humanPart ++ groups) = 1 then
    some (groups.take (groups.length - checksumGroups))
  else none

/-- Read a text: its human-readable part and its groups. -/
def decode (text : List Char) : Option (List Char × List Group) := do
  if text.length ≤ textLimit ∧ text.all isPrintable then
    let (humanPart, symbols) ← splitLast? (← foldCase? text)
    if humanPart = [] then none
    else
      let groups ← verify humanPart (← symbols.mapM symbolValue?)
      return (humanPart, groups)
  else none

/-! ## Witness programs -/

/-- The bits of a group, most significant first. -/
def groupBits (group : Group) : List Bool := [4, 3, 2, 1, 0].map group.getLsbD

/-- The byte with these bits, most significant first. -/
def byteOfBits (bits : List Bool) : UInt8 :=
  UInt8.ofNat (bits.foldl (fun n bit => 2 * n + bit.toNat) 0)

/-- The groups regrouped to bytes. What is left over must be too little for a group, and zero. -/
def ungroup (groups : List Group) : Option Bytes :=
  let bits := groups.flatMap groupBits
  let count := bits.length / 8
  let padding := bits.drop (8 * count)
  if padding.length < 5 ∧ padding.all (! ·) then some ((chunks 8 count bits).map byteOfBits)
  else none

/-- What an address says. -/
structure WitnessAddress where
  humanPart : List Char
  version : Nat
  program : Bytes
deriving DecidableEq, Repr

/-- The version and the length of the program are ones that there are. -/
def WitnessAddress.isValid (address : WitnessAddress) : Bool :=
  address.version ≤ 16 && 2 ≤ address.program.length && address.program.length ≤ 40 &&
    (address.version != 0 || address.program.length == 20 || address.program.length == 32)

/-- Read the text of an address. -/
def decodeWitness (text : List Char) : Option WitnessAddress := do
  let (humanPart, version :: groups) ← decode text | none
  let address := ⟨humanPart, version.toNat, ← ungroup groups⟩
  if address.isValid then some address else none

end TwoOfThree.Bech32
