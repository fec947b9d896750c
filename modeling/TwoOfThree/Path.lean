-- SUMMARY: Derivation paths: child numbers, their text, and the path that a passphrase names.
import TwoOfThree.Hash.Sha256
import TwoOfThree.Text.Utf8

/-!
# Derivation paths

A path is a list of child numbers, walked from a key to one of its descendants.
A passphrase names a path of ten levels: the first thirty bytes of its SHA-256
digest are read as ten numbers of three bytes each. Such a number is below 2^24,
far below the first hardened child, so every path of a passphrase can be walked
with public keys alone.
-/

namespace TwoOfThree

/-! ## Child numbers -/

/-- Hardened children are numbered from here on. -/
def hardenedBit : Nat := 0x80000000

/-- One step of a path. A hardened child can be derived from a private key only. -/
inductive ChildNumber where
  | normal (index : Fin hardenedBit)
  | hardened (index : Fin hardenedBit)
deriving DecidableEq, Repr

namespace ChildNumber

def ofRaw (raw : UInt32) : ChildNumber :=
  if h : raw.toNat < hardenedBit then .normal ⟨raw.toNat, h⟩
  else .hardened ⟨raw.toNat - hardenedBit, by
    have := raw.toNat_lt
    unfold hardenedBit at *
    omega⟩

def raw : ChildNumber → UInt32
  | .normal index => UInt32.ofNat index.val
  | .hardened index => UInt32.ofNat (index.val + hardenedBit)

theorem ofRaw_of_lt {raw : UInt32} (h : raw.toNat < hardenedBit) :
    ofRaw raw = .normal ⟨raw.toNat, h⟩ := dif_pos h

theorem raw_ofRaw (raw : UInt32) : (ofRaw raw).raw = raw := by
  unfold ofRaw
  split
  · simp [ChildNumber.raw]
  · next h =>
    have : raw.toNat - hardenedBit + hardenedBit = raw.toNat := by omega
    simp [ChildNumber.raw, this]

theorem ofRaw_raw (child : ChildNumber) : ofRaw child.raw = child := by
  cases child with
  | normal index =>
    have h := index.isLt
    have ht : (ChildNumber.normal index).raw.toNat = index.val := by
      rw [ChildNumber.raw, UInt32.toNat_ofNat']
      unfold hardenedBit at h
      omega
    simp [ofRaw, ht, h]
  | hardened index =>
    have h := index.isLt
    have ht : (ChildNumber.hardened index).raw.toNat = index.val + hardenedBit := by
      rw [ChildNumber.raw, UInt32.toNat_ofNat']
      unfold hardenedBit at h ⊢
      omega
    simp [ofRaw, ht]

end ChildNumber

/-! ## Paths -/

abbrev Path := List ChildNumber

namespace Path

/-- How many levels a passphrase names. -/
def levels : Nat := 10

/-- How many bytes of the digest name one level. -/
def segmentBytes : Nat := 3

/-- The numbers written by the leading bytes of a digest. -/
def indicesOfDigest (digest : Bytes) : List UInt32 :=
  (chunks segmentBytes levels digest).map fun segment =>
    UInt32.ofNat (BigEndian.decode segment)

def indices (passphrase : String) : List UInt32 :=
  indicesOfDigest (Sha256.digest (Utf8.encode passphrase))

/-- The path that a passphrase names. -/
def ofPassphrase (passphrase : String) : Path :=
  (indices passphrase).map ChildNumber.ofRaw

/-- The path that a passphrase given as bytes names. -/
def ofBytes (bytes : Bytes) : Except Utf8.Fault Path :=
  (Utf8.decode bytes).map ofPassphrase

/-! ## Text -/

def formatChars (indices : List UInt32) : List Char :=
  'm' :: indices.flatMap fun index => '/' :: Nat.toDigits 10 index.toNat

/-- Numbers as the text `m/i0/i1/...`. -/
def format (indices : List UInt32) : String := String.ofList (formatChars indices)

/-- A path as text: the raw number of every child, hardened or not. -/
def render (path : Path) : String := format (path.map ChildNumber.raw)

@[simp] theorem length_indicesOfDigest (digest : Bytes) :
    (indicesOfDigest digest).length = levels := by
  simp [indicesOfDigest]

@[simp] theorem length_indices (passphrase : String) : (indices passphrase).length = levels :=
  length_indicesOfDigest _

@[simp] theorem length_ofPassphrase (passphrase : String) :
    (ofPassphrase passphrase).length = levels := by
  simp [ofPassphrase]

theorem map_raw_ofPassphrase (passphrase : String) :
    (ofPassphrase passphrase).map ChildNumber.raw = indices passphrase := by
  rw [ofPassphrase, List.map_map]
  exact (List.map_congr_left fun raw _ => ChildNumber.raw_ofRaw raw).trans (List.map_id _)

theorem render_ofPassphrase (passphrase : String) :
    render (ofPassphrase passphrase) = format (indices passphrase) := by
  rw [render, map_raw_ofPassphrase]

end Path

end TwoOfThree
