-- SUMMARY: Extended public keys and their Base58 text.
import TwoOfThree.Curve.Encoding
import TwoOfThree.ExtendedKey.Error
import TwoOfThree.Network
import TwoOfThree.Path

/-!
# Extended public keys

An extended key is a public key together with the chain code that its children
are derived with and with a note of where in the key tree it stands. Its text is
the checked Base58 form of 78 bytes: version, depth, fingerprint of the parent,
child number, chain code and public key. The note is kept as it is read; nothing
checks that depth, fingerprint and child number fit together.
-/

namespace TwoOfThree

structure ExtendedKey where
  network : Network
  depth : UInt8
  parentFingerprint : UInt32
  childNumber : ChildNumber
  chainCode : FixedBytes 32
  publicKey : Curve.Point
deriving DecidableEq

namespace ExtendedKey

def payloadBytes : Nat := 78

/-! ## Writing -/

def version : Network → Bytes
  | .main => [0x04, 0x88, 0xb2, 0x1e]
  | .test => [0x04, 0x35, 0x87, 0xcf]

def payload (key : ExtendedKey) : Bytes :=
  version key.network ++ key.depth :: BigEndian.encode 4 key.parentFingerprint.toNat
    ++ BigEndian.encode 4 key.childNumber.raw.toNat ++ key.chainCode.val ++ key.publicKey.short

/-- The text of an extended key. -/
def render (key : ExtendedKey) : String := Base58.encodeChecked key.payload

/-! ## Reading -/

def networkOfVersion? (bytes : Bytes) : Option Network :=
  if bytes = version .main then some .main
  else if bytes = version .test then some .test
  else none

/-- The 32-bit number at a place in a byte string. -/
def wordAt (bytes : Bytes) (offset : Nat) : UInt32 :=
  UInt32.ofNat (BigEndian.decode ((bytes.drop offset).take 4))

theorem length_chainCode {bytes : Bytes} (h : bytes.length = payloadBytes) :
    ((bytes.drop 13).take 32).length = 32 := by
  simp [h, payloadBytes]

/-- Read a payload: its length, then its version, then its public key. -/
def ofPayload (bytes : Bytes) : Except Error ExtendedKey :=
  if h : bytes.length = payloadBytes then
    match networkOfVersion? (bytes.take 4) with
    | none => .error (.unknownVersion (bytes.take 4))
    | some network =>
      match Curve.Point.ofShort? (bytes.drop 45) with
      | none => .error (.curve .malformedPublicKey)
      | some publicKey =>
        .ok {
          network
          depth := bytes.getD 4 0
          parentFingerprint := wordAt bytes 5
          childNumber := .ofRaw (wordAt bytes 9)
          chainCode := ⟨(bytes.drop 13).take 32, length_chainCode h⟩
          publicKey }
  else .error (.payloadLength bytes.length)

/-- Read the text of an extended key. -/
def parse (text : String) : Except Error ExtendedKey :=
  match Base58.decodeChecked text with
  | .error error => .error (.base58 error)
  | .ok payload => ofPayload payload

end ExtendedKey

end TwoOfThree
