-- SUMMARY: Base58 text, with and without a checksum.
import TwoOfThree.Encoding.Radix
import TwoOfThree.Hash.Sha256
import TwoOfThree.Text.Hex
import TwoOfThree.Text.Utf8

/-!
# Base58 with a checksum

The bytes of a payload, and four bytes of its double SHA-256 digest after them,
are converted from base 256 to base 58 and spelled in an alphabet without
look-alikes. Reading checks the alphabet first, then that there is room for the
checksum, then the checksum itself.
-/

namespace TwoOfThree.Base58

/-! ## Digits -/

def alphabet : List Char :=
  "123456789ABCDEFGHJKLMNPQRSTUVWXYZabcdefghijkmnopqrstuvwxyz".toList

def digit (n : Nat) : Char := alphabet.getD n '1'

def digitValue? (byte : UInt8) : Option Nat :=
  alphabet.findIdx? (fun c => c.toNat = byte.toNat)

/-! ## Errors -/

inductive Error where
  | invalidCharacter (byte : UInt8)
  | tooShort (length : Nat)
  | checksum (actual expected : Nat)
deriving DecidableEq, Repr

namespace Error

def message : Error → String
  | .invalidCharacter _ => "decode"
  | .tooShort _ => "too short"
  | .checksum _ _ => "incorrect checksum"

/-- What lies below the message, in one more sentence. -/
def detail : Error → String
  | .invalidCharacter byte => s!"invalid base58 character 0x{Hex.ofNat byte.toNat}"
  | .tooShort length =>
    s!"base58 decoded data was not long enough, must be at least 4 byte: {length}"
  | .checksum actual expected =>
    s!"base58 checksum 0x{Hex.ofNat actual} does not match expected 0x{Hex.ofNat expected}"

end Error

/-! ## Text without a checksum -/

def encode (bytes : Bytes) : String :=
  String.ofList ((Radix.convert 256 58 (bytes.map UInt8.toNat)).map digit)

/-- The digits that the bytes of a text spell, or the first byte that is no digit. -/
def readDigits : Bytes → Except Error (List Nat)
  | [] => .ok []
  | byte :: rest =>
    match digitValue? byte with
    | none => .error (.invalidCharacter byte)
    | some value => (readDigits rest).map (value :: ·)

def decode (text : String) : Except Error Bytes :=
  (readDigits (Utf8.encode text)).map fun ds => (Radix.convert 58 256 ds).map UInt8.ofNat

/-! ## Text with a checksum -/

def checksumBytes : Nat := 4

def checksum (payload : Bytes) : Bytes :=
  (Sha256.digest (Sha256.digest payload)).take checksumBytes

def encodeChecked (payload : Bytes) : String := encode (payload ++ checksum payload)

/-- A checksum as the number that an error reports: its bytes, least significant first. -/
def checksumNumber (checksum : Bytes) : Nat := BigEndian.decode checksum.reverse

/-- The payload of bytes that end in a valid checksum. -/
def verify (bytes : Bytes) : Except Error Bytes :=
  if bytes.length < checksumBytes then .error (.tooShort bytes.length)
  else
    let payload := bytes.take (bytes.length - checksumBytes)
    let actual := bytes.drop (bytes.length - checksumBytes)
    let expected := checksum payload
    if actual = expected then .ok payload
    else .error (.checksum (checksumNumber actual) (checksumNumber expected))

/-- The payload of a text with a valid checksum. -/
def decodeChecked (text : String) : Except Error Bytes :=
  match decode text with
  | .error error => .error error
  | .ok bytes => verify bytes

end TwoOfThree.Base58
