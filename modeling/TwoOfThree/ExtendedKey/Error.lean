-- SUMMARY: Why an extended key cannot be read or derived, and how that is told.
import TwoOfThree.Encoding.Base58

/-!
# Errors of extended keys

Reading an extended key fails in its text, in the length or version of its
payload, or in its public key. Deriving a child fails on a hardened child, in the
curve arithmetic, or at the greatest depth. Each error is told by a message and
by a chain of causes below it.
-/

namespace TwoOfThree

/-- Why curve arithmetic fails. -/
inductive CurveError where
  | malformedPublicKey
  | tweakOutOfRange
  | sumIsNeutral
deriving DecidableEq, Repr

def CurveError.message : CurveError → String
  | .malformedPublicKey => "malformed public key"
  | .tweakOutOfRange => "malformed or out-of-range secret key"
  | .sumIsNeutral => "bad tweak"

namespace ExtendedKey

inductive Error where
  | base58 (error : Base58.Error)
  | payloadLength (length : Nat)
  | unknownVersion (version : Bytes)
  | curve (error : CurveError)
  | hardenedChild
  | depthExhausted
deriving DecidableEq, Repr

namespace Error

def message : Error → String
  | .base58 _ => "base58 encoding error"
  | .payloadLength _ => "base58 payload"
  | .unknownVersion version =>
    let numbers := ", ".intercalate (version.map fun byte => toString byte.toNat)
    s!"unknown version magic bytes: [{numbers}]"
  | .curve _ => "secp256k1 error"
  | .hardenedChild => "cannot derive hardened key from public key"
  | .depthExhausted => "cannot derive child of depth 256 or higher"

/-- The causes below the message, outermost first. -/
def causes : Error → List String
  | .base58 error => [error.message, error.detail]
  | .payloadLength length =>
    [s!"decoded base58 xpriv/xpub data was an invalid length: {length} (expected 78)"]
  | .unknownVersion _ => []
  | .curve error => [error.message]
  | .hardenedChild => []
  | .depthExhausted => []

end Error

end ExtendedKey

end TwoOfThree
