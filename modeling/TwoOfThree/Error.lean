-- SUMMARY: Why a derivation is refused or fails, how that is told, and how it is classified.
import TwoOfThree.ExtendedKey.Error
import TwoOfThree.Text.Quoted

/-!
# Errors of a derivation

Input is refused before any key is touched when the number of keys is wrong or a
passphrase is not text. A key fails at its position, either while it is read or
while a path is walked from it. A network has to be one of the two selectors.
-/

namespace TwoOfThree

/-- Input that is refused before any key is touched. -/
inductive InputError where
  | keyCount (count : Nat)
  | passphraseEncoding (fault : Utf8.Fault)
deriving DecidableEq, Repr

namespace InputError

def message : InputError → String
  | .keyCount count => s!"must provide exactly 3 xpubs, got {count}"
  | .passphraseEncoding fault => s!"passphrase is not valid UTF-8: {fault.message}"

def causes : InputError → List String
  | .keyCount _ => []
  | .passphraseEncoding fault => [fault.message]

end InputError

inductive Error where
  | invalidInput (error : InputError)
  /-- The key at this position, counted from zero, cannot be read or walked from. -/
  | keyDerivation (position : Nat) (error : ExtendedKey.Error)
  | unsupportedNetwork (selector : String)
  /-- An entry of a batch was never worked out. -/
  | worker (reason : String)
deriving DecidableEq, Repr

namespace Error

def message : Error → String
  | .invalidInput error => s!"invalid input: {error.message}"
  | .keyDerivation position error =>
    s!"failed to derive child pubkey from xpub #{position}: {error.message}"
  | .unsupportedNetwork selector =>
    s!"unsupported network: {Quoted.encode selector} (expected \"main\" or \"test\")"
  | .worker reason => s!"batch worker failed: {reason}"

/-- The causes below the message, outermost first. -/
def causes : Error → List String
  | .invalidInput error => error.message :: error.causes
  | .keyDerivation _ error => error.message :: error.causes
  | .unsupportedNetwork _ => []
  | .worker _ => []

/-- The coarse classification of errors, for callers that only branch on it. -/
inductive Kind where
  | inputValidation
  | keyDerivation
  | unsupportedNetwork
  | worker
deriving DecidableEq, Repr

def kind : Error → Kind
  | .invalidInput _ => .inputValidation
  | .keyDerivation _ _ => .keyDerivation
  | .unsupportedNetwork _ => .unsupportedNetwork
  | .worker _ => .worker

end Error

end TwoOfThree
