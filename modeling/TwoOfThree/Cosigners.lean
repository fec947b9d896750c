-- SUMMARY: The three cosigners: reading their extended keys and walking a path under each.
import TwoOfThree.Error
import TwoOfThree.ExtendedKey.Derivation
import TwoOfThree.PublicKey

/-!
# Cosigners

Cosigners are given by a list of extended keys that has to hold exactly three.
The count is checked before any key is looked at. Keys are then treated in the
order in which they are given, and the first one that fails is reported with its
position.
-/

namespace TwoOfThree.Cosigners

def count : Nat := 3

/-- A list that holds exactly three is passed on. -/
def checkCount (items : List α) : Except Error (List α) :=
  if items.length = count then .ok items else .error (.invalidInput (.keyCount items.length))

/-- Apply `f` to every key in turn. The first failure is reported with its position, counted
from `position`. -/
def eachFrom (f : α → Except ExtendedKey.Error β) (position : Nat) :
    List α → Except Error (List β)
  | [] => .ok []
  | a :: rest =>
    match f a with
    | .error error => .error (.keyDerivation position error)
    | .ok b => (eachFrom f (position + 1) rest).map (b :: ·)

/-- Read three extended keys. -/
def parse (texts : List String) : Except Error (List ExtendedKey) :=
  (checkCount texts).bind (eachFrom ExtendedKey.parse 0)

/-- The public key of a cosigner at the end of a path. -/
def publicKeyAt (path : Path) (key : ExtendedKey) : Except ExtendedKey.Error PublicKey :=
  (key.descendant path).map PublicKey.ofPoint

/-- The public key of every cosigner at the end of a path, in the order of the cosigners. -/
def publicKeysAt (keys : List ExtendedKey) (path : Path) : Except Error (List PublicKey) :=
  (checkCount keys).bind (eachFrom (publicKeyAt path) 0)

/-- The public key of every cosigner for a passphrase. -/
def publicKeys (keys : List ExtendedKey) (passphrase : String) : Except Error (List PublicKey) :=
  publicKeysAt keys (Path.ofPassphrase passphrase)

end TwoOfThree.Cosigners
