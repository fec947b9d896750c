-- SUMMARY: What can be asked about one passphrase, with what is reported of the answer.
import TwoOfThree.Deposit

/-!
# Calls

One passphrase names numbers and a path, gives every cosigner a public key, and
determines a deposit. Only the deposit is reported when it is asked for: the
path would tell which passphrase an address belongs to.
-/

namespace TwoOfThree

/-- A question about one passphrase. -/
inductive Call where
  | indices (passphrase : String)
  | path (passphrase : String)
  | pathFromBytes (passphrase : Bytes)
  | publicKeys (keys : List ExtendedKey) (passphrase : String)
  | deposit (keys : List ExtendedKey) (passphrase : String) (network : Network)

namespace Call

/-- What a call is answered with. -/
abbrev Reply : Call → Type
  | .indices _ => List UInt32
  | .path _ => Path
  | .pathFromBytes _ => Except Error Path
  | .publicKeys _ _ => Except Error (List PublicKey)
  | .deposit _ _ _ => Except Error Deposit

def answer : (call : Call) → Logged call.Reply
  | .indices passphrase => pure (Path.indices passphrase)
  | .path passphrase => pure (Path.ofPassphrase passphrase)
  | .pathFromBytes passphrase => pure (Path.deriveFromBytes passphrase)
  | .publicKeys keys passphrase => pure (Cosigners.publicKeys keys passphrase)
  | .deposit keys passphrase network => Deposit.deriveLogged keys passphrase network

end Call

end TwoOfThree
