-- SUMMARY: Fresh passphrases from random bytes.
import TwoOfThree.Text.Hex

/-!
# Passphrases

A passphrase is the only secret that separates one deposit address from another.
A fresh one spells out 32 random bytes in hexadecimal.
-/

namespace TwoOfThree.Passphrase

/-- How many random bytes a fresh passphrase takes. -/
def randomBytes : Nat := 32

/-- The passphrase that random bytes give. -/
def ofRandom (bytes : FixedBytes randomBytes) : String := Hex.encode bytes.val

end TwoOfThree.Passphrase
