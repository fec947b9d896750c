-- SUMMARY: The deposit that three cosigners and a passphrase determine: keys, script, descriptor, address.
import TwoOfThree.Cosigners
import TwoOfThree.Log
import TwoOfThree.Script

/-!
# Deposits

A passphrase names a path, the path gives one public key for every cosigner, and
the sorted keys give a script that two of the three can spend from. The address
of the deposit is the SHA-256 digest of the script. Since the keys are sorted,
the order in which the cosigners are given does not show in the script.
-/

namespace TwoOfThree

/-- The path that a passphrase names, with the passphrase given as bytes that have to be text. -/
def Path.deriveFromBytes (bytes : Bytes) : Except Error Path :=
  (Path.ofBytes bytes).mapError fun fault => .invalidInput (.passphraseEncoding fault)

/-- The network that a selector names. -/
def Network.parse (selector : String) : Except Error Network :=
  match Network.ofSelector? selector with
  | some network => .ok network
  | none => .error (.unsupportedNetwork selector)

/-- How many of the cosigners have to sign. -/
def requiredSignatures : Nat := 2

/-- The name of the kind of script that deposits use. -/
def scriptType : String := "wsh_sortedmulti(2,3)"

/-- The witness script of keys in script order. -/
def multisigScript (keys : List PublicKey) : Bytes :=
  Script.encode (Script.multisig requiredSignatures keys)

/-- The witness script of keys in any order. -/
abbrev sortedMultisigScript (keys : List PublicKey) : Bytes := multisigScript (PublicKey.sort keys)

/-- The address that pays to a witness script. -/
def Address.ofScript (script : Bytes) (network : Network) : Address :=
  ⟨network, ⟨Sha256.digest script, Sha256.length_digest script⟩⟩

/-- Everything that is worked out for one deposit. -/
structure Deposit where
  path : Path
  /-- The public keys in script order. -/
  publicKeys : List PublicKey
  witnessScript : Bytes
  address : Address
  network : Network
deriving DecidableEq

namespace Deposit

/-- The deposit that public keys at the end of a path make, in whatever order they are given. -/
def ofPublicKeys (path : Path) (network : Network) (keys : List PublicKey) : Deposit :=
  let sorted := PublicKey.sort keys
  let script := multisigScript sorted
  { path
    publicKeys := sorted
    witnessScript := script
    address := Address.ofScript script network
    network }

/-- The deposit of three cosigners for a passphrase. -/
def derive (keys : List ExtendedKey) (passphrase : String) (network : Network) :
    Except Error Deposit :=
  let path := Path.ofPassphrase passphrase
  (Cosigners.publicKeysAt keys path).map (ofPublicKeys path network)

/-- The address of the deposit of three cosigners for a passphrase. -/
def deriveAddress (keys : List ExtendedKey) (passphrase : String) (network : Network) :
    Except Error Address :=
  (derive keys passphrase network).map Deposit.address

/-- The keys and the network that texts stand for. The number of keys is checked first, then the
network, and only then is every key read. -/
def readTexts (keys : List String) (selector : String) :
    Except Error (List ExtendedKey × Network) :=
  match Cosigners.checkCount keys with
  | .error error => .error error
  | .ok keys =>
    match Network.ofSelector? selector with
    | none => .error (.unsupportedNetwork selector)
    | some network => (Cosigners.parse keys).map (·, network)

/-- The text of the address, with keys and network given as text. No path is walked unless all of
them can be read. -/
def deriveAddressText (keys : List String) (passphrase selector : String) :
    Except Error String :=
  match readTexts keys selector with
  | .error error => .error error
  | .ok (keys, network) => (deriveAddress keys passphrase network).map Address.render

/-- What is reported of a derivation: its address if it succeeds, and nothing otherwise. -/
def events : Except Error Deposit → List LogEvent
  | .ok deposit => [.depositDerived deposit.address deposit.network]
  | .error _ => []

/-- A derivation that reports itself. -/
def deriveLogged (keys : List ExtendedKey) (passphrase : String) (network : Network) :
    Logged (Except Error Deposit) :=
  let result := derive keys passphrase network
  ⟨result, events result⟩

/-- The text of the address, with keys and network given as text, and the derivation reports
itself. -/
def deriveAddressTextLogged (keys : List String) (passphrase selector : String) :
    Logged (Except Error String) :=
  match readTexts keys selector with
  | .error error => pure (.error error)
  | .ok (keys, network) => do
    return (← deriveLogged keys passphrase network).map fun deposit => deposit.address.render

@[simp] theorem value_deriveLogged (keys : List ExtendedKey) (passphrase : String)
    (network : Network) :
    (deriveLogged keys passphrase network).value = derive keys passphrase network := rfl

theorem value_deriveAddressTextLogged (keys : List String) (passphrase selector : String) :
    (deriveAddressTextLogged keys passphrase selector).value =
      deriveAddressText keys passphrase selector := by
  unfold deriveAddressTextLogged deriveAddressText
  cases readTexts keys selector with
  | error error => rfl
  | ok texts =>
    simp only [Logged.value_bind, value_deriveLogged, Logged.value_pure, deriveAddress]
    cases derive texts.1 passphrase texts.2 <;> rfl

/-! ## Text -/

/-- The output descriptor of the deposit, with its keys in script order. -/
def descriptor (deposit : Deposit) : String :=
  let keys := ",".intercalate (deposit.publicKeys.map PublicKey.hex)
  s!"wsh(sortedmulti({requiredSignatures},{keys}))"

def witnessScriptHex (deposit : Deposit) : String := Hex.encode deposit.witnessScript

end Deposit

end TwoOfThree
