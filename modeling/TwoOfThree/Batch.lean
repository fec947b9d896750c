-- SUMMARY: Deriving the addresses of many passphrases for one set of cosigners.
import TwoOfThree.Deposit

/-!
# Batches

A batch derives one address for every passphrase and keeps the order of the
passphrases. A passphrase that is not text, or that cannot be derived, spoils
its own entry only. The entries do not depend on how many of them are worked out
at a time; a concurrency beyond `permitLimit`, though, is more than there can be
permits to work, and a batch that asks for it is abandoned.
-/

namespace TwoOfThree.Batch

/-- One passphrase of a batch and what became of it. -/
structure Entry where
  /-- The passphrase as text, with replacement characters where it is not text. -/
  passphrase : String
  result : Except Error Address

/-- The passphrase as text, or the reason why it is none. -/
def readPassphrase (bytes : Bytes) : Except Error String :=
  match Utf8.decode bytes with
  | .error fault => .error (.invalidInput (.passphraseEncoding fault))
  | .ok text => .ok text

def entry (keys : List ExtendedKey) (network : Network) (passphrase : Bytes) : Entry where
  passphrase := Utf8.decodeLossy passphrase
  result := (readPassphrase passphrase).bind fun text => Deposit.deriveAddress keys text network

/-- What is reported of the entry at a position: its address, or its error. -/
def Entry.event (entry : Entry) (position : Nat) : LogEvent :=
  match entry.result with
  | .ok address => .depositDerived address address.network
  | .error error => .entryFailed position error

/-- The greatest number of entries that can be worked out at a time: one less than the 61st power
of two. -/
def permitLimit : Nat := 2305843009213693951

/-- Why a whole batch comes to nothing. -/
inductive Failure where
  | refused (error : Error)
  | tooManyPermits
deriving DecidableEq, Repr

/-- The entries of a batch, in the order of the passphrases. -/
def derive (keys : List ExtendedKey) (passphrases : List Bytes) (network : Network)
    (concurrency : Nat) : Logged (Except Failure (List Entry)) :=
  match Cosigners.checkCount keys with
  | .error error => ⟨.error (.refused error), []⟩
  | .ok keys =>
    if permitLimit < concurrency then ⟨.error .tooManyPermits, []⟩
    else
      let entries := passphrases.map (entry keys network)
      ⟨.ok entries,
        .batchStarted passphrases.length concurrency network ::
          entries.mapIdx fun position entry => entry.event position⟩

/-- The passphrases of a file: its lines, without line ends and without empty lines. -/
def splitPassphrases (content : Bytes) : List Bytes :=
  let newline : UInt8 := 0x0a
  let carriageReturn : UInt8 := 0x0d
  let lines := content.splitOn newline
  let texts := lines.map fun line =>
    if line.getLast? = some carriageReturn then line.dropLast else line
  texts.filter fun line => !line.isEmpty

end TwoOfThree.Batch
